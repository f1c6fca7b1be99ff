-- SUMMARY: A plain host name after `https://` is a URL: the name is looked up as it is.
import DocAtlas.Proofs.Encoding
import DocAtlas.Proofs.List
import DocAtlas.Proofs.Text
import DocAtlas.Url.Basic

/-! # URLs of plain host names

Lower-case letters, digits, hyphens and dots are all that most host names have.
Such a name passes the rules for domain names unchanged, since the tables of
characters beyond ASCII do not concern it. -/

namespace DocAtlas.Url

open Text

/-- The characters of a plain host name. -/
def isHostChar (c : Char) : Bool := c.isLower || c.isDigit || c = '-' || c = '.'

/-- A name of plain characters that is no number and has no label in Punycode. -/
structure IsHostName (name : List Char) : Prop where
  ne_nil : name ≠ []
  chars : ∀ c ∈ name, isHostChar c = true
  unmarked : ∀ label ∈ splitOn '.' name, dropLead? "xn--".toList label = none
  no_number : Address.endsInNumber name = false

instance (name : List Char) : Decidable (IsHostName name) :=
  decidable_of_iff (name ≠ [] ∧ name.all isHostChar = true ∧
      (∀ label ∈ splitOn '.' name, dropLead? "xn--".toList label = none) ∧
      Address.endsInNumber name = false)
    ⟨fun ⟨hnil, hchars, hmark, hnumber⟩ => ⟨hnil, List.all_eq_true.1 hchars, hmark, hnumber⟩,
      fun h => ⟨h.ne_nil, List.all_eq_true.2 h.chars, h.unmarked, h.no_number⟩⟩

section Characters

variable {c : Char} (h : isHostChar c = true)

include h

/-- The characters lie between the blank and the last one of ASCII, and are not in upper case. -/
theorem bounds_of_isHostChar : 0x20 < c.toNat ∧ c.toNat < 0x7F ∧ ¬ c.isUpper = true := by
  simp only [isHostChar, Bool.or_eq_true, decide_eq_true_eq] at h
  rcases h with ((h | h) | rfl) | rfl
  · obtain ⟨hlow, hhigh⟩ := isLower_iff_toNat.1 h
    rw [isUpper_iff_toNat]
    omega
  · obtain ⟨hlow, hhigh⟩ := Char.isDigit_iff_toNat.1 h
    have hzero : 48 ≤ c.toNat := hlow
    have hnine : c.toNat ≤ 57 := hhigh
    rw [isUpper_iff_toNat]
    omega
  · decide
  · decide

theorem toLower_of_isHostChar : c.toLower = c := by
  obtain ⟨-, hsame⟩ | ⟨hupper, -⟩ := toLower_cases c
  · exact hsame
  · exact absurd hupper (bounds_of_isHostChar h).2.2

theorem ne_of_isHostChar {other : Char} (hother : isHostChar other = false) : c ≠ other := by
  rintro rfl
  rw [h] at hother
  cases hother

theorem not_mem_of_isHostChar {others : List Char} (hothers : others.any isHostChar = false) :
    c ∉ others := by
  intro hmem
  exact List.any_eq_false.1 hothers c hmem h

theorem endsAuthority_of_isHostChar : endsAuthority .special c = false := by
  have hother : c ∉ ['/', '\\', '?', '#'] := not_mem_of_isHostChar h (by decide)
  simpa [endsAuthority, isSlash, Style.isSpecial, and_assoc] using hother

end Characters

/-! ## Domain names -/

namespace Domain

set_option maxRecDepth 100000 in
/-- The table has no marks in ASCII. -/
theorem marks_high : ∀ range ∈ marks, 0x80 ≤ range.lo := by
  have htable : Tables.marksText.toList = _ := String.toList_ofList
  unfold marks CodeRanges.parse
  rw [htable]
  decide +kernel

theorem not_startsWithMark {label : List Char} (h : ∀ c ∈ label, c.toNat < 0x80) :
    startsWithMark label = false := by
  cases label with
  | nil => rfl
  | cons c label =>
    refine List.any_eq_false.2 fun range hrange => ?_
    have hlow := marks_high range hrange
    have hc := h c List.mem_cons_self
    simp only [CodeRange.contains, Bool.and_eq_true, decide_eq_true_eq]
    omega

theorem joinersAllowed_of_ascii {before label : List Char} (h : ∀ c ∈ label, c.toNat < 0x80) :
    joinersAllowed before label = true := by
  induction label generalizing before with
  | nil => rfl
  | cons c label ih =>
    have hc := h c List.mem_cons_self
    have hjoiner : ¬ c.toNat = 0x200D := by omega
    have hnonjoiner : ¬ c.toNat = 0x200C := by omega
    unfold joinersAllowed
    simp only [hjoiner, hnonjoiner, if_false, Bool.true_and]
    exact ih fun c hc => h c (List.mem_cons_of_mem _ hc)

/-- A label of plain characters obeys the rules. -/
theorem isValidLabel_of_isHostChar {label : List Char} (h : ∀ c ∈ label, isHostChar c = true) :
    isValidLabel label = true := by
  have hascii : ∀ c ∈ label, c.toNat < 0x80 := fun c hc => by
    have := bounds_of_isHostChar (h c hc)
    omega
  have hallowed : label.all isAllowed = true := by
    refine List.all_eq_true.2 fun c hc => ?_
    obtain ⟨hlow, hhigh, -⟩ := bounds_of_isHostChar (h c hc)
    have hforbidden := @not_mem_of_isHostChar c (h c hc) "%#/:<>?@[\\]^|".toList (by decide)
    simp only [isAllowed, hascii c hc, if_true, isForbidden, Bool.not_eq_true', Bool.or_eq_false_iff,
      decide_eq_false_iff_not, List.contains_eq_mem]
    exact ⟨⟨by omega, by omega⟩, hforbidden⟩
  simp [isValidLabel, hallowed, not_startsWithMark hascii, joinersAllowed_of_ascii hascii]

theorem normalize_of_isHostName {name : List Char} (h : IsHostName name) :
    normalize name = some name := by
  have hmapped : name.flatMap mapChar = name := by
    have hself : ∀ c ∈ name, mapChar c = [c] := by
      intro c hc
      have hbounds := bounds_of_isHostChar (h.chars c hc)
      rw [mapChar, if_pos (by omega), toLower_of_isHostChar (h.chars c hc)]
    rw [List.flatMap_congr hself, List.flatMap_singleton']
  have hexpand : (splitOn '.' name).mapM expand = some (splitOn '.' name) := by
    refine mapM_eq_some_self fun label hlabel => ?_
    rw [expand, h.unmarked label hlabel]
  have hlabels : ∀ label ∈ splitOn '.' name, ∀ c ∈ label, isHostChar c = true := by
    intro label hlabel c hc
    by_cases hdot : c = '.'
    · exact absurd hc (hdot ▸ not_mem_of_mem_splitOn hlabel)
    · exact h.chars c ((mem_splitOn_iff hdot).1 ⟨label, hlabel, hc⟩)
  have hvalid : (splitOn '.' name).all isValidLabel = true :=
    List.all_eq_true.2 fun label hlabel => isValidLabel_of_isHostChar (hlabels label hlabel)
  have hdirection : (splitOn '.' name).any hasRightToLeft = false := by
    refine List.any_eq_false.2 fun label hlabel => ?_
    simp only [hasRightToLeft, List.any_eq_true, not_exists, not_and, Bool.not_eq_true,
      Bool.and_eq_false_iff, decide_eq_false_iff_not]
    intro c hc
    have := bounds_of_isHostChar (hlabels label hlabel c hc)
    exact .inl (by omega)
  simp only [normalize, hmapped, hexpand, hvalid, hdirection, Bool.not_false, Bool.true_or,
    Bool.and_true, if_true]

end Domain

/-! ## Authorities -/

theorem cutHost_of_isHostChar {name : List Char} (h : ∀ c ∈ name, isHostChar c = true) :
    cutHost .special false name = (name, []) := by
  induction name with
  | nil => rfl
  | cons c rest ih =>
    have hc := h c List.mem_cons_self
    have hrest := ih fun c hc => h c (List.mem_cons_of_mem _ hc)
    have hcolon := ne_of_isHostChar hc (show isHostChar ':' = false by decide)
    have hopen := ne_of_isHostChar hc (show isHostChar '[' = false by decide)
    have hclose := ne_of_isHostChar hc (show isHostChar ']' = false by decide)
    simp [cutHost, hcolon, hopen, hclose, endsAuthority_of_isHostChar hc, hrest]

section Names

variable {name : List Char} (h : IsHostName name)

include h

theorem specialHost_of_isHostName : specialHost name = .ok (.domain (String.ofList name)) := by
  obtain ⟨c, rest, rfl⟩ := List.exists_cons_of_ne_nil h.ne_nil
  have hbracket : bracketed? (c :: rest) = none := by
    unfold bracketed?
    split
    next heq =>
      have hc := h.chars c List.mem_cons_self
      rw [(List.cons.inj heq).1] at hc
      cases hc
    next => rfl
  have hdecode : Utf8.lossy (Percent.bytes (c :: rest)) = c :: rest := by
    have hpercent : '%' ∉ (String.ofList (c :: rest)).toList := by
      rw [String.toList_ofList]
      exact fun hmem => ne_of_isHostChar (h.chars _ hmem) (by decide) rfl
    have hsame := congrArg String.toList (Percent.decode_of_not_mem hpercent)
    rwa [Percent.decode, String.toList_ofList, String.toList_ofList] at hsame
  simp only [specialHost, hbracket, hdecode, Domain.normalize_of_isHostName h, h.no_number,
    Bool.false_eq_true, if_false]

theorem authority_of_isHostName :
    authority .special name = .ok (some (.domain (String.ofList name)), []) := by
  have huser : cutUser .special name = .ok (false, name) := by
    have hat : '@' ∉ name.takeWhile (!endsAuthority .special ·) := fun hmem =>
      ne_of_isHostChar (h.chars _ ((List.takeWhile_prefix _).subset hmem)) (by decide) rfl
    simp [cutUser, hat]
  simp [authority, huser, cutHost_of_isHostChar h.chars, specialHost_of_isHostName h, h.ne_nil, skipPort,
    Style.isSpecial, bind, Except.bind, pure, Except.pure]

end Names

theorem strip_of_visible {cs : List Char} (h : ∀ c ∈ cs, 0x20 < c.toNat) : strip cs = cs := by
  have hedge {cs : List Char} (h : ∀ c ∈ cs, 0x20 < c.toNat) :
      cs.dropWhile (fun c => decide (c.toNat ≤ 0x20)) = cs := by
    cases cs with
    | nil => rfl
    | cons c cs => exact List.dropWhile_cons_of_neg (by simpa using h c List.mem_cons_self)
  have hreverse : ∀ c ∈ cs.reverse, 0x20 < c.toNat := fun c hc => h c (List.mem_reverse.1 hc)
  rw [strip, hedge h, hedge hreverse, List.reverse_reverse]
  refine List.filter_eq_self.2 fun c hc => ?_
  have hc := h c hc
  simp only [ne_eq, decide_not, Bool.and_eq_true, Bool.not_eq_true', decide_eq_false_iff_not]
  refine ⟨⟨?_, ?_⟩, ?_⟩ <;> rintro rfl <;> exact absurd hc (by decide)

/-- A plain host name with nothing behind it is a URL of the web. -/
theorem parse_https {name : List Char} (h : IsHostName name) :
    parse (String.ofList ("https://".toList ++ name)) =
      .ok { scheme := "https", host := some (.domain (String.ofList name)), path := "/"
            query := none, fragment := none } := by
  have hvisible : ∀ c ∈ "https://".toList ++ name, 0x20 < c.toNat := by
    intro c hc
    rcases List.mem_append.1 hc with hc | hc
    · have hlead : "https://".toList.all (fun c => 0x20 < c.toNat) = true := by decide
      exact of_decide_eq_true (List.all_eq_true.1 hlead c hc)
    · exact (bounds_of_isHostChar (h.chars c hc)).1
  have hscheme : splitScheme ("https://".toList ++ name) = some ("https", '/' :: '/' :: name) := rfl
  have hslashes : ('/' :: '/' :: name).dropWhile (isSlash .special) = name := by
    obtain ⟨c, rest, rfl⟩ := List.exists_cons_of_ne_nil h.ne_nil
    have hends := endsAuthority_of_isHostChar (h.chars c List.mem_cons_self)
    have hslash : isSlash .special c = false := by simp_all [endsAuthority]
    rw [List.dropWhile_cons_of_pos rfl, List.dropWhile_cons_of_pos rfl,
      List.dropWhile_cons_of_neg (by simp [hslash])]
  have hstyle : styleOf "https" = .special := by decide
  simp only [parse, String.toList_ofList, strip_of_visible hvisible, hscheme, hstyle, hslashes,
    authority_of_isHostName h, bind, Except.bind, pure, Except.pure]
  rfl

end DocAtlas.Url
