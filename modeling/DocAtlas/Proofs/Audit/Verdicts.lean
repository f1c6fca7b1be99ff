-- SUMMARY: Changes to a link that leave its verdict as it is: queries, fragments, and escapes outside of the extension.
import DocAtlas.Proofs.Audit.RouteLinks

/-! # Verdicts on links

What is said about a link in a document follows from its kind and its decoded
path. A query or a fragment changes neither. An escape does not change the
decoded path, but the kind is read before decoding: a link whose extension is
not written out is not taken for one to a Markdown file. -/

namespace DocAtlas

open Text

/-! ## Verdicts -/

namespace Reference

variable {s : Surroundings}

/-- The class and the reason under which a reference is reported; `none` where it is not. -/
def verdict? (s : Surroundings) (r : Reference) : Option (LinkClass × String) :=
  (r.broken? s).map fun (c, _, link) => (c, link.reason)

theorem verdict?_eq (s : Surroundings) (r : Reference) :
    r.verdict? s = r.class?.bind fun c => (r.fault? s).map (c, ·) := by
  unfold verdict? broken?
  cases r.class? <;> cases r.fault? s <;> rfl

variable {dest dest' : String} (doc : Document) (image : Bool)

/-- Links to the page itself are never reported. -/
theorem verdict?_of_samePage (h : Link.path dest = "") (line : Nat) :
    (document doc ⟨dest, image, line⟩).verdict? s = none := by
  have hfault : (document doc ⟨dest, image, line⟩).fault? s = none := by
    simp [fault?, Surroundings.documentFault?, h]
  rw [verdict?_eq, hfault]
  cases (document doc ⟨dest, image, line⟩).class? <;> rfl

/-- The verdict on a link to a Markdown file. -/
theorem verdict?_of_markdownFile {path : String} (hkind : Link.kind dest = .markdownFile)
    (hpath : Percent.decode (Link.path dest) = path) (hne : path ≠ "") (line : Nat) :
    (document doc ⟨dest, image, line⟩).verdict? s = (s.markdownFault? doc path).map (.markdown, ·) := by
  subst hpath
  rw [ne_eq, Percent.decode_eq_empty_iff] at hne
  simp only [verdict?_eq, class?, fault?, Surroundings.documentFault?, hkind, hne, if_false]
  rfl

/-- The verdict on any other relative link. -/
theorem verdict?_of_relative {path : String} (hkind : Link.kind dest = .relative)
    (hpath : Percent.decode (Link.path dest) = path) (hne : path ≠ "") (line : Nat) :
    (document doc ⟨dest, image, line⟩).verdict? s = (s.relativeFault? doc image path).map (.doc, ·) := by
  subst hpath
  rw [ne_eq, Percent.decode_eq_empty_iff] at hne
  simp only [verdict?_eq, class?, fault?, Surroundings.documentFault?, hkind, hne, if_false]
  rfl

/-- Links of one kind with one decoded path have the same verdict. -/
theorem verdict?_congr (hkind : Link.kind dest = Link.kind dest')
    (hpath : Percent.decode (Link.path dest) = Percent.decode (Link.path dest')) (line line' : Nat) :
    (document doc ⟨dest, image, line⟩).verdict? s
      = (document doc ⟨dest', image, line'⟩).verdict? s := by
  have hempty : Link.path dest = "" ↔ Link.path dest' = "" := by
    rw [← Percent.decode_eq_empty_iff, hpath, Percent.decode_eq_empty_iff]
  simp only [verdict?_eq, class?, fault?, Surroundings.documentFault?, hkind, hpath, hempty]

end Reference

/-! ## Queries and fragments -/

namespace Link

variable {text : List Char} {c : Char}

theorem isAnchor_append (hne : text ≠ []) (hhash : '#' ∉ text) (hdots : text ≠ ['.', '/'])
    (hc : c = '#' ∨ c = '?') (tail : List Char) :
    IsAnchor (text ++ c :: tail) ↔ IsAnchor text := by
  have hnot : ¬ IsAnchor text := by
    rintro (⟨rest, rfl⟩ | ⟨rest, rfl⟩) <;> simp at hhash
  refine iff_of_false ?_ hnot
  rintro (⟨rest, hrest⟩ | ⟨rest, hrest⟩)
  · obtain ⟨d, text, rfl⟩ := List.exists_cons_of_ne_nil hne
    obtain ⟨rfl, -⟩ := List.cons.inj hrest
    exact hhash List.mem_cons_self
  · -- the `#` would have to follow a `./` that is all of the text
    match text with
    | [d] =>
      obtain ⟨-, hrest⟩ := List.cons.inj hrest
      obtain ⟨rfl, -⟩ := List.cons.inj hrest
      simp at hc
    | [d, e] =>
      simp only [List.cons_append, List.nil_append, List.cons.injEq] at hrest
      exact hdots (by rw [← hrest.1, ← hrest.2.1])
    | d :: e :: f :: text =>
      simp only [List.cons_append, List.nil_append, List.cons.injEq] at hrest
      exact hhash (by simp [← hrest.2.2.1])

/-- A query or a fragment does not change the kind of a link. -/
theorem kind_append (hne : text ≠ []) (hhash : '#' ∉ text) (hquery : '?' ∉ text)
    (hdots : text ≠ ['.', '/']) (hc : c = '#' ∨ c = '?') (tail : List Char) :
    kind (String.ofList (text ++ c :: tail)) = kind (String.ofList text) := by
  have hscheme : isSchemeChar c = false := by rcases hc with rfl | rfl <;> rfl
  have hcolon : c ≠ ':' := by rcases hc with rfl | rfl <;> decide
  refine kind_congr (isExternal_append_cons hscheme hcolon text tail) ?_ ?_ ?_
  · simpa using isAnchor_append hne hhash hdots hc tail
  · obtain ⟨d, text, rfl⟩ := List.exists_cons_of_ne_nil hne
    simp
  · have hpath := pathPart_append_cons hhash hquery hc tail
    simp only [isMarkdownPath, String.toList_ofList, hpath, pathPart_eq_self hhash hquery]

end Link

namespace Reference

variable {s : Surroundings}

/-- What follows a path from the first `#` or `?` on has no bearing on the verdict. Only `./` before
a fragment is another link, one to the page itself. -/
theorem tail_keeps_verdict {path tail : String} (hhash : '#' ∉ path.toList) (hquery : '?' ∉ path.toList)
    (hdots : path ≠ "./") (htail : tail.toList.head? = some '#' ∨ tail.toList.head? = some '?')
    (doc : Document) (image : Bool) (line line' : Nat) :
    (document doc ⟨path ++ tail, image, line⟩).verdict? s
      = (document doc ⟨path, image, line'⟩).verdict? s := by
  obtain ⟨c, rest, hrest, hc⟩ : ∃ c rest, tail.toList = c :: rest ∧ (c = '#' ∨ c = '?') := by
    rcases htail with h | h
    · obtain ⟨rest, hrest⟩ := List.head?_eq_some_iff.1 h
      exact ⟨_, rest, hrest, .inl rfl⟩
    · obtain ⟨rest, hrest⟩ := List.head?_eq_some_iff.1 h
      exact ⟨_, rest, hrest, .inr rfl⟩
  have hpath : Link.path (path ++ tail) = path := by
    rw [Link.path, String.toList_append, hrest, Link.pathPart_append_cons hhash hquery hc rest,
      String.ofList_toList]
  have hself : Link.path path = path := Link.path_eq_self hhash hquery
  by_cases hempty : path = ""
  · rw [verdict?_of_samePage doc image (hpath.trans hempty),
      verdict?_of_samePage doc image (hself.trans hempty)]
  · have htext : path.toList ≠ [] := mt String.toList_eq_nil_iff.1 hempty
    have hdots' : path.toList ≠ ['.', '/'] := fun h => hdots (String.toList_inj.1 h)
    have hkind := Link.kind_append htext hhash hquery hdots' hc rest
    rw [← hrest, ← String.toList_append, String.ofList_toList, String.ofList_toList] at hkind
    exact verdict?_congr doc image hkind (by rw [hpath, hself]) line line'

/-- A query with a colon, a slash and an extension in it, and a fragment. -/
theorem tail_keeps_verdict_odd :
    '#' ∉ "gone.md".toList ∧ '?' ∉ "gone.md".toList ∧ "gone.md" ≠ "./" ∧
      (document (Surroundings.oddDoc "/") ⟨"gone.md" ++ "?a:b/c.png#./#d", true, 1⟩).verdict?
          (Surroundings.odd "/")
        = (document (Surroundings.oddDoc "/") ⟨"gone.md", true, 2⟩).verdict?
          (Surroundings.odd "/") :=
  ⟨by decide, by decide, by decide, tail_keeps_verdict (by decide) (by decide) (by decide)
    (by decide) _ _ _ _⟩

end Reference

/-! ## Escapes -/

namespace Text.Percent

/-- The characters that mean the same with and without an escape. -/
def isUnreserved (c : Char) : Bool := c.isAlphanum || c = '-' || c = '.' || c = '_' || c = '~'

theorem toNat_lt_of_isUnreserved {c : Char} (h : isUnreserved c = true) : c.toNat < 128 := by
  simp only [isUnreserved, Bool.or_eq_true, decide_eq_true_eq] at h
  rcases h with (((h | rfl) | rfl) | rfl) | rfl
  · have hcases : ((c.isUpper || c.isLower) || c.isDigit) = true := h
    rw [Bool.or_eq_true, Bool.or_eq_true] at hcases
    rcases hcases with (h | h) | h
    · exact Nat.lt_of_le_of_lt (isUpper_iff_toNat.1 h).2 (by decide)
    · exact Nat.lt_of_le_of_lt (isLower_iff_toNat.1 h).2 (by decide)
    · exact Nat.lt_of_le_of_lt (Char.isDigit_iff_toNat.1 h).2 (by decide)
  all_goals decide

theorem ne_of_isUnreserved {c d : Char} (hc : isUnreserved c = true) (hd : isUnreserved d = false) :
    c ≠ d := by
  rintro rfl
  rw [hc] at hd
  cases hd

/-- Lower case is that of letters only. -/
theorem eq_of_toLower_eq {x d : Char} (hd : d.isAlpha = false) (h : x.toLower = d) : x = d := by
  obtain ⟨-, hsame⟩ | ⟨hupper, hnat⟩ := toLower_cases x
  · rw [← hsame, h]
  · obtain ⟨ha, hz⟩ := isUpper_iff_toNat.1 hupper
    rw [h] at hnat
    have hlower : d.isLower = true := isLower_iff_toNat.2 (by omega)
    have halpha : (d.isUpper || d.isLower) = false := hd
    rw [hlower, Bool.or_true] at halpha
    cases halpha

end Text.Percent

namespace Link

open Percent

/-- An unreserved character in the path of a link, no digit of a triplet, and a triplet for it. -/
structure Escape where
  front : List Char
  char : Char
  back : List Char
  /-- The query and the fragment of the link. -/
  tail : List Char
  high : Char
  low : Char
  pathPart_eq : pathPart (front ++ char :: back ++ tail) = front ++ char :: back
  unreserved : isUnreserved char = true
  not_inTriplet : ¬ InTriplet front char back
  spells : Spells high low char

namespace Escape

variable (e : Escape)

/-- The link as it is without the escape. -/
def plain : String := String.ofList (e.front ++ e.char :: e.back ++ e.tail)

/-- The link with the character written as a triplet. -/
def escaped : String := String.ofList (e.front ++ '%' :: e.high :: e.low :: e.back ++ e.tail)

theorem isHexDigit_high : isHexDigit e.high = true := by simp [isHexDigit, e.spells.high]

theorem isHexDigit_low : isHexDigit e.low = true := by simp [isHexDigit, e.spells.low]

theorem ne_of_isHexDigit {x d : Char} (hx : isHexDigit x = true) (hd : isHexDigit d = false) : d ≠ x := by
  rintro rfl
  rw [hx] at hd
  cases hd

theorem pathPart_plain : pathPart e.plain.toList = e.front ++ e.char :: e.back := by
  rw [plain, String.toList_ofList, e.pathPart_eq]

theorem pathPart_back : pathPart (String.ofList e.back).toList = e.back := by
  obtain ⟨hhash, hquery, -⟩ := pathPart_append_eq_iff.1 e.pathPart_eq
  rw [String.toList_ofList]
  exact pathPart_eq_self (fun h => hhash (by simp [h])) (fun h => hquery (by simp [h]))

theorem pathPart_escaped :
    pathPart e.escaped.toList = e.front ++ '%' :: e.high :: e.low :: e.back := by
  obtain ⟨hhash, hquery, htail⟩ := pathPart_append_eq_iff.1 e.pathPart_eq
  have hnot {c : Char} (hc : isHexDigit c = false) (hpercent : c ≠ '%')
      (h : c ∉ e.front ++ e.char :: e.back) : c ∉ e.front ++ '%' :: e.high :: e.low :: e.back := by
    have hhigh := ne_of_isHexDigit e.isHexDigit_high hc
    have hlow := ne_of_isHexDigit e.isHexDigit_low hc
    simp only [List.mem_append, List.mem_cons, not_or] at h ⊢
    exact ⟨h.1, hpercent, hhigh, hlow, h.2.2⟩
  rw [escaped, String.toList_ofList, pathPart_append_eq_iff]
  exact ⟨hnot rfl (by decide) hhash, hnot rfl (by decide) hquery, htail⟩

theorem decode_path_escaped : decode (path e.escaped) = decode (path e.plain) := by
  rw [path, path, e.pathPart_escaped, e.pathPart_plain]
  exact decode_escape e.spells (toNat_lt_of_isUnreserved e.unreserved)
    (ne_of_isUnreserved e.unreserved (by decide)) e.not_inTriplet

theorem isExternal_escaped (h : isExternal e.plain = false) : isExternal e.escaped = false := by
  rw [escaped, List.append_assoc, List.cons_append, isExternal_append_cons (by decide) (by decide)]
  cases hfront : isExternal (String.ofList e.front) with
  | false => rfl
  | true =>
    have hplain := isExternal_append hfront (e.char :: e.back ++ e.tail)
    rw [← List.append_assoc] at hplain
    exact hplain.symm.trans h

theorem not_isAnchor_escaped (h : ¬ IsAnchor e.plain.toList) : ¬ IsAnchor e.escaped.toList := by
  have hfront {lead : List Char} (hlead : '%' ∉ lead) (hstart : lead <+: e.escaped.toList) :
      lead <+: e.plain.toList := by
    rw [escaped, String.toList_ofList, List.append_assoc] at hstart
    rw [plain, String.toList_ofList, List.append_assoc]
    exact (isPrefix_of_not_mem hlead hstart).trans (List.prefix_append _ _)
  rintro (hhash | hdots)
  · exact h (.inl (hfront (by decide) hhash))
  · exact h (.inr (hfront (by decide) hdots))

theorem head?_escaped : e.escaped.toList.head? = some '/' ↔ e.plain.toList.head? = some '/' := by
  have hchar : e.char ≠ '/' := ne_of_isUnreserved e.unreserved (by decide)
  rw [escaped, plain, String.toList_ofList, String.toList_ofList]
  cases e.front with
  | nil => simp [hchar]
  | cons c front => rfl

/-- A link with an escape names a Markdown file if the extension stands behind the escape. -/
theorem isMarkdownPath_escaped :
    isMarkdownPath e.escaped = isMarkdownPath (String.ofList e.back) := by
  have hdot {x : Char} (hx : isHexDigit x = true) : '.' ≠ x.toLower := by
    intro h
    rw [eq_of_toLower_eq rfl h.symm] at hx
    cases hx
  have hsuffix {ext : List Char} (hext : '%' ∉ '.' :: ext) :
      '.' :: ext <:+ lower (e.front ++ '%' :: e.high :: e.low :: e.back) ↔ '.' :: ext <:+ lower e.back := by
    constructor
    · intro h
      rw [lower, List.map_append, List.map_cons] at h
      have hrest := isSuffix_of_not_mem hext h
      -- no digit is the dot of the extension
      rw [List.map_cons, List.map_cons, List.suffix_cons_iff, List.suffix_cons_iff] at hrest
      rcases hrest with hhigh | hlow | hback
      · exact absurd (List.cons.inj hhigh).1 (hdot e.isHexDigit_high)
      · exact absurd (List.cons.inj hlow).1 (hdot e.isHexDigit_low)
      · exact hback
    · intro h
      refine h.trans ?_
      rw [lower, lower, List.map_append, List.map_cons, List.map_cons, List.map_cons]
      exact ⟨lower e.front ++ ['%'.toLower, e.high.toLower, e.low.toLower], by simp [lower]⟩
  rw [Bool.eq_iff_iff, isMarkdownPath_iff, isMarkdownPath_iff, e.pathPart_escaped, e.pathPart_back]
  exact or_congr (hsuffix (by decide)) (hsuffix (by decide))

theorem isMarkdownPath_plain (h : isMarkdownPath (String.ofList e.back) = true) :
    isMarkdownPath e.plain = true := by
  have hback : lower e.back <:+ lower (e.front ++ e.char :: e.back) :=
    ⟨lower (e.front ++ [e.char]), by simp [lower]⟩
  rw [isMarkdownPath_iff, e.pathPart_back] at h
  rw [isMarkdownPath_iff, e.pathPart_plain]
  exact h.imp (·.trans hback) (·.trans hback)

/-- An escape changes the kind of a link only where it leaves no extension behind it. -/
theorem kind_escaped (hexternal : kind e.plain ≠ .external) (hfragment : kind e.plain ≠ .fragment) :
    kind e.escaped = if kind e.plain = .markdownFile ∧ isMarkdownPath (String.ofList e.back) = false
      then .relative else kind e.plain := by
  have hscheme : isExternal e.plain = false := by
    by_contra h
    exact hexternal (by rw [kind_eq, if_pos (by simpa using h)])
  have hanchor : ¬ IsAnchor e.plain.toList := by
    intro h
    exact hfragment (by rw [kind_eq, hscheme, if_neg (by decide), if_pos h])
  have hplain := e.isMarkdownPath_plain
  rw [kind_eq, kind_eq, e.isExternal_escaped hscheme, hscheme, e.isMarkdownPath_escaped]
  simp only [e.not_isAnchor_escaped hanchor, hanchor, e.head?_escaped, Bool.false_eq_true, if_false]
  by_cases hslash : e.plain.toList.head? = some '/'
  · simp [hslash]
  · cases hback : isMarkdownPath (String.ofList e.back) with
    | true => simp [hslash, hplain hback]
    | false => cases isMarkdownPath e.plain <;> simp [hslash]

/-- An `e` between another escape and the extension. -/
def inName : Escape where
  front := "g%6Fn".toList
  char := 'e'
  back := ".md".toList
  tail := "?v#t".toList
  high := '6'
  low := '5'
  pathPart_eq := by decide
  unreserved := by decide
  not_inTriplet := by
    rintro ⟨-, ⟨x, -, front, hfront⟩ | ⟨⟨front, hfront⟩, -⟩⟩
    · simpa using congrArg List.reverse hfront
    · simpa using congrArg List.reverse hfront
  spells := ⟨by decide, by decide⟩

/-- The dot of the extension. -/
def inExtension : Escape where
  front := "gone".toList
  char := '.'
  back := "md".toList
  tail := []
  high := '2'
  low := 'E'
  pathPart_eq := by decide
  unreserved := by decide
  not_inTriplet := fun h => by cases h.1
  spells := ⟨by decide, by decide⟩

end Escape

end Link

namespace Reference

variable {s : Surroundings} {dest : String}

theorem map_verdict?_fst (r : Reference) :
    (r.verdict? s).map Prod.fst = if r.Resolves s then none else r.class? := by
  rw [verdict?, broken?_eq]
  split
  next => rfl
  next => cases r.class? <;> rfl

/-- Where there are no documents, routes and files, no relative link resolves. -/
theorem not_resolves_empty (hkind : Link.kind dest = .markdownFile ∨ Link.kind dest = .relative)
    (hpath : Link.path dest ≠ "") (doc : Document) (image : Bool) (line : Nat) :
    ¬ (document doc ⟨dest, image, line⟩).Resolves { s with catalog := {}, disk := {} } := by
  intro h
  cases h with
  | external kind | fragment kind | siteRoot kind => simp [kind] at hkind
  | samePage path => exact hpath path
  | markdownFile _ target =>
    obtain ⟨_, -, d, hd, -⟩ := target
    cases hd
  | page _ _ route => cases route
  | file _ target =>
    obtain ⟨path, -, hfile⟩ := target
    rw [Disk.isFile_empty] at hfile
    cases hfile

/-- An escape leaves it as it is whether and in which class a link is reported, whatever there is to
link to, exactly when it leaves the extension of a link to a Markdown file behind it. -/
theorem escape_keeps_class_iff (e : Link.Escape) (hexternal : Link.kind e.plain ≠ .external)
    (hfragment : Link.kind e.plain ≠ .fragment) (doc : Document) (image : Bool) (line : Nat) :
    (∀ catalog disk,
        ((document doc ⟨e.escaped, image, line⟩).verdict? { s with catalog, disk }).map Prod.fst
          = ((document doc ⟨e.plain, image, line⟩).verdict? { s with catalog, disk }).map Prod.fst) ↔
      (Link.kind e.plain = .markdownFile → Link.isMarkdownPath (String.ofList e.back) = true) := by
  have hkind := e.kind_escaped hexternal hfragment
  constructor
  · intro hsame hmarkdown
    by_contra hback
    have hempty := hsame {} {}
    rw [if_pos ⟨hmarkdown, by simpa using hback⟩] at hkind
    have hplain : Link.path e.plain ≠ "" := by
      rw [Link.path, e.pathPart_plain]
      simp
    have hescaped : Link.path e.escaped ≠ "" := by
      rw [Link.path, e.pathPart_escaped]
      simp
    rw [map_verdict?_fst, map_verdict?_fst,
      if_neg (not_resolves_empty (.inr hkind) hescaped doc image line),
      if_neg (not_resolves_empty (.inl hmarkdown) hplain doc image line)] at hempty
    simp only [class?, hkind, hmarkdown] at hempty
    cases hempty
  · intro hback catalog disk
    rw [if_neg (by simpa using hback)] at hkind
    rw [verdict?_congr doc image hkind e.decode_path_escaped line line]

theorem escape_keeps_class_iff_inName :
    Link.kind "g%6Fne.md?v#t" = .markdownFile ∧
      ∀ catalog disk,
        ((document (Surroundings.oddDoc "/") ⟨"g%6Fn%65.md?v#t", false, 1⟩).verdict?
            { Surroundings.odd "/" with catalog, disk }).map Prod.fst
          = ((document (Surroundings.oddDoc "/") ⟨"g%6Fne.md?v#t", false, 1⟩).verdict?
            { Surroundings.odd "/" with catalog, disk }).map Prod.fst := by
  have hkind : Link.kind Link.Escape.inName.plain = .markdownFile := by decide
  have hback : Link.isMarkdownPath (String.ofList Link.Escape.inName.back) = true := by decide
  exact ⟨hkind, (escape_keeps_class_iff Link.Escape.inName (by rw [hkind]; decide)
    (by rw [hkind]; decide) _ _ _).2 fun _ => hback⟩

/-- With the dot of its extension escaped, a broken link to a Markdown file is reported among the
links to routes. -/
theorem escaped_extension_reclassified :
    (Catalog.load Catalog.oddDisk (Catalog.oddSite "/")).result = .ok (Catalog.oddCatalog "/") ∧
      (document (Surroundings.oddDoc "/") ⟨"gone.md", false, 1⟩).verdict? (Surroundings.odd "/")
        = some (.markdown, "file not found") ∧
      (document (Surroundings.oddDoc "/") ⟨"gone%2Emd", false, 2⟩).verdict? (Surroundings.odd "/")
        = some (.doc, "not found") := by
  have hplain : Percent.decode (Link.path "gone.md") = "gone.md" := by
    have hpath : Link.path "gone.md" = "gone.md" := by decide
    rw [hpath, Percent.decode_of_not_mem (by decide)]
  have hescaped : Percent.decode (Link.path "gone%2Emd") = "gone.md" :=
    Link.Escape.inExtension.decode_path_escaped.trans hplain
  have hkind : Link.kind "gone.md" = .markdownFile := by decide
  have hkind' : Link.kind "gone%2Emd" = .relative := by decide
  refine ⟨Catalog.load_odd "/", ?_, ?_⟩
  · have hfault : (Surroundings.odd "/").markdownFault? (Surroundings.oddDoc "/") "gone.md"
        = some "file not found" := by decide
    rw [verdict?_of_markdownFile _ _ hkind hplain (by decide), hfault]
    rfl
  · have hfault : (Surroundings.odd "/").relativeFault? (Surroundings.oddDoc "/") false "gone.md"
        = some "not found" := by decide
    rw [verdict?_of_relative _ _ hkind' hescaped (by decide), hfault]
    rfl

end Reference

end DocAtlas
