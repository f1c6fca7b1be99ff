-- SUMMARY: Splitting, joining and searching of text in the terms of the list library.
import DocAtlas.Text.Basic
import Mathlib.Data.List.Basic
import Mathlib.Data.List.DropRight

/-! # Text and lists

The functions on text are those of the list library under other names: pieces
are split and joined again as `List.splitOn` and `List.intercalate` do it, and a
text starts with, ends with or contains another one as a prefix, a suffix or an
infix. Lines keep their newlines, so a text is its lines put together. The order
of texts is the linear order of strings. -/

namespace DocAtlas.Text

/-! ## Letters -/

theorem isUpper_iff_toNat {c : Char} : c.isUpper = true ↔ 65 ≤ c.toNat ∧ c.toNat ≤ 90 :=
  decide_eq_true_iff

theorem isLower_iff_toNat {c : Char} : c.isLower = true ↔ 97 ≤ c.toNat ∧ c.toNat ≤ 122 := by
  change (decide (97 ≤ c.toNat) && decide (c.toNat ≤ 122)) = true ↔ _
  rw [Bool.and_eq_true, decide_eq_true_eq, decide_eq_true_eq]

/-- A letter in upper case moves to the other case; any other character stays as it is. -/
theorem toLower_cases (c : Char) :
    ¬ c.isUpper = true ∧ c.toLower = c ∨ c.isUpper = true ∧ c.toLower.toNat = c.toNat + 32 := by
  by_cases h : c.val ≥ 'A'.val ∧ c.val ≤ 'Z'.val
  · have hupper : c.isUpper = true := decide_eq_true h
    obtain ⟨-, hz⟩ := isUpper_iff_toNat.1 hupper
    have hlower : c.toLower.val = c.val + 32 := congrArg Char.val (dif_pos h)
    refine .inr ⟨hupper, ?_⟩
    change c.toLower.val.toNat = c.val.toNat + 32
    rw [hlower, UInt32.toNat_add]
    exact Nat.mod_eq_of_lt (Nat.lt_of_le_of_lt (Nat.add_le_add_right hz 32) (by decide))
  · exact .inl ⟨fun hupper => h (of_decide_eq_true hupper), dif_neg h⟩

/-! ## Trimming -/

theorem trimStart_of_blank {cs : List Char} (h : ∀ c ∈ cs, isBlank c = true) : trimStart cs = [] :=
  List.dropWhile_eq_nil_iff.2 h

theorem trimEnd_of_blank {cs : List Char} (h : ∀ c ∈ cs, isBlank c = true) : trimEnd cs = [] :=
  List.rdropWhile_eq_nil_iff.2 h

theorem trim_of_blank {cs : List Char} (h : ∀ c ∈ cs, isBlank c = true) : trim cs = [] := by
  rw [trim, trimStart_of_blank h]
  rfl

theorem trimEnd_append_blank {blanks : List Char} (h : ∀ c ∈ blanks, isBlank c = true)
    (cs : List Char) : trimEnd (cs ++ blanks) = trimEnd cs := by
  have hreverse : ∀ c ∈ blanks.reverse, isBlank c = true := by simpa using h
  rw [trimEnd, List.reverse_append, List.dropWhile_append_of_pos hreverse, trimEnd]

theorem trimStart_append_cons {c : Char} (hc : isBlank c = false) (front rest : List Char) :
    trimStart (front ++ c :: rest) = trimStart front ++ c :: rest := by
  simp only [trimStart, List.dropWhile_append]
  split
  next hfront => simp_all
  next => rfl

theorem trimEnd_append_cons {c : Char} (hc : isBlank c = false) (front rest : List Char) :
    trimEnd (front ++ c :: rest) = front ++ c :: trimEnd rest := by
  have hstart := trimStart_append_cons hc rest.reverse front.reverse
  simp only [trimStart] at hstart
  simp [trimEnd, hstart]

theorem trim_append_cons {c : Char} (hc : isBlank c = false) (front rest : List Char) :
    trim (front ++ c :: rest) = trimStart front ++ c :: trimEnd rest := by
  rw [trim, trimStart_append_cons hc, trimEnd_append_cons hc]

theorem trim_trimStart (cs : List Char) : trim (trimStart cs) = trim cs := by
  rw [trim, trimStart, trimStart, List.dropWhile_idempotent, trim, trimStart]

theorem trim_trimEnd (cs : List Char) : trim (trimEnd cs) = trim cs := by
  by_cases h : ∀ c ∈ cs, isBlank c = true
  · rw [trimEnd_of_blank h, trim_of_blank h]
    rfl
  · push Not at h
    obtain ⟨c, hmem, hc⟩ := h
    rw [ne_eq, Bool.not_eq_true] at hc
    obtain ⟨front, rest, rfl⟩ := List.append_of_mem hmem
    have hrest : trimEnd (trimEnd rest) = trimEnd rest := List.rdropWhile_idempotent isBlank rest
    rw [trimEnd_append_cons hc, trim_append_cons hc, trim_append_cons hc, hrest]

theorem trim_between {before after cs : List Char} (hbefore : ∀ c ∈ before, isBlank c = true)
    (hafter : ∀ c ∈ after, isBlank c = true) : trim (before ++ cs ++ after) = trim cs := by
  have hstart : trimStart (before ++ cs) = trimStart cs := List.dropWhile_append_of_pos hbefore
  rw [← trim_trimEnd, trimEnd_append_blank hafter, trim_trimEnd, trim, hstart, trim]

theorem mem_of_mem_trim {c : Char} {cs : List Char} (h : c ∈ trim cs) : c ∈ cs := by
  have hend : trim cs <+: trimStart cs := List.rdropWhile_prefix isBlank (trimStart cs)
  exact (List.dropWhile_suffix isBlank).subset (hend.subset h)

/-! ## Splitting and joining -/

theorem splitOn_eq (sep : Char) (cs : List Char) : splitOn sep cs = cs.splitOn sep := by
  induction cs with
  | nil => rfl
  | cons c cs ih =>
    rw [splitOn, List.splitOn_cons_eq_if_modifyHead, ih]
    by_cases h : c = sep
    · simp [h]
    · simp only [h, if_false, beq_iff_eq]
      cases hcs : cs.splitOn sep with
      | nil => exact absurd hcs (List.splitOn_ne_nil sep cs)
      | cons piece pieces => rfl

theorem joinWith_eq (sep : Char) (pieces : List (List Char)) :
    joinWith sep pieces = [sep].intercalate pieces := by
  induction pieces with
  | nil => rfl
  | cons piece rest ih =>
    cases rest with
    | nil => simp [joinWith]
    | cons next rest =>
      rw [joinWith_cons_of_ne_nil sep piece (List.cons_ne_nil next rest), ih,
        List.intercalate_cons_cons, List.append_assoc, List.singleton_append]

theorem splitOn_joinWith {sep : Char} {pieces : List (List Char)} (hne : pieces ≠ [])
    (h : ∀ piece ∈ pieces, sep ∉ piece) : splitOn sep (joinWith sep pieces) = pieces := by
  rw [splitOn_eq, joinWith_eq, List.splitOn_intercalate sep h hne]

theorem splitOn_append (sep : Char) (as bs : List Char) :
    splitOn sep (as ++ sep :: bs) = splitOn sep as ++ splitOn sep bs := by
  simp only [splitOn_eq, List.splitOn_append_cons_self]

/-- After the first piece, each piece has the separator in front. -/
theorem joinWith_cons (sep : Char) (piece : List Char) (pieces : List (List Char)) :
    joinWith sep (piece :: pieces) = piece ++ pieces.flatMap (sep :: ·) := by
  induction pieces generalizing piece with
  | nil => simp [joinWith]
  | cons next rest ih =>
    rw [joinWith_cons_of_ne_nil sep piece (List.cons_ne_nil next rest), ih, List.flatMap_cons,
      List.cons_append]

theorem joinWith_append (sep : Char) {front rest : List (List Char)} (hfront : front ≠ [])
    (hrest : rest ≠ []) :
    joinWith sep (front ++ rest) = joinWith sep front ++ sep :: joinWith sep rest := by
  obtain ⟨first, front, rfl⟩ := List.exists_cons_of_ne_nil hfront
  obtain ⟨next, rest, rfl⟩ := List.exists_cons_of_ne_nil hrest
  rw [List.cons_append, joinWith_cons, joinWith_cons, joinWith_cons]
  simp

theorem mem_joinWith_iff {sep c : Char} (hc : c ≠ sep) {pieces : List (List Char)} :
    c ∈ joinWith sep pieces ↔ ∃ piece ∈ pieces, c ∈ piece := by
  cases pieces with
  | nil => simp [joinWith]
  | cons piece pieces => simp [joinWith_cons, hc]

/-- The characters of a text other than the separator are those of its pieces. -/
theorem mem_splitOn_iff {sep c : Char} (hc : c ≠ sep) {cs : List Char} :
    (∃ piece ∈ splitOn sep cs, c ∈ piece) ↔ c ∈ cs := by
  rw [← mem_joinWith_iff hc, joinWith_splitOn]

theorem splitOnce_eq_some_iff {sep : Char} {cs before after : List Char} :
    splitOnce sep cs = some (before, after) ↔ cs = before ++ sep :: after ∧ sep ∉ before := by
  induction cs generalizing before with
  | nil => simp [splitOnce]
  | cons c cs ih =>
    rw [splitOnce]
    by_cases hc : c = sep
    · rw [if_pos hc]
      cases before with
      | nil => simp [hc]
      | cons d before =>
        simp only [Option.some.injEq, Prod.mk.injEq, List.nil_eq, reduceCtorEq, false_and, false_iff]
        rintro ⟨hcs, hsep⟩
        have hd : c = d := (List.cons.inj hcs).1
        exact hsep (hc ▸ hd ▸ List.mem_cons_self)
    · rw [if_neg hc, Option.map_eq_some_iff]
      constructor
      · rintro ⟨⟨front, rest⟩, hfront, hcons⟩
        obtain ⟨rfl, rfl⟩ := Prod.mk.inj hcons
        obtain ⟨rfl, hsep⟩ := ih.1 hfront
        exact ⟨rfl, by simp [Ne.symm hc, hsep]⟩
      · rintro ⟨hcs, hsep⟩
        cases before with
        | nil => exact absurd (List.cons.inj hcs).1 hc
        | cons d before =>
          obtain ⟨rfl, hrest⟩ := List.cons.inj hcs
          exact ⟨_, ih.2 ⟨hrest, fun h => hsep (List.mem_cons_of_mem _ h)⟩, rfl⟩

theorem splitOnce_eq_none_iff {sep : Char} {cs : List Char} :
    splitOnce sep cs = none ↔ sep ∉ cs := by
  induction cs with
  | nil => simp [splitOnce]
  | cons c cs ih =>
    rw [splitOnce]
    split
    next hc => simp [hc]
    next hc => simp [ih, Ne.symm hc]

/-! ## Lines -/

/-- A line with its newline. -/
def IsWholeLine (line : List Char) : Prop := ∃ text, '\n' ∉ text ∧ line = text ++ ['\n']

/-- Lines as they follow each other in a text: the last one may lack its newline, but then it is
not empty. -/
inductive AreLines : List (List Char) → Prop
  | nil : AreLines []
  | last {text} : text ≠ [] → '\n' ∉ text → AreLines [text]
  | cons {line rest} : IsWholeLine line → AreLines rest → AreLines (line :: rest)

theorem areLines_lines (cs : List Char) : AreLines (lines cs) := by
  induction cs with
  | nil => exact .nil
  | cons c cs ih =>
    rw [lines]
    split
    next hc => exact .cons ⟨[], List.not_mem_nil, by rw [hc]; rfl⟩ ih
    next hc =>
      split
      next => exact .last (List.cons_ne_nil _ _) (by simp [Ne.symm hc])
      next line rest hlines =>
        rw [hlines] at ih
        cases ih with
        | last hne hline => exact .last (List.cons_ne_nil _ _) (by simp [Ne.symm hc, hline])
        | cons hline hrest =>
          obtain ⟨text, htext, rfl⟩ := hline
          exact .cons ⟨c :: text, by simp [Ne.symm hc, htext], rfl⟩ hrest

theorem flatten_lines (cs : List Char) : (lines cs).flatten = cs := by
  induction cs with
  | nil => rfl
  | cons c cs ih =>
    rw [lines]
    split
    next => rw [List.flatten_cons, ih, List.singleton_append]
    next =>
      split
      next hlines =>
        rw [hlines] at ih
        rw [← ih]
        rfl
      next line rest hlines =>
        rw [hlines] at ih
        rw [← ih]
        rfl

theorem lines_of_no_newline {cs : List Char} (hne : cs ≠ []) (h : '\n' ∉ cs) : lines cs = [cs] := by
  induction cs with
  | nil => exact absurd rfl hne
  | cons c cs ih =>
    rw [List.mem_cons, not_or] at h
    rw [lines, if_neg (Ne.symm h.1)]
    cases cs with
    | nil => rfl
    | cons d cs => rw [ih (List.cons_ne_nil d cs) h.2]

theorem lines_append_of_isWholeLine {line : List Char} (h : IsWholeLine line) (rest : List Char) :
    lines (line ++ rest) = line :: lines rest := by
  obtain ⟨text, htext, rfl⟩ := h
  induction text with
  | nil => simp [lines]
  | cons c text ih =>
    rw [List.mem_cons, not_or] at htext
    rw [List.cons_append, List.cons_append, lines, if_neg (Ne.symm htext.1), ih htext.2]

/-! ## Names -/

/-- A piece between slashes that stands for itself. -/
structure IsPlain (piece : List Char) : Prop where
  ne_nil : piece ≠ []
  ne_dot : piece ≠ ['.']
  ne_dots : piece ≠ ['.', '.']
  no_slash : '/' ∉ piece

instance (piece : List Char) : Decidable (IsPlain piece) :=
  decidable_of_iff (piece ≠ [] ∧ piece ≠ ['.'] ∧ piece ≠ ['.', '.'] ∧ '/' ∉ piece)
    ⟨fun ⟨hnil, hdot, hdots, hslash⟩ => ⟨hnil, hdot, hdots, hslash⟩,
      fun h => ⟨h.ne_nil, h.ne_dot, h.ne_dots, h.no_slash⟩⟩

/-- Plain pieces can be read off their joined text, even where there are none. -/
theorem filter_splitOn_joinWith {pieces : List (List Char)}
    (h : ∀ piece ∈ pieces, piece ≠ [] ∧ '/' ∉ piece) :
    (splitOn '/' (joinWith '/' pieces)).filter (· ≠ []) = pieces := by
  cases pieces with
  | nil => rfl
  | cons first rest =>
    rw [splitOn_joinWith (List.cons_ne_nil first rest) fun piece hp => (h piece hp).2]
    exact List.filter_eq_self.2 fun piece hp => by simpa using (h piece hp).1

theorem getLast?_slash_joinWith_ne {pieces : List (List Char)} (hne : pieces ≠ [])
    (h : ∀ piece ∈ pieces, IsPlain piece) : ('/' :: joinWith '/' pieces).getLast? ≠ some '/' := by
  obtain ⟨front, last, rfl⟩ := pieces.eq_nil_or_concat.resolve_left hne
  rw [List.concat_eq_append] at h ⊢
  have hlast := h last (by simp)
  -- the slash in front stands behind an empty first piece
  have hslash := joinWith_cons_of_ne_nil '/' [] (List.concat_ne_nil last front)
  rw [← List.nil_append ('/' :: _), ← hslash]
  exact getLast?_joinWith_concat_ne ([] :: front) hlast.ne_nil hlast.no_slash

theorem joinWith_injective {pieces pieces' : List (List Char)}
    (h : ∀ piece ∈ pieces, IsPlain piece) (h' : ∀ piece ∈ pieces', IsPlain piece)
    (hsame : joinWith '/' pieces = joinWith '/' pieces') : pieces = pieces' := by
  rw [← filter_splitOn_joinWith fun piece hp => ⟨(h piece hp).ne_nil, (h piece hp).no_slash⟩, hsame,
    filter_splitOn_joinWith fun piece hp => ⟨(h' piece hp).ne_nil, (h' piece hp).no_slash⟩]

theorem dots_not_mem_splitOn_joinWith {pieces : List (List Char)}
    (h : ∀ piece ∈ pieces, IsPlain piece) : ['.', '.'] ∉ splitOn '/' (joinWith '/' pieces) := by
  by_cases hne : pieces = []
  · simp [hne, joinWith, splitOn]
  · rw [splitOn_joinWith hne fun piece hp => (h piece hp).no_slash]
    exact fun hmem => (h _ hmem).ne_dots rfl

/-! ## Parts of a text -/

theorem dropLead?_eq_some_iff {lead text rest : List Char} :
    dropLead? lead text = some rest ↔ text = lead ++ rest := by
  induction lead generalizing text with
  | nil => simp [dropLead?]
  | cons l lead ih =>
    cases text with
    | nil => simp [dropLead?]
    | cons c text =>
      by_cases h : l = c
      · simp [dropLead?, h, ih]
      · simp [dropLead?, h, Ne.symm h]

theorem dropTail?_eq_some_iff {tail text rest : List Char} :
    dropTail? tail text = some rest ↔ text = rest ++ tail := by
  rw [dropTail?, Option.map_eq_some_iff]
  constructor
  · rintro ⟨front, hfront, rfl⟩
    rw [dropLead?_eq_some_iff] at hfront
    rw [← List.reverse_reverse text, hfront]
    simp
  · rintro rfl
    exact ⟨rest.reverse, dropLead?_eq_some_iff.2 (by simp), List.reverse_reverse rest⟩

theorem startsWith_iff {lead text : List Char} : startsWith lead text = true ↔ lead <+: text := by
  simp only [startsWith, Option.isSome_iff_exists, dropLead?_eq_some_iff]
  exact ⟨fun ⟨rest, h⟩ => ⟨rest, h.symm⟩, fun ⟨rest, h⟩ => ⟨rest, h.symm⟩⟩

theorem endsWith_iff {tail text : List Char} : endsWith tail text = true ↔ tail <:+ text := by
  simp only [endsWith, Option.isSome_iff_exists, dropTail?_eq_some_iff]
  exact ⟨fun ⟨rest, h⟩ => ⟨rest, h.symm⟩, fun ⟨rest, h⟩ => ⟨rest, h.symm⟩⟩

theorem contains_iff {part text : List Char} : contains part text = true ↔ part <:+: text := by
  induction text with
  | nil => simp [contains]
  | cons c text ih =>
    rw [contains, Bool.or_eq_true, startsWith_iff, ih, List.infix_cons_iff]

theorem isPrefix_of_not_mem {lead front tail : List Char} {c : Char} (hc : c ∉ lead)
    (h : lead <+: front ++ c :: tail) : lead <+: front := by
  rcases List.prefix_or_prefix_of_prefix h (List.prefix_append front _) with hlead | ⟨rest, rfl⟩
  · exact hlead
  · rw [List.prefix_append_right_inj, List.prefix_cons_iff] at h
    rcases h with rfl | ⟨rest, rfl, -⟩
    · exact ⟨[], by simp⟩
    · exact absurd (List.mem_append_right front List.mem_cons_self) hc

theorem isSuffix_of_not_mem {tail front back : List Char} {c : Char} (hc : c ∉ tail)
    (h : tail <:+ front ++ c :: back) : tail <:+ back := by
  rw [← List.reverse_prefix, List.reverse_append, List.reverse_cons, List.append_assoc,
    List.singleton_append] at h
  exact List.reverse_prefix.1 (isPrefix_of_not_mem (mt List.mem_reverse.1 hc) h)

/-! ## The order of texts -/

theorem le_iff {a b : String} : le a b = true ↔ a ≤ b := by
  simp only [le, Bool.not_eq_true', decide_eq_false_iff_not]
  exact Std.not_lt

theorem le_refl (a : String) : le a a = true := le_iff.2 (Std.le_refl a)

theorem le_trans (a b c : String) (hab : le a b = true) (hbc : le b c = true) : le a c = true :=
  le_iff.2 (Std.le_trans (le_iff.1 hab) (le_iff.1 hbc))

theorem le_total (a b : String) : (le a b || le b a) = true := by
  simp only [Bool.or_eq_true, le_iff]
  exact Std.le_total

theorem le_of_lt {a b : String} (h : a < b) : le a b = true := le_iff.2 (Std.le_of_lt h)

theorem le_antisymm {a b : String} (hab : le a b = true) (hba : le b a = true) : a = b :=
  Std.le_antisymm (le_iff.1 hab) (le_iff.1 hba)

end DocAtlas.Text
