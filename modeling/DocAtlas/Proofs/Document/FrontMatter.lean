-- SUMMARY: Front matter is cut off exactly where a source is laid out between two fences, and that in one way only.
import DocAtlas.Document.FrontMatter
import DocAtlas.Proofs.Text

/-! # Sources with front matter

A layout says how a source with front matter is made up: blanks, an opening
fence, the lines of a block, a closing fence and the body. A source has at most
one layout (`Layout.eq`). Where it has one, the keys are those of the block and
the body is that of the layout; where it has none, all of it is the body. -/

namespace DocAtlas.FrontMatter

open Text

/-! ## The closing fence -/

/-- A block of lines that the first fence ends. The fence may be the last line, without a newline. -/
structure Closes (block : List (List Char)) (fence body : List Char) : Prop where
  block_line : ∀ line ∈ block, IsWholeLine line
  block_plain : ∀ line ∈ block, isFence line = false
  fence_line : IsWholeLine fence ∨ '\n' ∉ fence ∧ body = []
  isFence_fence : isFence fence = true

variable {text fence body : List Char} {block : List (List Char)}

theorem ne_nil_of_isFence (h : isFence fence = true) : fence ≠ [] := by
  rintro rfl
  cases h

theorem Closes.lines_eq (h : Closes block fence body) :
    lines (block.flatten ++ fence ++ body) = block ++ fence :: lines body := by
  obtain ⟨hblock, -, hfence, hisFence⟩ := h
  induction block with
  | nil =>
    rcases hfence with hwhole | ⟨hnewline, rfl⟩
    · exact lines_append_of_isWholeLine hwhole body
    · rw [List.append_nil]
      exact lines_of_no_newline (ne_nil_of_isFence hisFence) hnewline
  | cons line block ih =>
    have hrest := ih fun l hl => hblock l (List.mem_cons_of_mem _ hl)
    rw [List.flatten_cons, List.append_assoc, List.append_assoc,
      lines_append_of_isWholeLine (hblock line List.mem_cons_self), ← List.append_assoc, hrest,
      List.cons_append]

/-- Lines before another line are whole, and a line that is not is the last one. -/
theorem isWholeLine_of_areLines {front rest : List (List Char)} {line : List Char}
    (h : AreLines (front ++ line :: rest)) :
    (∀ l ∈ front, IsWholeLine l) ∧ (IsWholeLine line ∨ '\n' ∉ line ∧ rest = []) := by
  induction front with
  | nil =>
    refine ⟨fun l hl => absurd hl List.not_mem_nil, ?_⟩
    cases h with
    | last _ hline => exact .inr ⟨hline, rfl⟩
    | cons hline _ => exact .inl hline
  | cons first front ih =>
    rw [List.cons_append] at h
    generalize hlater : front ++ line :: rest = later at h ih
    cases h with
    | last => exact absurd hlater (by simp)
    | cons hfirst hlines =>
      obtain ⟨hfront, hline⟩ := ih hlines
      exact ⟨List.forall_mem_cons.2 ⟨hfirst, hfront⟩, hline⟩

/-- The text is cut at the first fence. -/
theorem cutFence_eq_some_iff :
    cutFence text = some (block, body) ↔
      ∃ fence, Closes block fence body ∧ text = block.flatten ++ fence ++ body := by
  constructor
  · intro h
    have hlines := List.takeWhile_append_dropWhile (p := (!isFence ·)) (l := lines text)
    have hhead := List.head?_dropWhile_not (!isFence ·) (lines text)
    have hplain := List.all_takeWhile (p := (!isFence ·)) (l := lines text)
    simp only [cutFence] at h
    cases hrest : (lines text).dropWhile (!isFence ·) with
    | nil => simp [hrest] at h
    | cons fence rest =>
      rw [hrest] at h hlines hhead
      obtain ⟨rfl, rfl⟩ := Prod.mk.inj (Option.some.inj h)
      obtain ⟨hblock, hfence⟩ := isWholeLine_of_areLines (hlines ▸ areLines_lines text)
      refine ⟨fence, ⟨hblock, ?_, ?_, ?_⟩, ?_⟩
      · intro line hline
        simpa using List.all_eq_true.1 hplain line hline
      · exact hfence.imp_right fun ⟨hnewline, hnil⟩ => ⟨hnewline, by rw [hnil]; rfl⟩
      · simpa using hhead
      · have htext := flatten_lines text
        rw [← hlines, List.flatten_append, List.flatten_cons, ← List.append_assoc] at htext
        exact htext.symm
  · rintro ⟨fence, h, rfl⟩
    have hplain : ∀ line ∈ block, (!isFence line) = true := by
      intro line hline
      rw [h.block_plain line hline]
      rfl
    rw [cutFence, h.lines_eq, List.takeWhile_append_of_pos hplain, List.dropWhile_append_of_pos hplain]
    simp [h.isFence_fence, flatten_lines]

/-! ## Layouts -/

/-- How a source with front matter is made up. -/
structure Layout (source : List Char) where
  blanks : List Char
  opening : List Char
  /-- The lines between the fences, each with its newline. -/
  block : List (List Char)
  fence : List Char
  body : List Char
  source_eq : source = blanks ++ (opening ++ '\n' :: (block.flatten ++ fence ++ body))
  /-- No blank stands before the opening fence but these. -/
  blanks_eq : blanks = source.takeWhile isBlank
  opening_line : '\n' ∉ opening
  isFence_opening : isFence opening = true
  closes : Closes block fence body

namespace Layout

variable {source : List Char}

theorem trimStart_eq (l : Layout source) :
    trimStart source = l.opening ++ '\n' :: (l.block.flatten ++ l.fence ++ l.body) := by
  have hcut := List.takeWhile_append_dropWhile (p := isBlank) (l := source)
  rw [← l.blanks_eq] at hcut
  exact List.append_cancel_left (hcut.trans l.source_eq)

theorem splitOnce_eq (l : Layout source) :
    splitOnce '\n' (trimStart source)
      = some (l.opening, l.block.flatten ++ l.fence ++ l.body) :=
  splitOnce_eq_some_iff.2 ⟨l.trimStart_eq, l.opening_line⟩

theorem cutFence_eq (l : Layout source) :
    cutFence (l.block.flatten ++ l.fence ++ l.body) = some (l.block, l.body) :=
  cutFence_eq_some_iff.2 ⟨l.fence, l.closes, rfl⟩

theorem split_eq (l : Layout source) : split source = (ofLines l.block, l.body) := by
  simp only [split, l.splitOnce_eq, l.isFence_opening, if_true, l.cutFence_eq]

theorem body_suffix (l : Layout source) : l.body <:+ source := by
  refine ⟨l.blanks ++ l.opening ++ '\n' :: (l.block.flatten ++ l.fence), ?_⟩
  conv_rhs => rw [l.source_eq]
  simp

theorem body_ne (l : Layout source) : l.body ≠ source := by
  intro h
  have hlength := congrArg List.length (h.trans l.source_eq)
  simp only [List.length_append, List.length_cons] at hlength
  omega

/-- A source is made up in one way only. -/
theorem eq (l l' : Layout source) : l = l' := by
  have hsplit := Option.some.inj (l.splitOnce_eq.symm.trans l'.splitOnce_eq)
  obtain ⟨hopening, hinner⟩ := Prod.mk.inj hsplit
  have hcut := l.cutFence_eq
  rw [hinner, l'.cutFence_eq] at hcut
  obtain ⟨hblock, hbody⟩ := Prod.mk.inj (Option.some.inj hcut)
  rw [hblock, hbody] at hinner
  have hfence : l.fence = l'.fence := List.append_cancel_left (List.append_cancel_right hinner)
  have hblanks : l.blanks = l'.blanks := l.blanks_eq.trans l'.blanks_eq.symm
  cases l
  cases l'
  rw [mk.injEq]
  exact ⟨hblanks, hopening, hblock.symm, hfence, hbody.symm⟩

end Layout

/-- What is cut off was laid out; all else stays whole. -/
theorem split_cases (source : List Char) :
    Nonempty (Layout source) ∨ split source = ({}, source) := by
  unfold split
  split
  next => exact .inr rfl
  next opening inner hsplit =>
    split
    next hopening =>
      split
      next block body hcut =>
        obtain ⟨htrim, hline⟩ := splitOnce_eq_some_iff.1 hsplit
        obtain ⟨fence, hcloses, hinner⟩ := cutFence_eq_some_iff.1 hcut
        refine .inl ⟨⟨_, opening, block, fence, body, ?_, rfl, hline, hopening, hcloses⟩⟩
        rw [← hinner, ← htrim]
        exact (List.takeWhile_append_dropWhile (p := isBlank) (l := source)).symm
      next => exact .inr rfl
    next => exact .inr rfl

/-- The body is an end of the source. Something is cut off exactly when the source is laid out with
front matter, which it is in one way only. Then the keys are those of the block and the body is
what follows the fence, and else there are no keys and the body is the source. -/
theorem split_exact (source : List Char) :
    (split source).2 <:+ source ∧
      ((split source).2 ≠ source ↔ Nonempty (Layout source)) ∧
      Subsingleton (Layout source) ∧
      (∀ l : Layout source, split source = (ofLines l.block, l.body)) ∧
      (IsEmpty (Layout source) → split source = ({}, source)) := by
  refine ⟨?_, ⟨?_, ?_⟩, ⟨Layout.eq⟩, Layout.split_eq, ?_⟩
  · rcases split_cases source with ⟨⟨l⟩⟩ | hwhole
    · rw [l.split_eq]
      exact l.body_suffix
    · exact ⟨[], congrArg Prod.snd hwhole⟩
  · intro hne
    refine (split_cases source).resolve_right fun hwhole => hne ?_
    rw [hwhole]
  · rintro ⟨l⟩
    rw [l.split_eq]
    exact l.body_ne
  · intro hempty
    exact (split_cases source).resolve_left fun ⟨l⟩ => hempty.false l

/-- Blank lines ahead, a look-alike of a fence in the block, and a last line without a newline. -/
theorem split_exact_unterminated :
    Nonempty (Layout "\n \n---\t\r\nid: x\r\n----\r\n--- ".toList) ∧
      split "\n \n---\t\r\nid: x\r\n----\r\n--- ".toList = ({ id := some "x" }, []) := by
  obtain ⟨-, hiff, -⟩ := split_exact "\n \n---\t\r\nid: x\r\n----\r\n--- ".toList
  exact ⟨hiff.1 (by decide), by decide⟩

end DocAtlas.FrontMatter
