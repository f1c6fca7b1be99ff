-- SUMMARY: All scanning of blocks goes forward: each function ends at a place that its cursor reaches.
import DocAtlas.Markdown.Block
import DocAtlas.Proofs.Text

/-! # Scanning goes forward

A cursor reaches a place if it gets there by advancing. Whatever a function of
the block pass reads, it ends at a place that its cursor reaches, so that every
cursor of the pass is a place in the text from which it started. -/

namespace DocAtlas.Markdown

/-! ## Cursors -/

namespace Cursor

/-- The place `d` comes after `c`, or is `c`, in the same text. -/
def Reaches (c d : Cursor) : Prop := ∃ n, d = c.advance n

variable {c d e : Cursor}

theorem Reaches.refl (c : Cursor) : c.Reaches c := ⟨0, rfl⟩

theorem Reaches.trans (h : c.Reaches d) (h' : d.Reaches e) : c.Reaches e := by
  obtain ⟨n, rfl⟩ := h
  obtain ⟨m, rfl⟩ := h'
  refine ⟨n + m, ?_⟩
  simp only [advance, List.drop_drop, Nat.add_assoc]

theorem reaches_advance (c : Cursor) (n : Nat) : c.Reaches (c.advance n) := ⟨n, rfl⟩

theorem reaches_of_rest (front : List Char) {rest : List Char} (h : c.rest = front ++ rest) :
    c.Reaches ⟨c.pos + front.length, rest⟩ := by
  refine ⟨front.length, ?_⟩
  rw [advance, h, List.drop_left]

theorem reaches_skipWhile (p : Char → Bool) (c : Cursor) : c.Reaches (c.skipWhile p) :=
  reaches_of_rest _ List.takeWhile_append_dropWhile.symm

theorem reaches_of_char? {x : Char} (h : c.char? x = some d) : c.Reaches d := by
  unfold char? at h
  split at h
  next y rest hrest =>
    split at h
    · cases h
      exact reaches_of_rest [y] hrest
    · cases h
  next => cases h

theorem reaches_of_literal? {text : String} (h : c.literal? text = some d) : c.Reaches d := by
  obtain ⟨rest, hrest, rfl⟩ := Option.map_eq_some_iff.1 h
  rw [← String.length_toList]
  exact reaches_of_rest _ (Text.dropLead?_eq_some_iff.1 hrest)

theorem reaches_of_lineEnd? (h : c.lineEnd? = some d) : c.Reaches d := by
  unfold lineEnd? at h
  split at h
  next =>
    cases h
    exact .refl c
  next rest hrest =>
    cases h
    exact reaches_of_rest ['\r', '\n'] hrest
  next rest hrest =>
    cases h
    exact reaches_of_rest ['\n'] hrest
  next rest _ hrest =>
    cases h
    exact reaches_of_rest ['\r'] hrest
  next => cases h

theorem reaches_of_blankLine? (h : c.blankLine? = some d) : c.Reaches d :=
  (reaches_skipWhile _ c).trans (reaches_of_lineEnd? h)

theorem reaches_nextLine (c : Cursor) : c.Reaches c.nextLine := by
  simp only [nextLine]
  split
  next => exact reaches_skipWhile _ c
  next y rest hrest =>
    exact (reaches_skipWhile _ c).trans (reaches_of_rest [y] hrest)

end Cursor

open Cursor

/-! ## Margins -/

namespace Lead

theorem reaches_takeColumns (n pos origin spare : Nat) (rest : List Char) :
    Reaches ⟨pos, rest⟩ (takeColumns n pos origin spare rest).2.cursor := by
  induction rest generalizing n pos origin spare with
  | nil => exact .refl _
  | cons x rest ih =>
    have hx : Reaches ⟨pos, x :: rest⟩ ⟨pos + 1, rest⟩ := reaches_advance ⟨pos, x :: rest⟩ 1
    unfold takeColumns
    split_ifs
    · exact .refl _
    · exact hx.trans (ih ..)
    · exact hx.trans (ih ..)
    · exact .refl _

variable {l l' : Lead}

theorem reaches_take (l : Lead) (n : Nat) : l.cursor.Reaches (l.take n).2.cursor :=
  reaches_takeColumns ..

theorem reaches_takeAll (l : Lead) : l.cursor.Reaches l.takeAll.cursor :=
  reaches_skipWhile _ l.cursor

theorem reaches_of_char? {x : Char} (h : l.char? x = some l') : l.cursor.Reaches l'.cursor := by
  obtain ⟨c, hc, rfl⟩ := Option.map_eq_some_iff.1 h
  exact Cursor.reaches_of_char? hc

theorem reaches_of_quoteMark? (h : l.quoteMark? = some l') : l.cursor.Reaches l'.cursor := by
  obtain ⟨m, hm, rfl⟩ := Option.map_eq_some_iff.1 h
  exact (reaches_of_char? hm).trans (reaches_take m 1)

end Lead

theorem Container.reaches_of_continue? {k : Container} {l l' : Lead}
    (h : k.continue? l = some l') : l.cursor.Reaches l'.cursor := by
  cases k with
  | list mark =>
    cases h
    exact .refl _
  | quote => exact (l.reaches_take 3).trans (Lead.reaches_of_quoteMark? h)
  | item indent =>
    simp only [continue?, Option.ite_none_right_eq_some] at h
    cases h.2
    exact l.reaches_take indent
  | note =>
    simp only [continue?, Option.ite_none_right_eq_some] at h
    cases h.2
    exact l.reaches_take 4

namespace Margin

theorem reaches_follow (m : Margin) (l : Lead) : l.cursor.Reaches (m.follow l).2.cursor := by
  induction m generalizing l with
  | nil => exact .refl _
  | cons k m ih =>
    unfold follow
    split
    next l' hl' => exact (Container.reaches_of_continue? hl').trans (ih l')
    next => exact .refl _

theorem reaches_enter (m : Margin) (c : Cursor) : c.Reaches (m.enter c).2.cursor :=
  m.reaches_follow (Lead.ofCursor c)

/-- The lead of a line without its indentation. -/
theorem reaches_enter_take (m : Margin) (c : Cursor) (n : Nat) :
    c.Reaches ((m.enter c).2.take n).2.cursor :=
  (m.reaches_enter c).trans (Lead.reaches_take _ n)

end Margin

/-! ## Kinds of lines -/

namespace LineKind

variable {c d : Cursor}

theorem reaches_of_underline? (h : underline? c = some d) : c.Reaches d := by
  unfold underline? at h
  split at h
  next x _ =>
    obtain ⟨-, h⟩ := Option.ite_none_right_eq_some.1 h
    exact (reaches_skipWhile _ c).trans (reaches_of_blankLine? h)
  next => cases h

theorem reaches_of_closingFence? {mark : Char} {n : Nat} (h : closingFence? mark n c = some d) :
    c.Reaches d := by
  simp only [closingFence?] at h
  split_ifs at h
  · cases h
    exact .refl c
  · cases h
    exact (reaches_skipWhile _ c).trans (reaches_skipWhile _ _)

theorem reaches_of_tableHead? {m : Margin} {columns : Nat}
    (h : tableHead? m c = some (columns, d)) : c.Reaches d := by
  simp only [tableHead?, Option.bind_eq_bind, Option.bind_none, Option.ite_none_left_eq_some,
    Option.bind_eq_some_iff, Option.ite_none_right_eq_some] at h
  obtain ⟨-, below, hbelow, -, _, -, -, stop, hstop, h⟩ := h
  cases h
  have hmargin := (reaches_of_lineEnd? hbelow).trans (m.reaches_enter below)
  exact ((reaches_skipWhile _ c).trans hmargin).trans
    ((reaches_skipWhile _ _).trans (reaches_of_lineEnd? hstop))

end LineKind

/-! ## Labels and destinations -/

/-- A continuation that goes forward, where it goes on at all. -/
def Continuation.Forward (next : Continuation) : Prop := ∀ ⦃c d⦄, next c = some d → c.Reaches d

section Label

variable {next : Continuation} {inTable : Bool} {label : List Char} {c d : Cursor}

/-- The place where the text goes on after the line end that stands here. -/
theorem Continuation.Forward.reaches (hnext : next.Forward) (h : c.lineEnd?.bind next = some d) :
    c.Reaches d := by
  obtain ⟨e, he, hd⟩ := Option.bind_eq_some_iff.1 h
  exact (reaches_of_lineEnd? he).trans (hnext hd)

theorem Label.reaches_of_blanks (hnext : next.Forward) {fuel : Nat} {broken : Bool}
    (h : Label.blanks next fuel broken c = some d) : c.Reaches d := by
  induction fuel generalizing broken c with
  | zero =>
    cases h
    exact .refl _
  | succ fuel ih =>
    unfold blanks at h
    split at h
    next =>
      cases h
      exact .refl _
    next x rest hrest =>
      split_ifs at h
      · obtain ⟨e, he, hd⟩ := Option.bind_eq_some_iff.1 h
        exact (hnext.reaches he).trans (ih hd)
      · exact (c.reaches_advance 1).trans (ih h)
      · cases h
        exact .refl _

theorem Label.reaches_of_scan (hnext : next.Forward) {fuel weight : Nat} {empty : Bool}
    {acc : List Char} (h : Label.scan next inTable fuel weight empty acc c = some (label, d)) :
    c.Reaches d := by
  induction fuel generalizing weight empty acc c with
  | zero => cases h
  | succ fuel ih =>
    unfold scan at h
    obtain ⟨-, h⟩ := Option.ite_none_left_eq_some.1 h
    split at h
    next => cases h
    next => cases h
    next =>
      obtain ⟨-, h⟩ := Option.ite_none_left_eq_some.1 h
      cases h
      exact c.reaches_advance 1
    next =>
      split_ifs at h
      · exact (c.reaches_advance 2).trans (ih h)
      · exact (c.reaches_advance 2).trans (ih h)
    next => cases h
    next =>
      split at h
      · obtain ⟨e, he, hd⟩ := Option.bind_eq_some_iff.1 h
        exact (reaches_of_blanks hnext he).trans (ih hd)
      · exact (c.reaches_advance 1).trans (ih h)

theorem reaches_of_label? (hnext : next.Forward) (h : label? next inTable c = some (label, d)) :
    c.Reaches d :=
  Label.reaches_of_scan hnext h

theorem reaches_of_noteHead? (h : noteHead? inTable c = some (label, d)) : c.Reaches d := by
  simp only [noteHead?, Option.bind_eq_bind, Option.bind_eq_some_iff] at h
  obtain ⟨e, he, ⟨_, f⟩, hf, g, hg, h⟩ := h
  cases h
  have hnone : Continuation.Forward fun _ => none := fun _ _ h => absurd h nofun
  exact ((reaches_of_literal? he).trans (reaches_of_label? hnone hf)).trans (reaches_of_char? hg)

theorem reaches_of_destination? {depth : Nat} {raw : List Char}
    (h : destination? depth c = some (raw, d)) : c.Reaches d := by
  unfold destination? at h
  split at h
  next =>
    obtain ⟨raw, -, h⟩ := Option.map_eq_some_iff.1 h
    cases h
    exact c.reaches_advance _
  next =>
    obtain ⟨raw, -, h⟩ := Option.map_eq_some_iff.1 h
    cases h
    exact c.reaches_advance _

end Label

/-! ## Definitions -/

namespace Definition

variable {m : Margin} {c d : Cursor}

theorem forward_newLine (m : Margin) : Continuation.Forward (newLine m) := by
  intro c d h
  simp only [newLine, Option.ite_none_left_eq_some] at h
  cases h.2
  exact m.reaches_enter_take c 4

theorem forward_labelLine (m : Margin) : Continuation.Forward (labelLine m) := by
  intro c d h
  simp only [labelLine, Option.ite_none_left_eq_some] at h
  cases h.2
  exact m.reaches_enter_take c 4

theorem reaches_of_gap {fuel : Nat} {broken broken' : Bool}
    (h : gap m fuel broken c = some (d, broken')) : c.Reaches d := by
  induction fuel generalizing broken c with
  | zero => cases h
  | succ fuel ih =>
    have hskip := reaches_skipWhile isSpace c
    simp only [gap] at h
    split at h
    next =>
      cases h
      exact hskip
    next e he =>
      split_ifs at h
      obtain ⟨f, hf, h⟩ := Option.bind_eq_some_iff.1 h
      exact (hskip.trans (reaches_of_lineEnd? he)).trans ((forward_newLine m hf).trans (ih h))

theorem reaches_of_titleEnd {mark : Char} {fuel : Nat} (h : titleEnd m mark fuel c = some d) :
    c.Reaches d := by
  induction fuel generalizing c with
  | zero => cases h
  | succ fuel ih =>
    unfold titleEnd at h
    split at h
    next => cases h
    next => exact (c.reaches_advance _).trans (ih h)
    next =>
      split_ifs at h
      · cases h
        exact c.reaches_advance 1
      · obtain ⟨e, he, h⟩ := Option.bind_eq_some_iff.1 h
        exact ((forward_newLine m).reaches he).trans (ih h)
      · exact (c.reaches_advance 1).trans (ih h)

theorem reaches_of_title? (h : title? m c = some d) : c.Reaches d := by
  have hmark (mark : Char) (h : ((titleEnd m mark c.rest.length (c.advance 1)).bind fun e =>
      if e.isBlankLine then some e else none) = some d) : c.Reaches d := by
    obtain ⟨e, he, h⟩ := Option.bind_eq_some_iff.1 h
    obtain ⟨-, h⟩ := Option.ite_none_right_eq_some.1 h
    cases h
    exact (c.reaches_advance 1).trans (reaches_of_titleEnd he)
  unfold title? at h
  split at h
  next => exact hmark _ h
  next => exact hmark _ h
  next => exact hmark _ h
  next => cases h

theorem reaches_of_scan {found : Definition} (h : scan m c = some (found, d)) : c.Reaches d := by
  simp only [scan, Option.bind_eq_bind, Option.bind_none, Option.ite_none_left_eq_some,
    Option.bind_eq_some_iff] at h
  obtain ⟨c₁, hopen, ⟨label, c₂⟩, hlabel, c₃, hcolon, ⟨c₄, _⟩, hgap, ⟨raw, c₅⟩, hdest, -, h⟩ := h
  have hlabelled := (reaches_of_char? hopen).trans (reaches_of_label? (forward_labelLine m) hlabel)
  have hstop : c.Reaches c₅ := (hlabelled.trans (reaches_of_char? hcolon)).trans
    ((reaches_of_gap hgap).trans (reaches_of_destination? hdest))
  split at h
  next =>
    cases h
    exact hstop
  next e broken hgap =>
    obtain ⟨-, h⟩ := Option.ite_none_left_eq_some.1 h
    split at h
    next f hf =>
      cases h
      exact hstop.trans ((reaches_of_gap hgap).trans (reaches_of_title? hf))
    next =>
      obtain ⟨-, h⟩ := Option.ite_none_right_eq_some.1 h
      cases h
      exact hstop

end Definition

/-! ## Containers -/

namespace Outline

theorem reaches_of_listItem? {outer indent : Nat} {mark : Char} {l l' : Lead}
    (h : listItem? outer l = some (mark, indent, l')) : l.cursor.Reaches l'.cursor := by
  simp only [listItem?, Option.bind_eq_bind, Option.bind_none, Option.ite_none_left_eq_some,
    Option.bind_eq_some_iff] at h
  obtain ⟨⟨_, width, _⟩, -, -, -, h⟩ := h
  have hmark := (l.cursor.reaches_advance width).trans
    (Lead.reaches_take { l with cursor := l.cursor.advance width } 1)
  split_ifs at h
  · cases h
    exact hmark
  · cases h
    exact hmark
  · cases h
    exact hmark.trans (Lead.reaches_take _ 4)

theorem reaches_of_checkBox? {l l' : Lead} (h : checkBox? l = some l') :
    l.cursor.Reaches l'.cursor := by
  simp only [checkBox?, Option.bind_eq_bind, Option.bind_none, Option.ite_none_left_eq_some,
    Option.bind_eq_some_iff, Option.ite_none_right_eq_some] at h
  obtain ⟨l₁, hopen, x, -, -, l₂, hclose, -, h⟩ := h
  cases h
  have hbox := (l.reaches_take 3).trans (Lead.reaches_of_char? hopen)
  exact (hbox.trans (l₁.cursor.reaches_advance 1)).trans (Lead.reaches_of_char? hclose)

theorem reaches_of_note? {label : List Char} {c d : Cursor} (h : note? c = some (label, d)) :
    c.Reaches d :=
  reaches_of_noteHead? (Option.filter_eq_some_iff.1 h).1

/-- The place up to which a line is read when its containers are open. -/
def Opened.place : Opened → Cursor
  | .text _ l => l.cursor
  | .used _ next => next

theorem reaches_openContainers (fuel : Nat) (o : Outline) (l : Lead) :
    l.cursor.Reaches (openContainers fuel o l).place := by
  induction fuel generalizing o l with
  | zero => exact .refl _
  | succ fuel ih =>
    have htake := l.reaches_take 4
    simp only [openContainers]
    split
    · exact .refl _
    split
    next label d hnote =>
      have hlabel := (reaches_of_note? hnote).trans (reaches_skipWhile isSpace d)
      exact (htake.trans hlabel).trans (ih _ (Lead.ofCursor _))
    next =>
      split
      next mark indent l₁ hitem =>
        have hmark := htake.trans (reaches_of_listItem? hitem)
        split
        next d hblank => exact hmark.trans (reaches_of_blankLine? hblank)
        next =>
          split
          next l₂ hbox =>
            have htask := hmark.trans (reaches_of_checkBox? hbox)
            split
            next d hblank => exact htask.trans (reaches_of_blankLine? hblank)
            next => exact htask.trans (ih _ l₂)
          next => exact hmark.trans (ih _ l₁)
      next =>
        split
        next l₁ hquote => exact (htake.trans (Lead.reaches_of_quoteMark? hquote)).trans (ih _ l₁)
        next => exact .refl _

/-! ## Code and HTML -/

variable {m : Margin} {c d : Cursor}

theorem reaches_indentedCode (m : Margin) (fuel : Nat) (c : Cursor) :
    c.Reaches (indentedCode m fuel c) := by
  induction fuel generalizing c with
  | zero => exact .refl c
  | succ fuel ih =>
    simp only [indentedCode]
    split
    · exact (c.reaches_nextLine.trans (m.reaches_enter_take _ 4)).trans (ih _)
    · exact c.reaches_nextLine

theorem reaches_htmlTo (m : Margin) (mark : List Char) (fuel : Nat) (c : Cursor) :
    c.Reaches (htmlTo m mark fuel c) := by
  induction fuel generalizing c with
  | zero => exact .refl c
  | succ fuel ih =>
    simp only [htmlTo]
    split
    · exact c.reaches_nextLine
    · exact (c.reaches_nextLine.trans (m.reaches_enter _)).trans (ih _)

theorem reaches_htmlToBlank (m : Margin) (fuel : Nat) (c : Cursor) :
    c.Reaches (htmlToBlank m fuel c) := by
  induction fuel generalizing c with
  | zero => exact .refl c
  | succ fuel ih =>
    simp only [htmlToBlank]
    split
    · exact c.reaches_nextLine
    · exact (c.reaches_nextLine.trans (m.reaches_enter _)).trans (ih _)

theorem reaches_fencedCode (m : Margin) (indent : Nat) (mark : Char) (n fuel : Nat) (c : Cursor) :
    c.Reaches (fencedCode m indent mark n fuel c) := by
  induction fuel generalizing c with
  | zero => exact .refl c
  | succ fuel ih =>
    have hindent := m.reaches_enter_take c indent
    simp only [fencedCode]
    split
    · exact .refl c
    split
    next d hd =>
      obtain ⟨-, hd⟩ := Option.ite_none_left_eq_some.1 hd
      exact (hindent.trans (Lead.reaches_take _ _)).trans (LineKind.reaches_of_closingFence? hd)
    next => exact (hindent.trans (reaches_nextLine _)).trans (ih _)

theorem reaches_of_html? (h : html? m c = some d) : c.Reaches d := by
  simp only [html?] at h
  split at h
  next cs _ =>
    split at h
    next mark _ =>
      cases h
      exact reaches_htmlTo m mark _ c
    next =>
      obtain ⟨-, h⟩ := Option.ite_none_right_eq_some.1 h
      cases h
      exact reaches_htmlToBlank m _ c
  next => cases h

theorem reaches_skipBlankLine (c : Cursor) : c.Reaches (skipBlankLine c) := by
  unfold skipBlankLine
  cases hblank : c.blankLine? with
  | none => exact .refl c
  | some d => exact reaches_of_blankLine? hblank

end Outline

end DocAtlas.Markdown
