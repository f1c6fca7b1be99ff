-- SUMMARY: Definitions of link references: a label, a destination and a title.
import DocAtlas.Markdown.Entity
import DocAtlas.Markdown.LineKind
import DocAtlas.Text.CaseFold

/-! # Definitions

`[label]: destination "title"` gives a label its destination. The three parts
may stand on lines of their own, as long as none of these lines starts another
block. -/

namespace DocAtlas.Markdown

/-- A label in the form in which labels are compared. -/
abbrev Key := List Char

def Key.ofLabel (label : List Char) : Key := Text.caseFold label

structure Definition where
  key : Key
  dest : List Char

namespace Definition

/-- The place after the margin of a new line, unless the line starts another block. -/
def newLine (m : Margin) (c : Cursor) : Option Cursor :=
  let (whole, lead) := m.enter c
  let (missing, lead) := lead.take 4
  if missing ≠ 0 && (LineKind.interrupts m whole lead.cursor
      || (LineKind.underline? lead.cursor).isSome) then none
  else some lead.cursor

/-- As `newLine`, for a line of a label: below it, only a line in the same containers makes a
heading. -/
def labelLine (m : Margin) (c : Cursor) : Option Cursor :=
  let (whole, lead) := m.enter c
  let (missing, lead) := lead.take 4
  if missing ≠ 0 && (LineKind.interrupts m whole lead.cursor
      || (whole && (LineKind.underline? lead.cursor).isSome)) then none
  else some lead.cursor

/-- The place after blanks of which at most one ends a line, and whether one does. -/
def gap (m : Margin) : (fuel : Nat) → (broken : Bool) → Cursor → Option (Cursor × Bool)
  | 0, _, _ => none
  | fuel + 1, broken, c =>
    let d := c.skipWhile isSpace
    match d.lineEnd? with
    | none => some (d, broken)
    | some e => if broken then none else (newLine m e).bind (gap m fuel true)

/-- The place after the title's closing mark. -/
def titleEnd (m : Margin) (mark : Char) : (fuel : Nat) → Cursor → Option Cursor
  | 0, _ => none
  | fuel + 1, c =>
    match c.rest with
    | [] => none
    | '\\' :: x :: _ => titleEnd m mark fuel (c.advance (if isLineEnd x then 1 else 2))
    | x :: _ =>
      if x = mark then some (c.advance 1)
      else if isLineEnd x then (c.lineEnd?.bind (newLine m)).bind (titleEnd m mark fuel)
      else titleEnd m mark fuel (c.advance 1)

/-- The place after a title that ends its line. -/
def title? (m : Margin) (c : Cursor) : Option Cursor := do
  let mark ← match c.head? with
    | some '"' => some '"'
    | some '\'' => some '\''
    | some '(' => some ')'
    | _ => none
  let d ← titleEnd m mark c.rest.length (c.advance 1)
  if d.isBlankLine then some d else none

/-- The definition that starts here and the place after it. A title that does not end its line is
no part of a definition, and undoes one on whose line it stands. -/
def scan (m : Margin) (c : Cursor) : Option (Definition × Cursor) := do
  let (label, d) ← label? (labelLine m) false (← c.char? '[')
  let (d, _) ← gap m (c.rest.length + 1) false (← d.char? ':')
  let (raw, stop) ← destination? 1 d
  if stop.pos = d.pos then none
  let d := stop
  let found : Definition := ⟨Key.ofLabel label, unescape false raw⟩
  match gap m (c.rest.length + 1) false d with
  | none => some (found, d)
  | some (e, broken) =>
    if e.pos = d.pos && !broken then none
    else match title? m e with
      | some f => some (found, f)
      | none => if broken then some (found, d) else none

end Definition

end DocAtlas.Markdown
