-- SUMMARY: The margin of a line: indentation with tab stops, and the containers that a line stays in.
import DocAtlas.Markdown.Cursor

/-! # Margins

A line starts with its indentation, in which a tab reaches to the next of the
stops that lie four columns apart, and with the marks of the containers that it
continues: quotes, list items and notes. -/

namespace DocAtlas.Markdown

/-! ## Indentation -/

/-- The start of a line while its indentation is taken off. -/
structure Lead where
  cursor : Cursor
  /-- Where the columns of the next tab are counted from. -/
  origin : Nat
  /-- Columns of the last tab that are not taken yet. -/
  spare : Nat := 0

namespace Lead

def ofCursor (c : Cursor) : Lead := { cursor := c, origin := c.pos }

/-- Takes up to `n` columns off the text; gives the number that was missing. -/
def takeColumns (n pos origin spare : Nat) : List Char → Nat × Lead
  | [] => (n, ⟨⟨pos, []⟩, origin, spare⟩)
  | c :: rest =>
    if n = 0 then (0, ⟨⟨pos, c :: rest⟩, origin, spare⟩)
    else if c = ' ' then takeColumns (n - 1) (pos + 1) origin 0 rest
    else if c = '\t' then
      let width := 4 - (pos - origin) % 4
      let taken := min width n
      takeColumns (n - taken) (pos + 1) (pos + 1) (width - taken) rest
    else (n, ⟨⟨pos, c :: rest⟩, origin, spare⟩)

/-- Takes up to `n` columns; gives the number that was missing. -/
def take (l : Lead) (n : Nat) : Nat × Lead :=
  let first := min l.spare n
  takeColumns (n - first) l.cursor.pos l.origin (l.spare - first) l.cursor.rest

/-- Takes all blanks. -/
def takeAll (l : Lead) : Lead :=
  { l with cursor := l.cursor.skipWhile fun c => c = ' ' || c = '\t', spare := 0 }

def atLineEnd (l : Lead) : Bool := l.cursor.atLineEnd

/-- Takes a character that stands here. -/
def char? (x : Char) (l : Lead) : Option Lead :=
  (l.cursor.char? x).map fun c => { l with cursor := c }

/-- Takes the mark of a quote, with one column after it. -/
def quoteMark? (l : Lead) : Option Lead := (l.char? '>').map fun l => (l.take 1).2

end Lead

/-! ## Containers -/

/-- What blocks stand in. -/
inductive Container where
  /-- A list whose items have the given mark. -/
  | list (mark : Char)
  /-- An item of a list, whose text is indented by so many columns. -/
  | item (indent : Nat)
  | quote
  /-- The definition of a note. -/
  | note
  deriving DecidableEq

/-- The containers around a block, the outermost first. -/
abbrev Margin := List Container

/-- The lead without the mark of the container, where the line stays in it. -/
def Container.continue? (l : Lead) : Container → Option Lead
  | .list _ => some l
  | .quote => (l.take 3).2.quoteMark?
  | .item indent =>
    let (missing, l) := l.take indent
    if missing = 0 || l.atLineEnd then some l else none
  | .note =>
    let (missing, l) := l.take 4
    if missing = 0 || l.atLineEnd then some l else none

namespace Margin

/-- The number of containers that a line stays in, and the lead without their marks. -/
def follow : Margin → Lead → Nat × Lead
  | [], l => (0, l)
  | k :: rest, l =>
    match k.continue? l with
    | some l =>
      let (n, l) := follow rest l
      (n + 1, l)
    | none => (0, l)

/-- As `follow`, with whether the line stays in all of them. -/
def enter (m : Margin) (c : Cursor) : Bool × Lead :=
  let (n, l) := m.follow (Lead.ofCursor c)
  (n == m.length, l)

/-- The place after the marks of the containers, as far as the line has them. -/
def skip (m : Margin) (c : Cursor) : Cursor := (m.enter c).2.cursor

end Margin

end DocAtlas.Markdown
