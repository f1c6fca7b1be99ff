-- SUMMARY: The tokens of running text that matter to links, and the lines and runs that they make up.
import DocAtlas.Markdown.Entity
import DocAtlas.Markdown.Margin

/-! # Tokens

Running text falls into brackets, code marks, markup and the text between them.
A `Run` is the running text of one block: a paragraph, a heading or a cell of a
table. -/

namespace DocAtlas.Markdown

namespace Token

inductive Kind where
  | text
  /-- The end of a line inside a run. -/
  | lineBreak
  /-- An angle bracket, which may open markup or an address. -/
  | angle
  /-- A row of so many code marks, the first of them escaped or not. -/
  | code (count : Nat) (escaped : Bool)
  /-- The opening bracket of an image. -/
  | image
  /-- The opening bracket of a link. -/
  | opener
  /-- A closing bracket; `viable` while its label may stand for itself. -/
  | closer (viable : Bool)
  deriving DecidableEq

end Token

/-- A token with the positions of its start and its end. -/
structure Token where
  kind : Token.Kind
  start : Nat
  stop : Nat

namespace Token

/-- The tokens from the first that ends after `pos`, which starts no earlier than `pos`. -/
def dropTo (pos : Nat) : List Token → List Token
  | [] => []
  | t :: rest => if t.stop ≤ pos then dropTo pos rest else { t with start := max t.start pos } :: rest

end Token

/-- A line of running text. -/
structure Line where
  tokens : List Token
  /-- The place after the line, or that of the pipe that ends a cell. -/
  stop : Cursor
  /-- The break at its end. -/
  lineBreak : Option Token := none
  /-- Whether a backslash makes the break. -/
  escapedBreak : Bool := false

namespace Line

/-- The text from `start` to `stop`, put in front of the tokens before it. -/
def addText (start stop : Nat) (acc : List Token) : List Token :=
  if start < stop then ⟨.text, start, stop⟩ :: acc else acc

/-- Ends a line at a line end. -/
def close (line : Cursor) (text : Nat) (acc : List Token) (c next : Cursor) : Line :=
  let before := (line.rest.take (c.pos - line.pos)).reverse
  let slashes := (before.takeWhile (· = '\\')).length
  let spaces := (before.takeWhile isSpace).length
  let escaped := slashes % 2 = 1 && !next.rest.isEmpty
  let stop := if escaped then c.pos - 1 else if 2 ≤ spaces then c.pos - spaces else c.pos
  { tokens := (addText text stop acc).reverse, stop := next,
    lineBreak := some ⟨.lineBreak, stop, next.pos⟩, escapedBreak := escaped }

/-- Ends a line at the end of its text; the blanks there do not belong to it. -/
def cut (line : Cursor) (text : Nat) (acc : List Token) (c : Cursor) : Line :=
  let before := ((line.seek text).rest.take (c.pos - text)).reverse
  let spaces := (before.takeWhile isSpace).length
  { tokens := (addText text (c.pos - spaces) acc).reverse, stop := c }

/-- Reads the tokens of a line. `text` is where the text before `c` starts and `slash` tells that a
backslash stands before `c`. -/
def scan (inCell : Bool) (line : Cursor) :
    (fuel text : Nat) → (slash : Bool) → (acc : List Token) → Cursor → Line
  | 0, text, _, acc, c => cut line text acc c
  | fuel + 1, text, slash, acc, c =>
    let before := addText text c.pos acc
    let token (kind : Token.Kind) (width : Nat) : Line :=
      scan inCell line fuel (c.pos + width) false (⟨kind, c.pos, c.pos + width⟩ :: before)
        (c.advance width)
    match c.rest with
    | [] => cut line text acc c
    | '\\' :: '\x60' :: _ =>
      let d := c.advance 1
      let n := d.run '\x60'
      scan inCell line fuel (d.pos + n) false (⟨.code n true, d.pos, d.pos + n⟩ :: before)
        (d.advance n)
    | '\\' :: x :: _ =>
      if Text.isPunctuation x then
        scan inCell line fuel (c.pos + 1) (x = '\\') before (c.advance 2)
      else scan inCell line fuel text true acc (c.advance 1)
    | '<' :: rest =>
      if rest.head? = some '\\' then scan inCell line fuel text false acc (c.advance 1)
      else token .angle 1
    | '!' :: '[' :: _ => token .image 2
    | '[' :: _ => token .opener 1
    | ']' :: _ => token (.closer true) 1
    | '\x60' :: _ => token (.code (c.run '\x60') false) (c.run '\x60')
    | '&' :: rest =>
      match reference? rest with
      | some (_, n) => token .text (n + 1)
      | none => scan inCell line fuel text false acc (c.advance 1)
    | x :: _ =>
      if x = '|' && inCell && !slash then cut line text acc c
      else match c.lineEnd? with
        | some next => if inCell then cut line text acc c else close line text acc c next
        | none => scan inCell line fuel text (x = '\\') acc (c.advance 1)

/-- The line of running text that starts here. -/
def ofCursor (c : Cursor) : Line := scan false c (c.rest.length + 1) c.pos false [] c

/-- The cell of a table that starts here. -/
def ofCell (c : Cursor) : Line := scan true c (c.rest.length + 1) c.pos false [] c

end Line

/-- The running text of a block. -/
structure Run where
  /-- The start of the text, which is cut where the block ends. -/
  origin : Cursor
  tokens : List Token
  /-- The containers of the block. -/
  margin : Margin
  inTable : Bool := false

namespace Run

/-- The place with a position, in the text of the run. -/
def place (r : Run) (pos : Nat) : Cursor := r.origin.seek pos

/-- The place after the marks of the containers on a new line of the run. -/
def newLine (r : Run) (c : Cursor) : Cursor := r.margin.skip c

end Run

end DocAtlas.Markdown
