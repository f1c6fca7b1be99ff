-- SUMMARY: What a line can be by its own text: a rule, a heading, a fence, a list item, a table's head.
import DocAtlas.Markdown.Html
import DocAtlas.Markdown.Label
import DocAtlas.Markdown.Margin

/-! # Kinds of lines

Each function looks at a line from its first character after the indentation.
`interrupts` puts them together: it says which lines end a paragraph. -/

namespace DocAtlas.Markdown.LineKind

/-- A line of three or more stars, hyphens or underscores and no others. -/
def isRule (c : Cursor) : Bool :=
  match c.rest with
  | [] => false
  | x :: _ =>
    let line := c.rest.takeWhile fun y => !isLineEnd y
    (x = '*' || x = '-' || x = '_') && line.all (fun y => y = x || y = ' ' || y = '\t')
      && 3 ≤ line.count x

/-- The level of the heading that starts here with its number signs. -/
def headingLevel? (c : Cursor) : Option Nat :=
  let level := c.run '#'
  if 1 ≤ level && level ≤ 6 && ((c.rest.drop level).head?.all isSpaceOrLineEnd) then some level
  else none

/-- The place after the line that makes a heading of the paragraph above it. -/
def underline? (c : Cursor) : Option Cursor :=
  match c.head? with
  | some x => if x = '=' || x = '-' then (c.skipWhile (· = x)).blankLine? else none
  | none => none

/-- The mark and the length of the fence that opens a code block here. -/
def fence? (c : Cursor) : Option (Char × Nat) :=
  match c.head? with
  | none => none
  | some x =>
    let n := c.run x
    if (x = '\x60' || x = '~') && 3 ≤ n
        && !(x = '\x60' && ((c.rest.drop n).takeWhile (· ≠ '\n')).contains x) then
      some (x, n)
    else none

/-- The place after the fence that closes a code block, at the end of its line. The end of the text
closes every block. -/
def closingFence? (mark : Char) (n : Nat) (c : Cursor) : Option Cursor :=
  if c.rest.isEmpty then some c
  else if n ≤ c.run mark then
    let d := (c.skipWhile (· = mark)).skipWhile (· = ' ')
    if d.atLineEnd then some d else none
  else none

/-- The mark of a list item: a bullet, or a number with a point or a parenthesis. Gives the mark's
last character, its length, and whether it may interrupt a paragraph. -/
def itemMark? (c : Cursor) : Option (Char × Nat × Bool) :=
  match c.rest with
  | [] => none
  | x :: _ =>
    if x = '-' || x = '+' || x = '*' then some (x, 1, true)
    else
      let digits := c.rest.takeWhile Char.isDigit
      match (c.rest.drop digits.length).head? with
      | some y =>
        if digits ≠ [] && digits.length ≤ 9 && (y = '.' || y = ')') then
          some (y, digits.length + 1, Text.numeral 10 digits = 1)
        else none
      | none => none

/-- Whether nothing stands here but two blank lines. -/
def isEmptyItem (c : Cursor) : Bool := c.blankLine?.any Cursor.isBlankLine

/-- Whether a list item ends a paragraph that stands in the same containers. -/
def itemInterrupts (whole inTable : Bool) (c : Cursor) : Bool :=
  match itemMark? c with
  | none => false
  | some (_, width, strong) =>
    let d := c.advance width
    (d.head?.all fun x => x = ' ' || x = '\t' || isLineEnd x)
      && (!whole || inTable || (strong && !isEmptyItem d))

/-- The lines that end a paragraph and a table. `whole` tells that the line stays in all containers. -/
def interruptsTable (whole inTable : Bool) (c : Cursor) : Bool :=
  c.atLineEnd || isRule c || (headingLevel? c).isSome || (fence? c).isSome || c.head? = some '>'
    || itemInterrupts whole inTable c
    || (match c.rest with
      | '<' :: cs => (Html.closingMark? cs).isSome || Html.startsBlockTag cs
      | _ => false)
    || (noteHead? inTable c).isSome

/-! ## Tables -/

/-- A row of a table, as far as the count of its columns goes. -/
structure Pipes where
  count : Nat := 0
  /-- What follows the last pipe. -/
  tail : Cursor

namespace Pipes

/-- The pipes of a line without those after a backslash. -/
def scan (escaped : Bool) (p : Pipes) (pos : Nat) : List Char → Pipes
  | [] => p
  | x :: rest =>
    if isLineEnd x then p
    else if x = '|' && !escaped then scan false ⟨p.count + 1, ⟨pos + 1, rest⟩⟩ (pos + 1) rest
    else scan (x = '\\') p (pos + 1) rest

def ofLine (c : Cursor) : Pipes := scan false { tail := c } c.pos c.rest

/-- The number of columns of the line `c`: the outer pipes divide nothing. -/
def columns (p : Pipes) (c : Cursor) : Nat :=
  let inner := if (c.skipWhile isSpace).head? = some '|' then p.count - 1 else p.count
  if p.tail.isBlankLine then inner else inner + 1

end Pipes

/-- The state of reading the line below a table's head. -/
structure Divider where
  columns : Nat := 0
  /-- No character of the column is read yet. -/
  fresh : Bool := true
  pipe : Bool := false
  hyphen : Bool := false
  /-- The column has a hyphen. -/
  dashed : Bool := false

/-- Reads hyphens, colons and pipes up to the end of the line. -/
def Divider.scan (d : Divider) : List Char → Option Divider
  | [] => some d
  | x :: rest =>
    if isLineEnd x then some d
    else if x = ' ' then scan d rest
    else if x = ':' then scan { d with fresh := false } rest
    else if x = '-' then scan { d with fresh := false, hyphen := true, dashed := true } rest
    else if x = '|' && d.dashed then
      scan { d with columns := d.columns + 1, fresh := true, pipe := true, dashed := false } rest
    else none

/-- The number of columns that the line below a table's head has. Only a pipe at its very start
opens the first column. -/
def divider? (c : Cursor) : Option Nat := do
  let spaces := c.run ' '
  if 3 < spaces || c.rest.isEmpty then none
  let d ← match c.rest with
    | '|' :: rest => Divider.scan { pipe := true } rest
    | rest => Divider.scan {} rest
  if d.pipe && d.hyphen then some (if d.fresh then d.columns else d.columns + 1) else none

/-- The number of columns of the table whose head is the line `c`, with the place after the line below
it. -/
def tableHead? (m : Margin) (c : Cursor) : Option (Nat × Cursor) := do
  let pipes := Pipes.ofLine c
  let below := c.skipWhile fun x => !isLineEnd x
  if pipes.count = 0 || below.rest.isEmpty then none
  let (whole, lead) := m.enter (← below.lineEnd?)
  if !whole then none
  let columns ← divider? lead.cursor
  if columns = pipes.columns c then
    let stop ← (lead.cursor.skipWhile fun x => !isLineEnd x).lineEnd?
    some (columns, stop)
  else none

/-- The lines that end a paragraph: those that end a table, and the head of a table that starts with a
pipe. -/
def interrupts (m : Margin) (whole : Bool) (c : Cursor) : Bool :=
  interruptsTable whole false c || (c.head? = some '|' && (tableHead? m c).isSome)

end DocAtlas.Markdown.LineKind
