-- SUMMARY: Cursors in a Markdown text: the text that is left and the number of characters before it.
import DocAtlas.Text.Basic

/-! # Cursors

All scanning of Markdown goes forward over a cursor. Lines end with a newline, a
carriage return, or both; the end of the text ends a line too. -/

namespace DocAtlas.Markdown

/-- A place in the text. -/
structure Cursor where
  pos : Nat
  rest : List Char

namespace Cursor

def ofText (text : List Char) : Cursor := ⟨0, text⟩

def advance (c : Cursor) (n : Nat) : Cursor := ⟨c.pos + n, c.rest.drop n⟩

/-- The place with the given position, which is not before `c`. -/
def seek (c : Cursor) (pos : Nat) : Cursor := c.advance (pos - c.pos)

/-- The same place in the text that ends at `stop`. -/
def upTo (c : Cursor) (stop : Nat) : Cursor := ⟨c.pos, c.rest.take (stop - c.pos)⟩

def skipWhile (p : Char → Bool) (c : Cursor) : Cursor :=
  ⟨c.pos + (c.rest.takeWhile p).length, c.rest.dropWhile p⟩

/-- The number of times that `x` stands here in a row. -/
def run (c : Cursor) (x : Char) : Nat := (c.rest.takeWhile (· = x)).length

def head? (c : Cursor) : Option Char := c.rest.head?

/-- The place after `x`, where `x` stands here. -/
def char? (x : Char) (c : Cursor) : Option Cursor :=
  match c.rest with
  | y :: rest => if x = y then some ⟨c.pos + 1, rest⟩ else none
  | [] => none

/-- The place after `text`, where it stands here. -/
def literal? (text : String) (c : Cursor) : Option Cursor :=
  (Text.dropLead? text.toList c.rest).map fun rest => ⟨c.pos + text.length, rest⟩

end Cursor

/-! ## Blanks and line ends -/

/-- A blank that does not end a line. -/
def isSpace (c : Char) : Bool := c = ' ' || c = '\t' || c.toNat = 11 || c.toNat = 12

def isLineEnd (c : Char) : Bool := c = '\n' || c = '\r'

def isSpaceOrLineEnd (c : Char) : Bool := isSpace c || isLineEnd c

namespace Cursor

/-- The start of the next line, where the line ends here. -/
def lineEnd? (c : Cursor) : Option Cursor :=
  match c.rest with
  | [] => some c
  | '\r' :: '\n' :: rest => some ⟨c.pos + 2, rest⟩
  | '\n' :: rest | '\r' :: rest => some ⟨c.pos + 1, rest⟩
  | _ => none

def atLineEnd (c : Cursor) : Bool := c.lineEnd?.isSome

/-- The start of the next line, where the rest of this one is blank. -/
def blankLine? (c : Cursor) : Option Cursor := (c.skipWhile isSpace).lineEnd?

def isBlankLine (c : Cursor) : Bool := c.blankLine?.isSome

/-- The place after the next newline character. -/
def nextLine (c : Cursor) : Cursor :=
  let d := c.skipWhile (· ≠ '\n')
  match d.rest with
  | [] => d
  | _ :: rest => ⟨d.pos + 1, rest⟩

/-- The place after the first `mark` of what is left. -/
def after? (mark : List Char) (c : Cursor) : Option Cursor := go c.pos c.rest
where
  go (pos : Nat) : List Char → Option Cursor
    | [] => none
    | x :: rest =>
      match Text.dropLead? mark (x :: rest) with
      | some tail => some ⟨pos + mark.length, tail⟩
      | none => go (pos + 1) rest

end Cursor

end DocAtlas.Markdown
