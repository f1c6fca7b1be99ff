-- SUMMARY: Error texts that show the line of a TOML text and mark the part at fault.
import DocAtlas.Toml.Reader
import DocAtlas.Text.Utf8

/-! # Excerpts

An error about a TOML text names the line and the column, shows the line, and
underlines the part at fault with carets. -/

namespace DocAtlas.Toml

open Text

/-- The message of a fault: what was being read, what could have stood there, and the cause. -/
def Fault.message (f : Fault) : String :=
  let parts := (f.label.map ("invalid " ++ ·)).toList
    ++ (if f.expected.isEmpty then [] else ["expected " ++ ", ".intercalate f.expected])
    ++ f.cause.toList
  "\n".intercalate parts

/-- The character at fault, nothing at the end of the text. -/
def Fault.span (f : Fault) (text : List Char) : Span :=
  ⟨f.pos, min (f.pos + 1) (max f.pos text.length)⟩

namespace Excerpt

def byteLength (cs : List Char) : Nat := (Utf8.encode cs).length

/-- The line of a position and its column, both from zero. At the end of the text the column is
one past the last character, which may be a newline. A column in front of a character of more
than one byte counts bytes. -/
def position (text : List Char) (pos : Nat) : Nat × Nat :=
  let anchor := min pos (text.length - 1)
  let before := text.take anchor
  let line := newlines before
  let inLine := (before.reverse.takeWhile (· ≠ '\n')).reverse
  let column :=
    if pos < text.length then
      match text[pos]? with
      | some c => if c.toNat < 0x80 then inLine.length else byteLength inLine
      | none => inLine.length
    else inLine.length + (pos - anchor)
  (line, column)

def blanks (n : Nat) : String := String.ofList (List.replicate n ' ')

/-- The text of an error at a range of the source. -/
def render (source : String) (span : Span) (message : String) : String :=
  let text := source.toList
  let (line, column) := position text span.start
  let content := ((splitOn '\n' text)[line]?).getD []
  let marked := byteLength ((text.take span.stop).drop span.start)
  let marked := min marked (byteLength content - column)
  let number := toString (line + 1)
  let margin := blanks (number.length + 1) ++ "|"
  "TOML parse error at line " ++ number ++ ", column " ++ toString (column + 1) ++ "\n"
    ++ margin ++ "\n"
    ++ number ++ " | " ++ String.ofList content ++ "\n"
    ++ margin ++ blanks (column + 1) ++ String.ofList (List.replicate (max 1 marked) '^') ++ "\n"
    ++ message ++ "\n"

end Excerpt

end DocAtlas.Toml
