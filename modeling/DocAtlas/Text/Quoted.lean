-- SUMMARY: Text between double quotes, with what is not visible written as escapes.
import DocAtlas.Text.Printable

/-! # Quoted text

The form in which messages show a piece of text: between double quotes, with
quotes and backslashes escaped and invisible characters written by their code. -/

namespace DocAtlas.Text

/-- The lower-case hexadecimal digits of a number. -/
def hex (n : Nat) : List Char := Nat.toDigits 16 n

def escapeVisible (c : Char) : List Char :=
  if c = '"' then ['\\', '"']
  else if c = '\\' then ['\\', '\\']
  else if c = '\n' then ['\\', 'n']
  else if c = '\r' then ['\\', 'r']
  else if c = '\t' then ['\\', 't']
  else if c.toNat = 0 then ['\\', '0']
  else if isPrintable c then [c]
  else ['\\', 'u', '\x7b'] ++ hex c.toNat ++ ['\x7d']

def quoted (s : String) : String := String.ofList ('"' :: s.toList.flatMap escapeVisible ++ ['"'])

end DocAtlas.Text
