-- SUMMARY: Percent-encoded text: `%` with two hexadecimal digits stands for a byte.
import DocAtlas.Text.Basic
import DocAtlas.Text.Utf8

/-! # Percent encoding

A triplet `%XY` stands for the byte `0xXY`; a `%` that starts no triplet stands
for itself. The bytes are read as UTF-8, malformed parts replaced. -/

namespace DocAtlas.Text.Percent

/-- The bytes that percent-encoded text stands for. -/
def bytes : List Char → List UInt8
  | [] => []
  | '%' :: a :: b :: cs =>
    match hexValue? a, hexValue? b with
    | some x, some y => UInt8.ofNat (x * 16 + y) :: bytes cs
    | _, _ => String.utf8EncodeChar '%' ++ bytes (a :: b :: cs)
  | c :: cs => String.utf8EncodeChar c ++ bytes cs

def decode (s : String) : String := String.ofList (Utf8.lossy (bytes s.toList))

end DocAtlas.Text.Percent
