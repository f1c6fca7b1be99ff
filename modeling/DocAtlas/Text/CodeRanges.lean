-- SUMMARY: Sets of code points given by ranges, and the notation `lo-hi` that tables of them are written in.
import DocAtlas.Text.Basic

/-! # Ranges of code points

Tables of characters are written as hexadecimal ranges `lo-hi`, a single code
standing for the range of itself, with blanks between the ranges. -/

namespace DocAtlas.Text

/-- The code points from `lo` to `hi`, both included. -/
structure CodeRange where
  lo : Nat
  hi : Nat
  deriving DecidableEq

abbrev CodeRanges := List CodeRange

namespace CodeRange

def contains (r : CodeRange) (n : Nat) : Bool := r.lo ≤ n && n ≤ r.hi

/-- Reads `lo-hi` or `lo`. -/
def parse (cs : List Char) : CodeRange :=
  match splitOnce '-' cs with
  | some (lo, hi) => ⟨numeral 16 lo, numeral 16 hi⟩
  | none => ⟨numeral 16 cs, numeral 16 cs⟩

end CodeRange

namespace CodeRanges

def parse (table : String) : CodeRanges := (words table.toList).map CodeRange.parse

def contains (ranges : CodeRanges) (c : Char) : Bool := ranges.any (·.contains c.toNat)

end CodeRanges

end DocAtlas.Text
