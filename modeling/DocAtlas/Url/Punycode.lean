-- SUMMARY: Punycode: the characters that an ASCII label with the mark `xn--` stands for.
import DocAtlas.Text.Basic

/-! # Punycode

The part before the last hyphen holds the ASCII characters of the label. The
digits after it are numbers in base 36 with a varying end, each telling how far
to go in the pairs of a place and a code point before the next insertion. -/

namespace DocAtlas.Url.Punycode

/-- The value of a digit in base 36. -/
def digit? (c : Char) : Option Nat :=
  if c.isDigit then some (c.toNat - 0x30 + 26)
  else if c.isLower then some (c.toNat - 0x61)
  else if c.isUpper then some (c.toNat - 0x41)
  else none

/-- The decoder between two digits. -/
structure State where
  output : List Nat
  code : Nat := 128
  /-- The place that the number being read leads to. -/
  place : Nat := 0
  /-- The place where that number began. -/
  start : Nat := 0
  bias : Nat := 72
  /-- The weight of the next digit. -/
  weight : Nat := 1
  /-- The position of the next digit, in steps of the base. -/
  k : Nat := 36

/-- The digits below this one end a number. -/
def threshold (k bias : Nat) : Nat := min 26 (max 1 (k - bias))

/-- Divides by 35 until the value is small; each round makes it smaller. -/
def settle (delta k : Nat) : Nat :=
  if _h : 455 < delta then settle (delta / 35) (k + 36) else k + 36 * delta / (delta + 38)
termination_by delta
decreasing_by omega

def adapt (delta count : Nat) (first : Bool) : Nat :=
  let delta := if first then delta / 700 else delta / 2
  settle (delta + delta / count) 0

/-- Takes one digit. -/
def step (s : State) (d : Nat) : Option State :=
  let place := s.place + d * s.weight
  if 0x100000000 ≤ place then none
  else
    let t := threshold s.k s.bias
    if d < t then
      let count := s.output.length + 1
      let code := s.code + place / count
      let at_ := place % count
      if 0x110000 ≤ code then none
      else some {
        output := s.output.take at_ ++ code :: s.output.drop at_
        code := code
        place := at_ + 1
        start := at_ + 1
        bias := adapt (place - s.start) count (s.start = 0)
      }
    else some { s with place, weight := s.weight * (36 - t), k := s.k + 36 }

/-- Takes the digits in turn; the last number has to be complete. -/
def run : State → List Char → Option (List Nat)
  | s, [] => if s.k = 36 then some s.output else none
  | s, c :: cs =>
    match (digit? c).bind (step s) with
    | some s => run s cs
    | none => none

/-- The code points of a label without its mark. -/
def decode (label : List Char) : Option (List Nat) :=
  if '-' ∈ label then
    let basic := ((label.reverse.dropWhile (· ≠ '-')).drop 1).reverse
    let digits := (label.reverse.takeWhile (· ≠ '-')).reverse
    run { output := basic.map Char.toNat } digits
  else run { output := [] } label

end DocAtlas.Url.Punycode
