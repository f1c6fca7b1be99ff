-- SUMMARY: Binary floating-point numbers of 64 bits: nearest value of a decimal, and its shortest decimal text.

/-! # Binary floating point

A finite number is `m * 2 ^ e` with `m` below `2 ^ 53`. Reading a decimal takes
the nearest number, and of two equally near ones the one with the even `m`.
Writing takes the fewest digits that read back, and of those the nearest to the
number; the text is positional, without an exponent. All arithmetic is exact,
on naturals. -/

namespace DocAtlas.Number

inductive Binary64 where
  | nan
  | infinite (negative : Bool)
  | finite (negative : Bool) (m : Nat) (e : Int)
  deriving DecidableEq

namespace Binary64

def minExponent : Int := -1074

def maxExponent : Int := 971

/-! ## Rounding -/

/-- All mantissas lie below this: `2 ^ 53`. -/
def mantissaLimit : Nat := 0x20000000000000

/-- The natural nearest to `num / den`; a tie goes to the even one. -/
def roundDiv (num den : Nat) : Nat :=
  let q := num / den
  let r := num % den
  if 2 * r < den then q
  else if den < 2 * r then q + 1
  else if q % 2 = 0 then q else q + 1

/-- The power `b ^ e` as a numerator and a denominator. -/
def power (b : Nat) (e : Int) : Nat × Nat :=
  if 0 ≤ e then (Nat.pow b e.toNat, 1) else (1, Nat.pow b (-e).toNat)

/-- The number nearest to the positive quotient `num / den`. -/
def ofQuotient (negative : Bool) (num den : Nat) : Binary64 :=
  let guess : Int := (Nat.log2 num : Int) - (Nat.log2 den : Int) - 53
  let e := max minExponent guess
  let (p, q) := power 2 e
  let m := roundDiv (num * q) (den * p)
  -- The first guess of the exponent can be one too small.
  let (m, e) :=
    if m < mantissaLimit then (m, e)
    else
      let (p, q) := power 2 (e + 1)
      (roundDiv (num * q) (den * p), e + 1)
  let (m, e) := if m < mantissaLimit then (m, e) else (m / 2, e + 1)
  if maxExponent < e then .infinite negative else .finite negative m e

/-- The number nearest to `digits * 10 ^ exponent`. Exponents beyond the range of all finite
numbers are answered without computing the power. -/
def ofDecimal (negative : Bool) (digits : Nat) (exponent : Int) : Binary64 :=
  if digits = 0 then .finite negative 0 minExponent
  else
    let size : Int := (Nat.toDigits 10 digits).length + exponent
    if size < -400 then .finite negative 0 minExponent
    else if 400 < size then .infinite negative
    else
      let (p, q) := power 10 exponent
      ofQuotient negative (digits * p) q

/-! ## Shortest decimal -/

/-- A decimal `digits * 10 ^ exponent`. -/
structure Decimal where
  digits : Nat
  exponent : Int

/-- The exponent of the leading decimal digit of the positive quotient `num / den`. -/
def leading (num den : Nat) : Int :=
  let guess : Int := ((Nat.toDigits 10 num).length : Int) - (Nat.toDigits 10 den).length
  let (p, q) := power 10 guess
  if den * p ≤ num * q then guess else guess - 1

/-- The decimal with `count` digits that is nearest to `m * 2 ^ e` among those that read back. -/
def withDigits? (m : Nat) (e : Int) (count : Nat) : Option Decimal :=
  -- In units of a quarter of the last place the number is `4 * m`.
  let value := 4 * m
  let lo := if 2 * m = mantissaLimit ∧ minExponent < e then value - 1 else value - 2
  let hi := value + 2
  let (p, q) := power 2 (e - 2)
  let place := leading (value * p) q - (count : Int) + 1
  let (a, b) := power 10 place
  let below := value * p * b / (q * a)
  let fits (d : Nat) : Bool :=
    if m % 2 = 0 then lo * p * b ≤ d * q * a && d * q * a ≤ hi * p * b
    else lo * p * b < d * q * a && d * q * a < hi * p * b
  let gapBelow := value * p * b - below * q * a
  let gapAbove := (below + 1) * q * a - value * p * b
  let nearest :=
    if gapBelow < gapAbove ∨ (gapBelow = gapAbove ∧ below % 2 = 0) then below else below + 1
  if fits nearest then some ⟨nearest, place⟩
  else if fits below then some ⟨below, place⟩
  else if fits (below + 1) then some ⟨below + 1, place⟩
  else none

/-- The shortest decimal that reads back as `m * 2 ^ e`; seventeen digits always do. -/
def shortest (m : Nat) (e : Int) : Decimal :=
  ((List.range' 1 17).findSome? (withDigits? m e)).getD ⟨0, 0⟩

/-- Digits with the decimal point in its place. -/
def positional (d : Decimal) : String :=
  let text := toString d.digits
  if 0 ≤ d.exponent then text ++ String.ofList (List.replicate d.exponent.toNat '0') ++ ".0"
  else
    let places := (-d.exponent).toNat
    let padded := List.replicate (places + 1 - text.length) '0' ++ text.toList
    let whole := padded.take (padded.length - places)
    let fraction := padded.drop (padded.length - places)
    let trimmed := (fraction.reverse.dropWhile (· = '0')).reverse
    String.ofList whole ++ "." ++ (if trimmed = [] then "0" else String.ofList trimmed)

/-- The text of a number, always with a decimal point when it is finite. -/
def text : Binary64 → String
  | .nan => "NaN"
  | .infinite negative => if negative then "-inf" else "inf"
  | .finite negative m e =>
    (if negative then "-" else "") ++ (if m = 0 then "0.0" else positional (shortest m e))

end Binary64

end DocAtlas.Number
