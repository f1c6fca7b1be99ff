-- SUMMARY: Numeric host addresses: the four-part form with its shorthands, and the eight-group form.
import DocAtlas.Text.Basic

/-! # Numeric addresses

An IPv4 address has up to four numbers, decimal, octal or hexadecimal, of which
the last fills the bytes that are left. An IPv6 address has eight groups of
hexadecimal digits, of which one run may be written `::` and the last two as an
IPv4 address. -/

namespace DocAtlas.Url.Address

open Text

/-! ## IPv4 -/

/-- The base of a number and its digits. -/
def radix : List Char → Nat × List Char
  | '0' :: 'x' :: cs | '0' :: 'X' :: cs => (16, cs)
  | '0' :: c :: cs => (8, c :: cs)
  | cs => (10, cs)

def isDigitIn (base : Nat) (c : Char) : Bool :=
  match hexValue? c with
  | some v => v < base
  | none => false

/-- The number that a part stands for. -/
def number? (part : List Char) : Option Nat :=
  if part = [] then none
  else
    let (base, digits) := radix part
    if digits.all (isDigitIn base) then some (numeral base digits) else none

/-- The parts of a name, without the empty one after a last dot. -/
def partsOf (name : List Char) : List (List Char) :=
  let parts := splitOn '.' name
  if parts.getLast? = some [] then parts.dropLast else parts

/-- Names whose last part is a number have to be addresses. -/
def endsInNumber (name : List Char) : Bool :=
  match (partsOf name).getLast? with
  | none => false
  | some last => (last ≠ [] && last.all Char.isDigit) || (number? last).isSome

/-- The address that the numbers stand for. -/
def combine (numbers : List Nat) : Option Nat :=
  match numbers.getLast? with
  | none => none
  | some last =>
    let front := numbers.dropLast
    if front.any (255 < ·) then none
    else if Nat.pow 256 (4 - front.length) ≤ last then none
    else some (front.zipIdx.foldl (fun sum (n, i) => sum + n * Nat.pow 256 (3 - i)) last)

def ipv4? (name : List Char) : Option Nat :=
  let parts := partsOf name
  if 4 < parts.length then none
  else (parts.mapM number?).bind combine

/-! ## IPv6 -/

/-- A decimal number below 256 without leading zeros. -/
def byte? (cs : List Char) : Option Nat :=
  let n := numeral 10 cs
  if cs = [] ∨ ¬ cs.all Char.isDigit then none
  else if 1 < cs.length ∧ cs.head? = some '0' then none
  else if 255 < n then none
  else some n

/-- The groups that a piece between colons stands for; only the last may be an IPv4 address. -/
def groups? (isLast : Bool) (piece : List Char) : Option (List Nat) :=
  if isLast ∧ '.' ∈ piece then
    match (splitOn '.' piece).mapM byte? with
    | some [a, b, c, d] => some [a * 256 + b, c * 256 + d]
    | _ => none
  else if piece ≠ [] ∧ piece.length ≤ 4 ∧ piece.all isHexDigit then some [numeral 16 piece]
  else none

/-- The groups of pieces with colons between them; `closing` says that the address ends here. -/
def sequence? (closing : Bool) (cs : List Char) : Option (List Nat) :=
  if cs = [] then some []
  else
    let pieces := splitOn ':' cs
    (pieces.zipIdx.mapM fun (piece, i) => groups? (closing && i + 1 == pieces.length) piece).map
      List.flatten

/-- What stands before and after the first `::`. -/
def splitGap : List Char → Option (List Char × List Char)
  | [] => none
  | [_] => none
  | a :: b :: cs =>
    if a = ':' ∧ b = ':' then some ([], cs)
    else (splitGap (b :: cs)).map fun (before, after) => (a :: before, after)

def ipv6? (cs : List Char) : Option (List Nat) :=
  match splitGap cs with
  | none =>
    match sequence? true cs with
    | some groups => if groups.length = 8 then some groups else none
    | none => none
  | some (before, after) =>
    match sequence? false before, sequence? true after with
    | some left, some right =>
      let count := left.length + right.length
      if count ≤ 7 then some (left ++ List.replicate (8 - count) 0 ++ right) else none
    | _, _ => none

end DocAtlas.Url.Address
