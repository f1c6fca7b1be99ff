-- SUMMARY: Domain names: mapping to their look-up form and the rules that their labels obey.
import DocAtlas.Text.CodeRanges
import DocAtlas.Url.Punycode
import DocAtlas.Url.Tables

/-! # Domain names

A name is mapped character by character and cut into labels at the dots. A
label marked `xn--` stands for other characters, which have to be in mapped
form already. All labels then obey the rules on disallowed characters, leading
marks, joiners, and, where the name has right-to-left text, on direction. -/

namespace DocAtlas.Url.Domain

open Text

/-! ## Characters -/

def disallowed : CodeRanges := CodeRanges.parse Tables.disallowedText

def ignored : CodeRanges := CodeRanges.parse Tables.ignoredText

def mapped : CodeRanges := CodeRanges.parse Tables.mappedText

def marks : CodeRanges := CodeRanges.parse Tables.marksText

def viramas : CodeRanges := CodeRanges.parse Tables.viramasText

def arabicLetters : CodeRanges := CodeRanges.parse Tables.arabicLettersText

/-- Reads `range:code.code`. -/
def parseMapping (cs : List Char) : CodeRange × List Char :=
  match splitOnce ':' cs with
  | some (range, codes) =>
    (CodeRange.parse range, (splitOn '.' codes).map fun d => Char.ofNat (numeral 16 d))
  | none => (CodeRange.parse cs, [])

def toAscii : List (CodeRange × List Char) :=
  (words Tables.toAsciiText.toList).map parseMapping

/-- The characters of ASCII that a domain may not hold. -/
def isForbidden (c : Char) : Bool :=
  c.toNat ≤ 0x20 || c.toNat = 0x7F || "%#/:<>?@[\\]^|".toList.contains c

/-- The look-up form of a character. -/
def mapChar (c : Char) : List Char :=
  if c.toNat < 0x80 then [c.toLower]
  else if ignored.contains c then []
  else match toAscii.find? fun (range, _) => range.contains c.toNat with
    | some (_, cs) => cs
    | none => [c]

/-- Whether a mapped character may stand in a label. -/
def isAllowed (c : Char) : Bool :=
  if c.toNat < 0x80 then !isForbidden c else !disallowed.contains c

/-! ## Marked labels -/

/-- A code point of a marked label: it is a character, and its mapping leaves it as it is. -/
def finalChar? (n : Nat) : Option Char :=
  let c := Char.ofNat n
  if c.toNat ≠ n then none
  else if n < 0x80 then if c.isUpper then none else some c
  else if ignored.contains c || mapped.contains c then none
  else some c

/-- The characters that a mapped label stands for. -/
def expand (label : List Char) : Option (List Char) :=
  match dropLead? "xn--".toList label with
  | none => some label
  | some code =>
    if code.all (·.toNat < 0x80) then
      match (Punycode.decode code).bind (·.mapM finalChar?) with
      | some cs => if cs.all (·.toNat < 0x80) then none else some cs
      | none => none
    else none

/-! ## Labels -/

/-- Joiners stand after a sign that asks for one; the non-joiner also between joining letters. -/
def joinersAllowed : (before : List Char) → List Char → Bool
  | _, [] => true
  | before, c :: rest =>
    let afterVirama := match before with
      | p :: _ => viramas.contains p
      | [] => false
    let joins (cs : List Char) : Bool :=
      match cs.dropWhile marks.contains with
      | p :: _ => arabicLetters.contains p
      | [] => false
    let fine :=
      if c.toNat = 0x200D then afterVirama
      else if c.toNat = 0x200C then afterVirama || (joins before && joins rest)
      else true
    fine && joinersAllowed (c :: before) rest

def startsWithMark : List Char → Bool
  | c :: _ => marks.contains c
  | [] => false

def isValidLabel (label : List Char) : Bool :=
  label.all isAllowed && !startsWithMark label && joinersAllowed [] label

/-! ## Direction -/

inductive Direction where
  | left
  | right
  | arabicDigit
  | digit
  | neutral
  | nonspacing
  deriving DecidableEq

def directions : List (Direction × CodeRanges) :=
  [(.right, CodeRanges.parse Tables.rightToLeftText),
   (.arabicDigit, CodeRanges.parse Tables.arabicDigitsText),
   (.digit, CodeRanges.parse Tables.digitsText),
   (.neutral, CodeRanges.parse Tables.neutralText),
   (.nonspacing, CodeRanges.parse Tables.nonspacingText)]

def direction (c : Char) : Direction :=
  match directions.find? fun (_, ranges) => ranges.contains c with
  | some (d, _) => d
  | none => .left

/-- The rule on the direction of a label in a name with right-to-left text. -/
def isDirected (label : List Char) : Bool :=
  let ds := label.map direction
  let last := (ds.reverse.dropWhile (· = .nonspacing)).head?
  match ds.head? with
  | none => true
  | some .right =>
    ds.all (· ≠ .left)
      && (last = some .right || last = some .digit || last = some .arabicDigit)
      && !(ds.contains .digit && ds.contains .arabicDigit)
  | some .left =>
    ds.all (fun d => d ≠ .right && d ≠ .arabicDigit)
      && (last = some .left || last = some .digit)
  | some _ => false

def hasRightToLeft (label : List Char) : Bool :=
  label.any fun c => 0x80 ≤ c.toNat && (direction c = .right || direction c = .arabicDigit)

/-! ## Names -/

/-- The look-up form of a name, where all its labels are valid. -/
def normalize (name : List Char) : Option (List Char) :=
  let mappedName := name.flatMap mapChar
  match (splitOn '.' mappedName).mapM expand with
  | none => none
  | some labels =>
    if labels.all isValidLabel && (!labels.any hasRightToLeft || labels.all isDirected) then
      some mappedName
    else none

end DocAtlas.Url.Domain
