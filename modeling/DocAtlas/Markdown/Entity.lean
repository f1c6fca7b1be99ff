-- SUMMARY: Character references such as `&amp;` and `&#65;`, and backslash escapes.
import DocAtlas.Markdown.EntityTable
import DocAtlas.Text.Basic

/-! # Character references

A reference stands for the characters of its name or for the character with its
code. Destinations hold references and backslash escapes; `unescape` replaces
both. -/

namespace DocAtlas.Markdown

open Text

/-- Reads `name:code.code`. -/
def parseEntity (cs : List Char) : List Char × List Char :=
  match splitOnce ':' cs with
  | some (name, codes) => (name, (splitOn '.' codes).map fun d => Char.ofNat (numeral 16 d))
  | none => (cs, [])

def entities : List (List Char × List Char) := (words entityText.toList).map parseEntity

def entity? (name : List Char) : Option (List Char) := (entities.find? (·.1 = name)).map (·.2)

/-- The character with a code; zero gives the replacement character. -/
def charOfCode? (n : Nat) : Option Char :=
  if n = 0 then some (Char.ofNat 0xFFFD)
  else if n < 0xD800 ∨ (0xDFFF < n ∧ n < 0x110000) then some (Char.ofNat n)
  else none

/-- A reference by code, given what follows `&#`: the text that it stands for and its length. -/
def codeReference? (cs : List Char) : Option (List Char × Nat) :=
  let (mark, base, limit) := match cs with
    | 'x' :: _ | 'X' :: _ => (1, 16, 6)
    | _ => (0, 10, 7)
  let isDigit (c : Char) : Bool := if base = 16 then isHexDigit c else c.isDigit
  let digits := ((cs.drop mark).take limit).takeWhile isDigit
  if digits = [] ∨ (cs.drop (mark + digits.length)).head? ≠ some ';' then none
  else (charOfCode? (numeral base digits)).map fun c => ([c], mark + digits.length + 1)

/-- A reference, given what follows `&`: the text that it stands for and its length. -/
def reference? (cs : List Char) : Option (List Char × Nat) :=
  match cs with
  | '#' :: rest => (codeReference? rest).map fun (text, n) => (text, n + 1)
  | _ =>
    let name := cs.takeWhile Char.isAlphanum
    if (cs.drop name.length).head? = some ';' then
      (entity? name).map fun text => (text, name.length + 1)
    else none

/-- The text that a raw destination stands for. In a table, a backslash before an escaped pipe is
dropped as well. -/
def unescapeUpTo (inTable : Bool) : (fuel : Nat) → List Char → List Char
  | 0, cs => cs
  | _, [] => []
  | fuel + 1, '\\' :: rest =>
    match inTable, rest with
    | true, '\\' :: '|' :: tail => '|' :: unescapeUpTo inTable fuel tail
    | _, c :: tail =>
      if isPunctuation c then c :: unescapeUpTo inTable fuel tail
      else '\\' :: unescapeUpTo inTable fuel rest
    | _, [] => ['\\']
  | fuel + 1, '&' :: rest =>
    match reference? rest with
    | some (text, n) => text ++ unescapeUpTo inTable fuel (rest.drop n)
    | none => '&' :: unescapeUpTo inTable fuel rest
  | fuel + 1, c :: rest =>
    if c = '\r' then unescapeUpTo inTable fuel rest else c :: unescapeUpTo inTable fuel rest

def unescape (inTable : Bool) (cs : List Char) : List Char := unescapeUpTo inTable cs.length cs

end DocAtlas.Markdown
