-- SUMMARY: Case folding: the form in which texts that differ in case only are equal.
import DocAtlas.Text.Basic
import DocAtlas.Text.CaseTable

/-! # Case folding

Two texts that differ in case only have the same folding. A character may fold
to several, as `ß` does to `ss`. -/

namespace DocAtlas.Text

/-- Reads `code:code.code`. -/
def parseFold (cs : List Char) : Nat × List Char :=
  match splitOnce ':' cs with
  | some (code, folded) =>
    (numeral 16 code, (splitOn '.' folded).map fun d => Char.ofNat (numeral 16 d))
  | none => (numeral 16 cs, [])

def caseFolds : List (Nat × List Char) := (words caseFoldText.toList).map parseFold

def foldChar (c : Char) : List Char :=
  if c.toNat < 0x80 then [c.toLower]
  else match caseFolds.find? (·.1 = c.toNat) with
    | some (_, cs) => cs
    | none => [c]

def caseFold (cs : List Char) : List Char := cs.flatMap foldChar

end DocAtlas.Text
