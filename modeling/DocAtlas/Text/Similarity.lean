-- SUMMARY: How alike two words are, and the words of a list that are like a given one.

/-! # Similar words

Two words are alike by the letters that they share at about the same place, and
by how many of these stand in another order. The measure lies between zero and
one. -/

namespace DocAtlas.Text.Similarity

/-- Takes the first letter `x` out of the window from `lo` to `hi`; letters that are taken are
`none`. -/
def takeIn (x : Char) (lo hi : Nat) : (index : Nat) → List (Option Char) → Option (List (Option Char))
  | _, [] => none
  | i, y :: rest =>
    if lo ≤ i && i < hi && y = some x then some (none :: rest)
    else (takeIn x lo hi (i + 1) rest).map (y :: ·)

/-- The letters of the first word that have a partner in the second, and the second word without
the partners. -/
def partners (range : Nat) : (index : Nat) → List Char → List (Option Char) →
    List Char × List (Option Char)
  | _, [], b => ([], b)
  | i, x :: a, b =>
    match takeIn x (i - range) (i + range + 1) 0 b with
    | some b =>
      let (found, b) := partners range (i + 1) a b
      (x :: found, b)
    | none => partners range (i + 1) a b

/-- The measure of likeness. -/
def score (a b : List Char) : Float :=
  if a.isEmpty && b.isEmpty then 1
  else
    let range := max a.length b.length / 2 - 1
    let (found, left) := partners range 0 a (b.map some)
    let partnered := ((b.zip left).filter fun (_, l) => l.isNone).map (·.1)
    let swapped := ((found.zip partnered).filter fun (x, y) => x ≠ y).length / 2
    let m := found.length
    if m = 0 then 0
    else
      (m.toFloat / a.length.toFloat + m.toFloat / b.length.toFloat
        + (m - swapped).toFloat / m.toFloat) / 3

/-- Words with a higher score than this are alike. -/
def threshold : Float := 0.7

/-- Puts a scored word behind those that do not have a higher score. -/
def insert (x : Float × String) : List (Float × String) → List (Float × String)
  | [] => [x]
  | y :: rest => if y.1 > x.1 then x :: y :: rest else y :: insert x rest

/-- The words like `word`, the most similar last. -/
def similar (word : String) (words : List String) : List String :=
  let scored := words.map fun w => (score word.toList w.toList, w)
  ((scored.filter fun (s, _) => s > threshold).foldl (fun acc x => insert x acc) []).map (·.2)

end DocAtlas.Text.Similarity
