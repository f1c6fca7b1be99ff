-- SUMMARY: Text as a list of characters: blanks, trimming, splitting at a character and joining again.

/-! # Text

Reading and cutting of text works on `List Char`; `String` appears at the
borders only. Every function here is structural, or one of the list functions
`takeWhile`, `dropWhile` and `reverse`. -/

namespace DocAtlas.Text

/-! ## Character classes -/

/-- The characters with the Unicode property `White_Space`. -/
def isBlank (c : Char) : Bool :=
  let n := c.toNat
  (9 ≤ n && n ≤ 13) || n == 0x20 || n == 0x85 || n == 0xA0 || n == 0x1680
    || (0x2000 ≤ n && n ≤ 0x200A) || n == 0x2028 || n == 0x2029 || n == 0x202F
    || n == 0x205F || n == 0x3000

/-- The printing ASCII characters that are neither letters nor digits. -/
def isPunctuation (c : Char) : Bool :=
  let n := c.toNat
  (0x21 ≤ n && n ≤ 0x2F) || (0x3A ≤ n && n ≤ 0x40) || (0x5B ≤ n && n ≤ 0x60)
    || (0x7B ≤ n && n ≤ 0x7E)

/-- The value of a hexadecimal digit. -/
def hexValue? (c : Char) : Option Nat :=
  let n := c.toNat
  if 0x30 ≤ n ∧ n ≤ 0x39 then some (n - 0x30)
  else if 0x41 ≤ n ∧ n ≤ 0x46 then some (n - 0x41 + 10)
  else if 0x61 ≤ n ∧ n ≤ 0x66 then some (n - 0x61 + 10)
  else none

/-- Whether `c` is a hexadecimal digit. -/
def isHexDigit (c : Char) : Bool := (hexValue? c).isSome

/-- The number written by a list of digits in the given base, leading digit first. -/
def numeral (base : Nat) (digits : List Char) : Nat :=
  digits.foldl (fun acc c => acc * base + (hexValue? c).getD 0) 0

/-! ## Trimming -/

def trimStart (cs : List Char) : List Char := cs.dropWhile isBlank

def trimEnd (cs : List Char) : List Char := (cs.reverse.dropWhile isBlank).reverse

def trim (cs : List Char) : List Char := trimEnd (trimStart cs)

/-- Text that holds nothing but blanks. -/
def isBlankText (s : String) : Bool := s.toList.all isBlank

/-! ## Splitting and joining -/

/-- The pieces between the occurrences of `sep`, the empty ones included. -/
def splitOn (sep : Char) : List Char → List (List Char)
  | [] => [[]]
  | c :: cs =>
    if c = sep then [] :: splitOn sep cs
    else match splitOn sep cs with
      | [] => [[c]]
      | piece :: pieces => (c :: piece) :: pieces

/-- The pieces with `sep` between each two neighbours. -/
def joinWith (sep : Char) : List (List Char) → List Char
  | [] => []
  | [piece] => piece
  | piece :: pieces => piece ++ sep :: joinWith sep pieces

theorem splitOn_ne_nil (sep : Char) (cs : List Char) : splitOn sep cs ≠ [] := by
  cases cs with
  | nil => exact List.cons_ne_nil _ _
  | cons c cs =>
    rw [splitOn]
    split
    · exact List.cons_ne_nil _ _
    · split <;> exact List.cons_ne_nil _ _

theorem joinWith_cons_of_ne_nil (sep : Char) (piece : List Char) {pieces : List (List Char)}
    (h : pieces ≠ []) : joinWith sep (piece :: pieces) = piece ++ sep :: joinWith sep pieces := by
  cases pieces with
  | nil => exact absurd rfl h
  | cons next rest => rfl

theorem joinWith_splitOn (sep : Char) (cs : List Char) : joinWith sep (splitOn sep cs) = cs := by
  induction cs with
  | nil => rfl
  | cons c cs ih =>
    rw [splitOn]
    split
    next hc => rw [joinWith_cons_of_ne_nil sep [] (splitOn_ne_nil sep cs), ih, hc, List.nil_append]
    next =>
      split
      next hnil => exact absurd hnil (splitOn_ne_nil sep cs)
      next piece pieces hcs =>
        rw [hcs] at ih
        cases pieces with
        | nil => rw [← ih]; rfl
        | cons next rest => rw [← ih]; rfl

theorem isPrefix_joinWith (sep : Char) (front back : List (List Char)) :
    joinWith sep front <+: joinWith sep (front ++ back) := by
  induction front with
  | nil => exact List.nil_prefix
  | cons piece front ih =>
    by_cases hfront : front = []
    · subst hfront
      cases back with
      | nil => exact List.prefix_refl _
      | cons next rest => exact List.prefix_append piece _
    · have hne : front ++ back ≠ [] := by simp [hfront]
      rw [List.cons_append, joinWith_cons_of_ne_nil sep piece hfront,
        joinWith_cons_of_ne_nil sep piece hne, List.prefix_append_right_inj,
        List.cons_prefix_cons]
      exact ⟨rfl, ih⟩

theorem not_mem_of_mem_splitOn {sep : Char} {cs piece : List Char} (h : piece ∈ splitOn sep cs) :
    sep ∉ piece := by
  induction cs generalizing piece with
  | nil =>
    rw [splitOn, List.mem_singleton] at h
    simp [h]
  | cons c cs ih =>
    rw [splitOn] at h
    split at h
    next =>
      rcases List.mem_cons.1 h with rfl | h
      · exact List.not_mem_nil
      · exact ih h
    next hc =>
      split at h
      next hnil => exact absurd hnil (splitOn_ne_nil sep cs)
      next first rest hcs =>
        rcases List.mem_cons.1 h with rfl | h
        · have hfirst := ih (hcs ▸ List.mem_cons_self)
          simp [Ne.symm hc, hfirst]
        · exact ih (hcs ▸ List.mem_cons_of_mem first h)

/-- Before the last piece, each piece has the separator behind it. -/
theorem joinWith_concat (sep : Char) (pieces : List (List Char)) (piece : List Char) :
    joinWith sep (pieces ++ [piece]) = pieces.flatMap (· ++ [sep]) ++ piece := by
  induction pieces with
  | nil => simp [joinWith]
  | cons first rest ih =>
    rw [List.cons_append, joinWith_cons_of_ne_nil sep first (List.concat_ne_nil piece rest), ih]
    simp

/-- A text does not end with the separator where its last piece is not empty. -/
theorem getLast?_joinWith_concat_ne {sep : Char} (pieces : List (List Char)) {piece : List Char}
    (hne : piece ≠ []) (h : sep ∉ piece) :
    (joinWith sep (pieces ++ [piece])).getLast? ≠ some sep := by
  rw [joinWith_concat, List.getLast?_append, List.getLast?_eq_some_getLast hne, Option.some_or]
  intro hlast
  exact h (Option.some.inj hlast ▸ List.getLast_mem hne)

/-- What stands before and after the first `sep`. -/
def splitOnce (sep : Char) : List Char → Option (List Char × List Char)
  | [] => none
  | c :: cs =>
    if c = sep then some ([], cs)
    else (splitOnce sep cs).map fun (before, after) => (c :: before, after)

/-- The lines, each with its newline; the last one may lack it. -/
def lines : List Char → List (List Char)
  | [] => []
  | c :: cs =>
    if c = '\n' then [c] :: lines cs
    else match lines cs with
      | [] => [[c]]
      | line :: rest => (c :: line) :: rest

/-- The parts between blanks. -/
def words : List Char → List (List Char)
  | [] => []
  | [c] => if isBlank c then [] else [[c]]
  | c :: d :: cs =>
    if isBlank c then words (d :: cs)
    else if isBlank d then [c] :: words (d :: cs)
    else match words (d :: cs) with
      | [] => [[c]]
      | word :: rest => (c :: word) :: rest

/-- What follows `lead` in a text that starts with it. -/
def dropLead? : (lead text : List Char) → Option (List Char)
  | [], text => some text
  | _ :: _, [] => none
  | l :: lead, c :: text => if l = c then dropLead? lead text else none

/-- What precedes `tail` in a text that ends with it. -/
def dropTail? (tail text : List Char) : Option (List Char) :=
  (dropLead? tail.reverse text.reverse).map List.reverse

def startsWith (lead text : List Char) : Bool := (dropLead? lead text).isSome

def endsWith (tail text : List Char) : Bool := (dropTail? tail text).isSome

/-- Whether `part` stands somewhere in the text. -/
def contains (part : List Char) : List Char → Bool
  | [] => part.isEmpty
  | c :: cs => startsWith part (c :: cs) || contains part cs

/-- The number of newlines. -/
def newlines (cs : List Char) : Nat := cs.count '\n'

def lower (cs : List Char) : List Char := cs.map Char.toLower

/-! ## Order -/

/-- The order of code points, which is that of the UTF-8 bytes too. -/
def le (a b : String) : Bool := !decide (b < a)

/-! ## Counted nouns -/

/-- A count with its noun: `1 link`, `3 links`. -/
def counted (n : Nat) (noun : String) : String :=
  toString n ++ " " ++ noun ++ (if n = 1 then "" else "s")

end DocAtlas.Text
