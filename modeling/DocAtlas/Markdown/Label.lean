-- SUMMARY: The bracketed labels of references and notes, and link destinations.
import DocAtlas.Markdown.Margin
import DocAtlas.Text.Basic

/-! # Labels and destinations

A label names a definition. It stands between brackets, holds no brackets, and
each run of blanks in it counts as one. A destination stands between angle
brackets, or ends at a blank and has balanced parentheses. -/

namespace DocAtlas.Markdown

/-! ## Labels -/

/-- Where the text goes on after a line end inside a label, if the label may go on. -/
abbrev Continuation := Cursor → Option Cursor

namespace Label

/-- The limit on the weight of a label. -/
def limit : Nat := 1000

/-- The place after the blanks that stand here, of which at most one ends a line. -/
def blanks (next : Continuation) : (fuel : Nat) → (broken : Bool) → Cursor → Option Cursor
  | 0, _, c => some c
  | fuel + 1, broken, c =>
    match c.rest with
    | [] => some c
    | x :: _ =>
      if isLineEnd x then
        if broken then none
        else (c.lineEnd?.bind next).bind (blanks next fuel true)
      else if isSpace x then blanks next fuel broken (c.advance 1)
      else some c

/-- Reads up to the closing bracket. `weight` counts what is not plain ASCII, and `empty` tells
that there is nothing but blanks and escapes so far. -/
def scan (next : Continuation) (inTable : Bool) :
    (fuel weight : Nat) → (empty : Bool) → (acc : List Char) → Cursor →
    Option (List Char × Cursor)
  | 0, _, _, _, _ => none
  | fuel + 1, weight, empty, acc, c =>
    if limit ≤ weight then none
    else match c.rest with
      | [] | '[' :: _ => none
      | ']' :: _ => if empty then none else some (acc.reverse, c.advance 1)
      | '\\' :: x :: _ =>
        if inTable && x = '|' then scan next inTable fuel (weight + 2) false ('|' :: acc) (c.advance 2)
        else
          scan next inTable fuel (weight + 1 + x.utf8Size) (empty && x.utf8Size = 1)
            (x :: '\\' :: acc) (c.advance 2)
      | ['\\'] => none
      | x :: _ =>
        if isSpaceOrLineEnd x then
          (blanks next (c.rest.length + 1) false c).bind fun d =>
            scan next inTable fuel (weight + (d.pos - c.pos)) empty (' ' :: acc) d
        else
          let heavy := if x.utf8Size = 1 then 0 else x.utf8Size
          scan next inTable fuel (weight + heavy) false (x :: acc) (c.advance 1)

end Label

/-- The label that starts here, its opening bracket left out, and the place after its closing one. -/
def label? (next : Continuation) (inTable : Bool) (c : Cursor) : Option (List Char × Cursor) :=
  Label.scan next inTable (c.rest.length + 1) 0 true [] c

/-- What stands between brackets. -/
inductive Reference where
  | link (label : List Char)
  | note (label : List Char)

/-- The reference that starts here with its opening bracket. The label of a note starts with a caret
and stays on its line. -/
def Reference.scan (next : Continuation) (inTable : Bool) (c : Cursor) :
    Option (Reference × Cursor) :=
  let link (d : Cursor) := (label? next inTable d).map fun (l, e) => (Reference.link l, e)
  match c.rest with
  | '[' :: '^' :: tail =>
    match tail with
    | ']' :: _ => link (c.advance 1)
    | _ =>
      match label? (fun _ => none) inTable (c.advance 2) with
      | some (l, d) => some (.note l, d)
      | none => link (c.advance 1)
  | '[' :: _ :: _ => link (c.advance 1)
  | _ => none

/-- The head `[^label]:` of a note's definition, and the place after it. -/
def noteHead? (inTable : Bool) (c : Cursor) : Option (List Char × Cursor) := do
  let (label, d) ← label? (fun _ => none) inTable (← c.literal? "[^")
  return (label, ← d.char? ':')

/-! ## Destinations -/

namespace Destination

/-- The text up to the closing angle bracket. -/
def angled (acc : List Char) : List Char → Option (List Char)
  | [] => none
  | '\\' :: x :: rest =>
    if Text.isPunctuation x then angled (x :: '\\' :: acc) rest
    else if isLineEnd x then none
    else angled (x :: '\\' :: acc) rest
  | x :: rest =>
    if x = '>' then some acc.reverse
    else if x = '<' || isLineEnd x then none
    else angled (x :: acc) rest

/-- The text up to a blank or a parenthesis that nothing opened. -/
def bare (depth open' : Nat) (acc : List Char) : List Char → Option (List Char)
  | [] => if open' = 0 then some acc.reverse else none
  | '\\' :: x :: rest =>
    if Text.isPunctuation x then bare depth open' (x :: '\\' :: acc) rest
    else if x.toNat ≤ 0x20 then (if open' = 0 then some ('\\' :: acc).reverse else none)
    else bare depth open' (x :: '\\' :: acc) rest
  | x :: rest =>
    if x.toNat ≤ 0x20 then (if open' = 0 then some acc.reverse else none)
    else if x = '(' then
      if depth < open' then none else bare depth (open' + 1) (x :: acc) rest
    else if x = ')' then
      if open' = 0 then some acc.reverse else bare depth (open' - 1) (x :: acc) rest
    else bare depth open' (x :: acc) rest

end Destination

/-- The raw destination that starts here, with at most `depth + 1` parentheses in each other, and the
place after it. -/
def destination? (depth : Nat) (c : Cursor) : Option (List Char × Cursor) :=
  match c.rest with
  | '<' :: rest => (Destination.angled [] rest).map fun raw => (raw, c.advance (raw.length + 2))
  | rest => (Destination.bare depth 0 [] rest).map fun raw => (raw, c.advance raw.length)

end DocAtlas.Markdown
