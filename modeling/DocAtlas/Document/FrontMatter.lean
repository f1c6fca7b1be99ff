-- SUMMARY: Front matter: the `key: value` lines between two `---` fences at the head of a document.
import DocAtlas.Text.Basic

/-! # Front matter

A document may open, after blanks, with a fence line `---`, lines of
`key: value`, and another fence. What follows the second fence is the body.
Where the two fences are not found, the whole source is the body. -/

namespace DocAtlas

open Text

/-- The keys that bear on the address and the title of a document. -/
structure FrontMatter where
  id : Option String := none
  slug : Option String := none
  title : Option String := none
  deriving DecidableEq, Inhabited

namespace FrontMatter

/-! ## Keys -/

/-- The text inside a pair of equal quotes around all of it. -/
def unquote (value : List Char) : List Char :=
  match (dropLead? ['"'] value).bind (dropTail? ['"']) with
  | some inner => inner
  | none =>
    match (dropLead? ['\''] value).bind (dropTail? ['\'']) with
    | some inner => inner
    | none => value

/-- The key and the value that a line assigns. Comments, lines without a colon and empty values
assign nothing. -/
def assignment? (line : List Char) : Option (List Char × List Char) :=
  let line := trim line
  if line.head? = some '#' then none
  else match splitOnce ':' line with
    | none => none
    | some (key, value) =>
      let value := unquote (trim value)
      if value = [] then none else some (trim key, value)

/-- Records an assignment; other keys are of no interest here. -/
def assign (front : FrontMatter) (key value : List Char) : FrontMatter :=
  if key = "id".toList then { front with id := some (String.ofList value) }
  else if key = "slug".toList then { front with slug := some (String.ofList value) }
  else if key = "title".toList then { front with title := some (String.ofList value) }
  else front

/-- The keys of a block of lines; the last assignment of a key counts. -/
def ofLines (block : List (List Char)) : FrontMatter :=
  block.foldl (fun front line =>
    match assignment? line with
    | some (key, value) => front.assign key value
    | none => front) {}

/-! ## Fences -/

/-- A line that holds `---` and, after it, nothing but blanks. -/
def isFence (line : List Char) : Bool := trimEnd line = "---".toList

/-- The lines before the first fence and the text after it. -/
def cutFence (text : List Char) : Option (List (List Char) × List Char) :=
  let all := lines text
  match all.dropWhile (!isFence ·) with
  | [] => none
  | _ :: rest => some (all.takeWhile (!isFence ·), rest.flatten)

/-- The front matter of a source and its body. -/
def split (source : List Char) : FrontMatter × List Char :=
  match splitOnce '\n' (trimStart source) with
  | none => ({}, source)
  | some (opening, inner) =>
    if isFence opening then
      match cutFence inner with
      | some (block, body) => (ofLines block, body)
      | none => ({}, source)
    else ({}, source)

end FrontMatter

end DocAtlas
