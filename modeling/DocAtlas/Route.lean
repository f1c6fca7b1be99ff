-- SUMMARY: Routes: `/`-separated addresses on the site, their canonical form and relative references.
import DocAtlas.Text.Basic

/-! # Routes

A route is read as the list of its segments. Empty and `.` segments are
dropped and `..` removes the segment before it, or nothing at the root; what
is left is the canonical form, written with one leading `/`. -/

namespace DocAtlas.Route

open Text

/-- The segments that lead to a place below the root. -/
abbrev Segments := List (List Char)

/-- Takes one segment of a reference; the segments so far have the last one first. -/
def step (stack : Segments) (segment : List Char) : Segments :=
  if segment = [] ∨ segment = ['.'] then stack
  else if segment = ['.', '.'] then stack.tail
  else segment :: stack

/-- Follows the segments of a reference from the place `start`. -/
def follow (start reference : Segments) : Segments := (reference.foldl step start.reverse).reverse

/-- The segments of a route, with `.` and `..` applied. -/
def segments (route : List Char) : Segments := follow [] (splitOn '/' route)

/-- The text of a canonical route. -/
def render (segs : Segments) : String := String.ofList ('/' :: joinWith '/' segs)

/-- The canonical form of a route. -/
def clean (route : String) : String := render (segments route.toList)

/-- The part of a route up to and with its last `/`; the root when there is none. -/
def directory (route : List Char) : List Char :=
  if '/' ∈ route then (route.reverse.dropWhile (· ≠ '/')).reverse else ['/']

/-- Resolves a relative reference on the page served at `base`: the last segment of `base` is
replaced unless `base` ends with `/`. -/
def join (base relative : String) : String :=
  clean (String.ofList (directory base.toList) ++ relative)

/-- Drops a last segment `index` of a document id. -/
def stripIndex (id : String) : String :=
  if id = "index" then ""
  else match dropTail? "/index".toList id.toList with
    | some before => String.ofList before
    | none => id

end DocAtlas.Route
