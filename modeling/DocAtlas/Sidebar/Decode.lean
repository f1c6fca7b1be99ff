-- SUMMARY: Sidebars read off a TOML value.
import DocAtlas.Sidebar.Basic
import DocAtlas.Toml.Shape

/-! # Sidebars from TOML

An entry is a string, a table that names its type, or an array that starts with
the type and goes on with the fields in their order. A list with an entry that
is none of these is refused as a whole. -/

namespace DocAtlas

open Toml (Value Mismatch Decoder)
open Toml.Decoder

namespace SidebarEntry

/-! ## Entries -/

/-- A value together with the entries that it holds, where it is a list of entries. -/
structure Part where
  value : Value
  entries : Option (List SidebarEntry)

namespace Part

def text? (p : Part) : Option String :=
  match p.value with
  | .scalar (.string s) => some s
  | _ => none

end Part

/-- The entry of the given type with the fields that `field` finds. A field that is absent is
`none`. -/
def ofFields (type : String) (field : String → Option Part) : Option SidebarEntry :=
  let text (name : String) : Option String := (field name).bind Part.text?
  let optional (name : String) : Option (Option String) :=
    match field name with
    | none => some none
    | some p => p.text?.map some
  match type with
  | "doc" => do return .doc (← text "id") (← optional "label")
  | "category" => do
    let items ← match field "items" with
      | none => some []
      | some p => p.entries
    return .category (← text "label") (← optional "link") items
  | "link" => do return .link (← text "label") (← text "href")
  | _ => none

/-- The names of the fields of a type, in their order, and how many of them an array needs. -/
def layout : String → List String × Nat
  | "doc" => (["id", "label"], 2)
  | "category" => (["label", "link", "items"], 1)
  | "link" => (["label", "href"], 2)
  | _ => ([], 0)

/-- The entry that an array stands for. -/
def ofParts : List Part → Option SidebarEntry
  | [] => none
  | tag :: parts => do
    let type ← tag.text?
    let (names, needed) := layout type
    if parts.length < needed || names.length < parts.length then none
    ofFields type fun name => ((names.zip parts).find? (·.1 = name)).map (·.2)

/-- The entry that a table stands for. -/
def ofTable (fields : List (String × Part)) : Option SidebarEntry := do
  let field (name : String) : Option Part := (fields.find? (·.1 = name)).map (·.2)
  let type ← (← field "type").text?
  ofFields type field

mutual

def ofValue? : Value → Option SidebarEntry
  | .scalar (.string s) => some (.bare s)
  | .scalar _ => none
  | .array items => ofParts (partsOf items)
  | .table fields => ofTable (fieldsOf fields)

def partOf : Value → Part
  | .array items => ⟨.array items, listOf items⟩
  | .scalar s => ⟨.scalar s, none⟩
  | .table fields => ⟨.table fields, none⟩

/-- The entries of a list, where each item is one. -/
def listOf : List Value → Option (List SidebarEntry)
  | [] => some []
  | v :: rest => do return (← ofValue? v) :: (← listOf rest)

def partsOf : List Value → List Part
  | [] => []
  | v :: rest => partOf v :: partsOf rest

def fieldsOf : List (String × Value) → List (String × Part)
  | [] => []
  | (k, v) :: rest => (k, partOf v) :: fieldsOf rest

end

/-! ## Lists and maps -/

/-- The entries of a sidebar. -/
def list : Decoder (List SidebarEntry)
  | .array items =>
    match listOf items with
    | some entries => .ok entries
    | none => refuse (.noAlternative "SidebarEntry")
  | v => refuse (.invalidType v "a sequence")

end SidebarEntry

namespace Sidebars

/-- The sidebars of a table, in its order. -/
def listFrom : List (String × Value) → Except Mismatch (List (String × List SidebarEntry))
  | [] => .ok []
  | (id, v) :: rest => do
    let entries ← (SidebarEntry.list v).mapError (·.within (.key id))
    return (id, entries) :: (← listFrom rest)

def map (v : Value) : Except Mismatch (StringMap (List SidebarEntry)) :=
  match fields? v with
  | some fields => (listFrom fields).map StringMap.ofList
  | none => refuse (.invalidType v "a map")

def fields : List (Slot Sidebars) := [.of "sidebars" map fun a s => { s with all := a }]

/-- The sidebars of a TOML value; other keys mean nothing. -/
def decode (v : Value) : Except Mismatch Sidebars := (lenient "Sidebars" fields {} v).map (·.1)

/-- The sidebars that the text of a sidebar file describes. -/
def parse (source : String) : Except Toml.Error Sidebars := Toml.decode decode source

end Sidebars

end DocAtlas
