-- SUMMARY: Sidebars: named trees of documents, categories and links, and what they refer to.
import DocAtlas.Json.Basic
import DocAtlas.StringMap

/-! # Sidebars

A sidebar is a list of entries; categories hold further entries. `references`
lists all that a sidebar points at, a category's own document before its items,
and `firstDoc?` is the document that the sidebar opens with. -/

namespace DocAtlas

inductive SidebarEntry where
  /-- A document by its id alone. -/
  | bare (id : String)
  | doc (id : String) (label : Option String)
  /-- A group of entries, which may have a document of its own. -/
  | category (label : String) (page : Option String) (items : List SidebarEntry)
  | link (label href : String)

/-- What an entry points at. -/
inductive SidebarTarget where
  | doc (id : String)
  | href (link : String)
  deriving DecidableEq

namespace SidebarEntry

/-! ## References -/

mutual

/-- What an entry and the entries in it point at. -/
def targets : SidebarEntry → List SidebarTarget
  | bare id | doc id _ => [.doc id]
  | category _ page items => page.toList.map .doc ++ targetsOf items
  | link _ href => [.href href]

/-- What the entries point at, in their order. -/
def targetsOf : List SidebarEntry → List SidebarTarget
  | [] => []
  | e :: rest => e.targets ++ targetsOf rest

end

mutual

/-- The first document that an entry leads to. -/
def firstDoc? : SidebarEntry → Option String
  | bare id | doc id _ => some id
  | category _ (some id) _ => some id
  | category _ none items => firstDocOf? items
  | link _ _ => none

/-- The first document that the entries lead to. -/
def firstDocOf? : List SidebarEntry → Option String
  | [] => none
  | e :: rest =>
    match e.firstDoc? with
    | some id => some id
    | none => firstDocOf? rest

end

/-! ## JSON -/

mutual

def toJson : SidebarEntry → Json
  | bare id => .str id
  | doc id label => .obj [("type", .str "doc"), ("id", .str id), ("label", .ofOption label)]
  | category label page items =>
    .obj [("type", .str "category"), ("label", .str label), ("link", .ofOption page),
      ("items", .arr (toJsonList items))]
  | link label href => .obj [("type", .str "link"), ("label", .str label), ("href", .str href)]

def toJsonList : List SidebarEntry → List Json
  | [] => []
  | e :: rest => e.toJson :: toJsonList rest

end

end SidebarEntry

/-- The sidebars of a site by their ids. -/
structure Sidebars where
  all : StringMap (List SidebarEntry) := {}

namespace Sidebars

def get? (s : Sidebars) (id : String) : Option (List SidebarEntry) := s.all.get? id

def size (s : Sidebars) : Nat := s.all.entries.length

/-- The document that a sidebar opens with. -/
def firstDoc? (s : Sidebars) (id : String) : Option String :=
  (s.get? id).bind SidebarEntry.firstDocOf?

/-- All that the sidebars point at, each with the id of its sidebar. -/
def references (s : Sidebars) : List (String × SidebarTarget) :=
  s.all.entries.flatMap fun (id, entries) => (SidebarEntry.targetsOf entries).map fun t => (id, t)

/-- The object of the sidebars by their ids. -/
def toJson (s : Sidebars) : Json :=
  .obj (s.all.entries.map fun (id, entries) => (id, .arr (SidebarEntry.toJsonList entries)))

end Sidebars

end DocAtlas
