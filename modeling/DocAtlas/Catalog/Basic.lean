-- SUMMARY: The catalogue of a site: its documents by id and by file, its sidebars and its served routes.
import DocAtlas.Document.Basic
import DocAtlas.Sidebar.Basic

/-! # Catalogues

The documents stand in the order of their ids, no two with the same id. A file
is found by the components of its path, a route by its canonical form. -/

namespace DocAtlas

structure Catalog where
  docs : List Document := []
  sidebars : Sidebars := {}
  /-- The routes of pages and static files. -/
  otherRoutes : List String := []

namespace Catalog

/-! ## From documents -/

/-- Two documents with the same id. -/
structure Duplicate where
  id : String
  first : String
  second : String
  deriving DecidableEq

def Duplicate.message (d : Duplicate) : String :=
  "duplicate doc id '" ++ d.id ++ "' in '" ++ d.first ++ "' and '" ++ d.second ++ "'"

/-- The documents in the order of their ids; those with the same id keep their order. -/
def sorted (docs : List Document) : List Document := docs.mergeSort fun a b => Text.le a.id b.id

/-- The first neighbours with the same id. -/
def duplicate? : List Document → Option Duplicate
  | a :: b :: rest =>
    if a.id = b.id then some ⟨b.id, a.source, b.source⟩ else duplicate? (b :: rest)
  | _ => none

/-- The catalogue of some documents, where their ids differ. -/
def ofDocuments (docs : List Document) (sidebars : Sidebars) : Except Duplicate Catalog :=
  let docs := sorted docs
  match duplicate? docs with
  | some d => .error d
  | none => .ok { docs, sidebars }

def addRoutes (c : Catalog) (routes : List String) : Catalog :=
  { c with otherRoutes := c.otherRoutes ++ routes }

/-! ## Lookup -/

def doc? (c : Catalog) (id : String) : Option Document := c.docs.find? (·.id = id)

/-- The document in a file; of several, the last one. -/
def docAt? (c : Catalog) (path : String) : Option Document :=
  c.docs.reverse.find? fun d => Path.components d.path = Path.components path

/-- All served routes. -/
def routes (c : Catalog) : List String := c.docs.map (·.route) ++ c.otherRoutes

def hasRoute (c : Catalog) (route : String) : Bool := c.routes.contains (Route.clean route)

/-- The number of different routes. -/
def routeCount (c : Catalog) : Nat := (StringSet.ofList c.routes).entries.length

end Catalog

end DocAtlas
