-- SUMMARY: Documents: the id and the route that follow from the file's place and its front matter.
import DocAtlas.Document.FrontMatter
import DocAtlas.Json.Basic
import DocAtlas.Path
import DocAtlas.Route

/-! # Documents

The id of a document is its path below the documents directory without the
extension; front matter may replace the last part. The route is the route
prefix followed by the id, a last `index` left out, or by the slug. -/

namespace DocAtlas

/-- A link or an image in the body of a document. -/
structure DocLink where
  /-- The destination as written. -/
  dest : String
  image : Bool
  /-- The line of the source file, counted from one. -/
  line : Nat
  deriving DecidableEq

structure Document where
  id : String
  route : String
  /-- The source file below the site root, separated by `/`. -/
  source : String
  title : Option String
  /-- The absolute path of the source file. -/
  path : String
  links : List DocLink
  deriving DecidableEq

namespace Document

/-- The directory of a file as a `/`-separated text. -/
def directoryOf (rel : String) : String :=
  match Path.parent? rel with
  | some dir => Path.toSlash dir
  | none => ""

/-- The id of the document in the file `rel` below the documents directory. -/
def idOf (rel : String) (front : FrontMatter) : String :=
  let dir := directoryOf rel
  let name := match front.id with
    | some id => id
    | none => String.ofList ((Path.stem? rel).getD [])
  if dir = "" then name else dir ++ "/" ++ name

/-- The route of the document in the file `rel`. A slug from the root is taken below the route
prefix, any other below the directory of the file. -/
def routeOf (rel routePrefix : String) (front : FrontMatter) : String :=
  match front.slug with
  | some slug =>
    if slug.toList.head? = some '/' then Route.clean (routePrefix ++ slug)
    else Route.clean (routePrefix ++ "/" ++ directoryOf rel ++ "/" ++ slug)
  | none => Route.clean (routePrefix ++ "/" ++ Route.stripIndex (idOf rel front))

/-- The document in the file `rel`, its place on the disk and its links still open. -/
def ofFile (rel routePrefix : String) (front : FrontMatter) : Document where
  id := idOf rel front
  route := routeOf rel routePrefix front
  source := ""
  title := front.title
  path := ""
  links := []

/-- A document in the manifest; a missing title is left out. -/
def toJson (d : Document) : Json :=
  .obj ([("id", .str d.id), ("route", .str d.route), ("source", .str d.source)]
    ++ match d.title with
      | some title => [("title", .str title)]
      | none => [])

end Document

end DocAtlas
