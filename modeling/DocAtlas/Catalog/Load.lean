-- SUMMARY: The catalogue of a site read off the disk: documents, sidebars, pages and static files.
import DocAtlas.Document.Links
import DocAtlas.Failure
import DocAtlas.Sidebar.Decode
import DocAtlas.Site.Basic

/-! # Loading a catalogue

Documents are the Markdown files below the documents directory, pages the files
of certain kinds below the pages directory; names that start with an underscore
are passed over in both. All static files are served under their own names. -/

namespace DocAtlas

namespace Disk

/-- The path of names below some directory. -/
def relativePath (p : Place) : String := String.ofList (Text.joinWith '/' p)

/-- The listed files below a directory, as paths from there; none where there is no directory. -/
def filesIn (d : Disk) (dir : String) : List Place :=
  match d.find dir with
  | .ok (p, .directory) => d.filesBelow p
  | _ => []

end Disk

namespace Catalog

/-- Whether a name on the way to a file starts with an underscore. -/
def isPartial (p : Place) : Bool := p.any fun name => name.head? = some '_'

/-- The files below a directory that are not partial. -/
def sourcesIn (disk : Disk) (dir : String) : List String :=
  ((disk.filesIn dir).filter fun p => !isPartial p).map Disk.relativePath

/-! ## Documents -/

def docExtensions : List String := ["md", "mdx"]

/-- The document that a text in the file `rel` below `dir` makes. -/
def documentOf (site : Site) (dir rel source : String) : Document :=
  let path := Path.join dir rel
  let cs := source.toList
  let (front, body) := FrontMatter.split cs
  let before := Text.newlines (cs.take (cs.length - body.length))
  { Document.ofFile rel site.settings.docsRoute front with
    source := Path.toSlash (site.relative path)
    path
    links := DocLink.ofMarkdown body before }

def readDocument (disk : Disk) (site : Site) (dir rel : String) : Except Failure Document :=
  let path := Path.join dir rel
  match disk.readText path with
  | .error fault => .error (.documentUnread path fault)
  | .ok source => .ok (documentOf site dir rel source)

/-- The documents below a directory. -/
def documents (disk : Disk) (site : Site) (dir : String) : Except Failure (List Document) :=
  ((sourcesIn disk dir).filter (Path.hasExtension docExtensions)).mapM (readDocument disk site dir)

/-- The documents of a site; a site without a documents directory has none. -/
def siteDocuments (disk : Disk) (site : Site) : Told (List Document) :=
  let dir := disk.normalize "/" (site.join site.settings.docs.path)
  if disk.isDirectory dir then .ofExcept (documents disk site dir)
  else do
    Told.tell (.warning ("docs directory '" ++ site.settings.docs.path ++ "' not found"))
    return []

/-! ## Sidebars -/

/-- The sidebars of a site; a site without a sidebar file has none. -/
def siteSidebars (disk : Disk) (site : Site) : Told Sidebars :=
  let path := site.join site.settings.docs.sidebar
  if !disk.holds path then do
    Told.tell (.detail "content" ("no sidebar file at " ++ path))
    return {}
  else match disk.readText path with
    | .error fault => .fail (.sidebarsUnread path fault)
    | .ok source => .ofExcept ((Sidebars.parse source).mapError (.sidebars path source))

/-! ## Pages and static files -/

def pageExtensions : List String := ["md", "mdx", "html", "js", "jsx", "ts", "tsx"]

/-- The id of a page: its path without the extension. -/
def pageId (rel : String) : String :=
  let dir := Document.directoryOf rel
  let name := String.ofList ((Path.stem? rel).getD [])
  if dir = "" then name else dir ++ "/" ++ name

def pageRoutes (disk : Disk) (site : Site) : List String :=
  ((sourcesIn disk (site.join site.settings.theme.pages)).filter
    (Path.hasExtension pageExtensions)).map fun rel =>
      Route.clean (site.settings.site.baseUrl ++ "/" ++ Route.stripIndex (pageId rel))

def staticRoutes (disk : Disk) (site : Site) : List String :=
  site.settings.theme.staticDirs.flatMap fun dir =>
    (disk.filesIn (site.join dir)).map fun p =>
      Route.clean (site.settings.site.baseUrl ++ "/" ++ Disk.relativePath p)

/-! ## All of it -/

/-- The catalogue of a site. -/
def load (disk : Disk) (site : Site) : Told Catalog := do
  let docs ← siteDocuments disk site
  let sidebars ← siteSidebars disk site
  let catalog ← Told.ofExcept ((ofDocuments docs sidebars).mapError .duplicate)
  let catalog := catalog.addRoutes (pageRoutes disk site ++ staticRoutes disk site)
  Told.tell (.detail "content" (toString catalog.docs.length ++ " docs, "
    ++ toString catalog.sidebars.size ++ " sidebars, "
    ++ toString catalog.routeCount ++ " routes"))
  return catalog

end Catalog

end DocAtlas
