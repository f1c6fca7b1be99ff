-- SUMMARY: Every reference that a site makes, and whether it resolves.
import DocAtlas.Audit.Report
import DocAtlas.Catalog.Basic
import DocAtlas.Disk
import DocAtlas.Site.Basic
import DocAtlas.Text.Percent

/-! # References

References come from the navbar, from the sidebars and from the links in the
documents. `Reference.fault?` says why a reference does not resolve; the report
of a site holds exactly the references with a fault. -/

namespace DocAtlas

/-- What references are resolved against. -/
structure Surroundings where
  site : Site
  catalog : Catalog
  disk : Disk

/-- A reference that a site makes. -/
inductive Reference where
  /-- The item of the navbar with the given index. -/
  | navbar (index : Nat) (item : NavItem)
  /-- A target of the sidebar with the given id. -/
  | sidebar (id : String) (target : SidebarTarget)
  | document (doc : Document) (link : DocLink)

namespace Surroundings

/-! ## Routes -/

/-- A path from the site root as it is served: below the base URL, unless it already lies there. -/
def siteRoute (s : Surroundings) (path : String) : String :=
  let baseUrl := s.site.settings.site.baseUrl
  let route := Route.clean path
  let base := Route.clean baseUrl
  if base = "/" || route = base || Text.startsWith (base ++ "/").toList route.toList then route
  else Route.clean (baseUrl ++ path)

def serves (s : Surroundings) (path : String) : Bool := s.catalog.hasRoute (s.siteRoute path)

/-- Links of the navbar and the sidebars: those on the site have to be served. -/
def hrefFault? (s : Surroundings) (href : String) : Option String :=
  match Link.kind href with
  | .external | .fragment => none
  | _ => if s.serves (Text.Percent.decode (Link.path href)) then none else some "route not found"

/-! ## Links in documents -/

/-- The file that a relative path names, seen from a document: `none` above the root of the disk. -/
def fileFrom (doc : Document) (path : String) : Option String :=
  (Path.parent? doc.path).bind fun dir => Path.clean (Path.join dir path)

/-- A link to a Markdown file has to lead to a document. -/
def markdownFault? (s : Surroundings) (doc : Document) (path : String) : Option String :=
  match Path.parent? doc.path with
  | none => some "not found"
  | some dir =>
    match Path.clean (Path.join dir path) with
    | none => some "points outside the file system root"
    | some target =>
      if (s.catalog.docAt? target).isSome then none
      else if s.disk.isFile target then some "is not a document"
      else some "file not found"

/-- Any other relative link leads to a route, unless it is an image, or to a file. -/
def relativeFault? (s : Surroundings) (doc : Document) (image : Bool) (path : String) :
    Option String :=
  if (!image && s.catalog.hasRoute (Route.join doc.route path))
      || (fileFrom doc path).any s.disk.isFile then none
  else some "not found"

def documentFault? (s : Surroundings) (doc : Document) (link : DocLink) : Option String :=
  let raw := Link.path link.dest
  if raw = "" then none
  else
    let path := Text.Percent.decode raw
    match Link.kind link.dest with
    | .external | .fragment => none
    | .siteRoot => if s.serves path then none else some "not found"
    | .markdownFile => s.markdownFault? doc path
    | .relative => s.relativeFault? doc link.image path

/-! ## Navbar -/

/-- The sidebar of a navbar item has to hold a document; whether that exists is told of the
sidebar. -/
def sidebarFault? (s : Surroundings) (id : String) : Option String :=
  match s.catalog.sidebars.get? id with
  | none => some "sidebar not found"
  | some _ =>
    match s.catalog.sidebars.firstDoc? id with
    | none => some "sidebar has no documents"
    | some _ => none

def docFault? (s : Surroundings) (id : String) : Option String :=
  if (s.catalog.doc? id).isSome then none else some "doc not found"

def navbarFault? (s : Surroundings) : NavTarget → Option String
  | .doc id => s.docFault? id
  | .sidebar id => s.sidebarFault? id
  | .link href => s.hrefFault? href

/-- All references of a site in the order in which they are checked. -/
def references (s : Surroundings) : List Reference :=
  (s.site.settings.navbar.items.zipIdx.map fun (item, i) => .navbar i item)
    ++ (s.catalog.sidebars.references.map fun (id, target) => .sidebar id target)
    ++ s.catalog.docs.flatMap fun doc => doc.links.map (.document doc)

end Surroundings

namespace Reference

/-- Why a reference does not resolve. -/
def fault? (s : Surroundings) : Reference → Option String
  | navbar i item =>
    (s.navbarFault? item.target).map fun what =>
      what ++ " (navbar.items[" ++ toString i ++ "])"
  | sidebar id target =>
    let what := match target with
      | .doc doc => s.docFault? doc
      | .href link => s.hrefFault? link
    what.map fun what => what ++ " (sidebar '" ++ id ++ "')"
  | document doc link => s.documentFault? doc link

/-- The class whose policy governs a reference; `none` where it is never checked. -/
def class? : Reference → Option LinkClass
  | navbar .. | sidebar .. => some .doc
  | document _ link => (Link.kind link.dest).class?

/-- The file that a reference stands in. -/
def source (s : Surroundings) : Reference → String
  | navbar .. => s.site.fileName
  | sidebar .. => Path.toSlash s.site.settings.docs.sidebar
  | document doc _ => doc.source

/-- The reference as written. -/
def target : Reference → String
  | navbar _ item =>
    match item.target with
    | .doc id | .sidebar id => id
    | .link href => href
  | sidebar _ (.doc id) => id
  | sidebar _ (.href link) => link
  | document _ link => link.dest

def line? : Reference → Option Nat
  | document _ link => some link.line
  | _ => none

/-- The entry of the report that a reference makes. -/
def broken? (s : Surroundings) (r : Reference) : Option (LinkClass × String × BrokenLink) :=
  match r.class?, r.fault? s with
  | some c, some reason => some (c, r.source s, ⟨r.target, r.line?, reason⟩)
  | _, _ => none

end Reference

/-- The report of all references that do not resolve. -/
def Surroundings.report (s : Surroundings) : Report :=
  (s.references.filterMap (·.broken? s)).foldl (fun r (c, source, link) => r.add c source link) {}

end DocAtlas
