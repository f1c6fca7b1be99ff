-- SUMMARY: The settings of a site, section by section, with their defaults.
import DocAtlas.Link
import DocAtlas.Route
import DocAtlas.StringMap

/-! # Settings

What a settings file says about a site: one structure for each section, whose
default values stand for what the file leaves out. -/

namespace DocAtlas

/-! ## Sections -/

/-- The identity of the site. -/
structure SiteInfo where
  title : String := ""
  tagline : String := ""
  /-- The origin that the site is served from. -/
  url : String := ""
  /-- The path below the origin, `/` or `/project/`. -/
  baseUrl : String := "/"
  favicon : Option String := none
  organization : Option String := none
  project : Option String := none
  /-- Whether routes end with a slash; unset leaves it open. -/
  trailingSlash : Option Bool := none
  deriving DecidableEq

/-- The languages of the site. -/
structure Locales where
  default : String := "en"
  all : List String := ["en"]
  deriving DecidableEq

/-- What a broken link leads to. -/
inductive Policy where
  /-- The command fails. -/
  | throw
  /-- One warning for each broken link. -/
  | warn
  /-- Nothing. -/
  | ignore
  deriving DecidableEq

structure LinkPolicies where
  onBrokenLinks : Policy := .throw
  onBrokenMarkdownLinks : Policy := .warn
  deriving DecidableEq

/-- Where documents are kept and served. -/
structure DocsSection where
  /-- The documents directory below the site root. -/
  path : String := "docs"
  /-- The part of the routes between the base URL and the document. -/
  routeBasePath : String := "docs"
  /-- The file of the sidebars below the site root. -/
  sidebar : String := "sidebars.toml"
  editUrl : Option String := none
  deriving DecidableEq

structure Theme where
  customCss : Option String := none
  /-- Directories whose files are served as they are. -/
  staticDirs : List String := ["static"]
  /-- The directory of stand-alone pages. -/
  pages : String := "src/pages"
  deriving DecidableEq

structure Logo where
  alt : String := ""
  src : String
  srcDark : Option String := none
  deriving DecidableEq

/-- What a navbar item leads to. -/
inductive NavTarget where
  | doc (id : String)
  /-- The first document of a sidebar. -/
  | sidebar (id : String)
  | link (href : String)
  deriving DecidableEq

inductive Side where
  | left
  | right
  deriving DecidableEq

structure NavItem where
  target : NavTarget
  label : String
  position : Side := .left
  deriving DecidableEq

structure Navbar where
  title : Option String := none
  logo : Option Logo := none
  items : List NavItem := []
  deriving DecidableEq

structure Footer where
  copyright : String := ""
  deriving DecidableEq

/-- Highlighting of code blocks. -/
structure Prism where
  theme : String := "github"
  darkTheme : String := "dracula"
  additionalLanguages : StringSet := {}
  deriving DecidableEq

/-! ## All of them -/

structure Settings where
  site : SiteInfo := {}
  i18n : Locales := {}
  links : LinkPolicies := {}
  docs : DocsSection := {}
  theme : Theme := {}
  navbar : Navbar := {}
  footer : Footer := {}
  prism : Prism := {}
  deriving DecidableEq

/-- The policy for a class of links. -/
def LinkPolicies.policy (links : LinkPolicies) : LinkClass → Policy
  | .doc => links.onBrokenLinks
  | .markdown => links.onBrokenMarkdownLinks

/-- A policy that never makes a command fail. -/
def Policy.softened : Policy → Policy
  | .throw => .warn
  | p => p

/-- Every failure lowered to warnings. -/
def LinkPolicies.softened (links : LinkPolicies) : LinkPolicies :=
  ⟨links.onBrokenLinks.softened, links.onBrokenMarkdownLinks.softened⟩

/-- The route that all documents lie below. -/
def Settings.docsRoute (s : Settings) : String :=
  Route.clean (s.site.baseUrl ++ "/" ++ s.docs.routeBasePath)

end DocAtlas
