-- SUMMARY: The rules that settings obey, each giving the findings about the fields that break it.
import DocAtlas.Path
import DocAtlas.Settings.Basic
import DocAtlas.Settings.Finding
import DocAtlas.Url.Basic

/-! # Rules

Each rule takes a field with its value to the findings about it, so the
findings about all settings are those of the rules one after another. Settings
are valid when there are none. -/

namespace DocAtlas

open Text

/-! ## Rules on one value -/

namespace Rule

/-- The value is not blank. -/
def nonBlank (field : FieldPath) (value : String) : List Finding :=
  if isBlankText value then [{ field, message := "must not be empty" }] else []

/-- Why a component does not stay below the directory it starts from. -/
def escape? : Path.Component → Option String
  | .parent => some "parent directory '..' not allowed"
  | .root => some "absolute paths not allowed"
  | .here | .name _ => none

/-- The path is not empty and stays below the site root. -/
def relativePath (field : FieldPath) (path : String) : List Finding :=
  if path = "" then [{ field, message := "path must not be empty" }]
  else match (Path.components path).findSome? escape? with
    | some reason =>
      [{ field
         message := "path '" ++ path ++ "': " ++ reason
         hint := some "use a path relative to the directory containing site.toml" }]
    | none => []

def urlHint : Option String := some "use format like https://example.com"

/-- The value is a URL of the web with a host: the findings, or the URL. -/
def webUrl (field : FieldPath) (value : String) : Except (List Finding) Url :=
  match Url.parse value with
  | .error e =>
    .error [{ field, message := "invalid URL '" ++ value ++ "': " ++ e.message, hint := urlHint }]
  | .ok url =>
    if url.scheme ≠ "http" ∧ url.scheme ≠ "https" then
      .error [{ field
                message := "scheme '" ++ url.scheme ++ "' not supported, must be http or https"
                hint := urlHint }]
    else if url.host.isNone then
      .error [{ field, message := "URL must have a valid host", hint := urlHint }]
    else .ok url

/-- The findings of `webUrl` alone. -/
def isWebUrl (field : FieldPath) (value : String) : List Finding :=
  match webUrl field value with
  | .error findings => findings
  | .ok _ => []

end Rule

open Rule

/-! ## Site -/

namespace SiteInfo

/-- The origin is a URL of the web without a path, a query or a fragment. -/
def urlFindings (s : SiteInfo) : List Finding :=
  let field : FieldPath := ⟨"site.url"⟩
  if isBlankText s.url then
    [{ field
       message := "must be set"
       hint := some ("set " ++ field.shown ++ ", e.g.: \"https://example.com\"") }]
  else match webUrl field s.url with
    | .error findings => findings
    | .ok url =>
      (if url.path = "/" then []
       else [{ field
               message := "URL must not contain a path, found '" ++ url.path ++ "'"
               hint := some ("move the path into " ++ FieldPath.shown ⟨"site.base_url"⟩) }])
      ++ (if url.query.isSome ∨ url.fragment.isSome then
            [{ field, message := "URL must not contain a query or fragment" }]
          else [])

/-- A base path has slashes at both ends, and no empty part, query or fragment. -/
def isBasePath (base : List Char) : Bool :=
  base.head? = some '/' && base.getLast? = some '/' && !contains "//".toList base
    && !base.contains '?' && !base.contains '#'

def baseUrlFindings (s : SiteInfo) : List Finding :=
  if isBasePath s.baseUrl.toList then []
  else [{ field := ⟨"site.base_url"⟩
          message := "'" ++ s.baseUrl ++ "' is not a valid base path"
          hint := some "start and end with '/', e.g. \"/\" or \"/pathling/\"" }]

/-- Organization and project are set together. -/
def repositoryFindings (s : SiteInfo) : List Finding :=
  let organization : FieldPath := ⟨"site.organization"⟩
  let project : FieldPath := ⟨"site.project"⟩
  (s.organization.map (nonBlank organization)).getD []
    ++ (s.project.map (nonBlank project)).getD []
    ++ match s.organization, s.project with
      | some _, none =>
        [{ field := project, message := organization.shown ++ " is set but " ++ project.shown ++ " is not" }]
      | none, some _ =>
        [{ field := organization, message := project.shown ++ " is set but " ++ organization.shown ++ " is not" }]
      | _, _ => []

def findings (s : SiteInfo) : List Finding :=
  nonBlank ⟨"site.title"⟩ s.title
    ++ nonBlank ⟨"site.tagline"⟩ s.tagline
    ++ s.urlFindings
    ++ s.baseUrlFindings
    ++ (s.favicon.map (relativePath ⟨"site.favicon"⟩)).getD []
    ++ s.repositoryFindings

end SiteInfo

/-! ## Locales -/

namespace Locales

/-- A language of two or three letters, then parts of two to eight letters or digits. -/
def isCode (code : String) : Bool :=
  match splitOn '-' code.toList with
  | [] => false
  | language :: rest =>
    2 ≤ language.length && language.length ≤ 3 && language.all Char.isAlpha
      && rest.all fun part => 2 ≤ part.length && part.length ≤ 8 && part.all Char.isAlphanum

/-- Each locale is a code and differs from those before it. -/
def eachFindings : (before : List String) → (index : Nat) → List String → List Finding
  | _, _, [] => []
  | before, index, locale :: rest =>
    let field := FieldPath.index ⟨"i18n.locales"⟩ index
    (if isCode locale then []
     else [{ field
             message := "'" ++ locale ++ "' is not a locale code"
             hint := some "use codes like \"en\", \"fr\" or \"zh-Hans\"" }])
    ++ (if before.contains locale then
          [{ field, message := "duplicate locale '" ++ locale ++ "'" }]
        else [])
    ++ eachFindings (locale :: before) (index + 1) rest

def defaultFindings (s : Locales) : List Finding :=
  let field : FieldPath := ⟨"i18n.default_locale"⟩
  if isBlankText s.default then [{ field, message := "must not be empty" }]
  else if s.all.contains s.default then []
  else [{ field
          message := "'" ++ s.default ++ "' is not one of " ++ FieldPath.shown ⟨"i18n.locales"⟩
          hint := some ("add \"" ++ s.default ++ "\" to i18n.locales or pick one of ["
            ++ ", ".intercalate s.all ++ "]") }]

def findings (s : Locales) : List Finding :=
  (if s.all.isEmpty then
    [{ field := ⟨"i18n.locales"⟩
       message := "at least one locale is required"
       hint := some "e.g. i18n.locales = [\"en\"]" }]
   else [])
  ++ eachFindings [] 0 s.all
  ++ s.defaultFindings

end Locales

/-! ## Documents and theme -/

namespace DocsSection

/-- A route segment has no query, fragment, backslash or empty part. -/
def isRouteSegment (route : List Char) : Bool :=
  !route.contains '?' && !route.contains '#' && !route.contains '\\' && !contains "//".toList route

def findings (s : DocsSection) : List Finding :=
  relativePath ⟨"docs.path"⟩ s.path
    ++ relativePath ⟨"docs.sidebar"⟩ s.sidebar
    ++ (if isRouteSegment s.routeBasePath.toList then []
        else [{ field := ⟨"docs.route_base_path"⟩
                message := "'" ++ s.routeBasePath ++ "' is not a valid route segment"
                hint := some "use plain path segments such as \"docs\"" }])
    ++ (s.editUrl.map (isWebUrl ⟨"docs.edit_url"⟩)).getD []

end DocsSection

namespace Theme

def staticFindings : (index : Nat) → List String → List Finding
  | _, [] => []
  | index, dir :: rest =>
    relativePath (FieldPath.index ⟨"theme.static_dirs"⟩ index) dir ++ staticFindings (index + 1) rest

def findings (s : Theme) : List Finding :=
  (s.customCss.map (relativePath ⟨"theme.custom_css"⟩)).getD []
    ++ staticFindings 0 s.staticDirs
    ++ relativePath ⟨"theme.pages"⟩ s.pages

end Theme

/-! ## Navbar -/

namespace NavItem

/-- A document id is not blank and, blanks around it apart, has no slash at either end. -/
def isDocId (id : List Char) : Bool :=
  let id := trim id
  id ≠ [] && id.head? ≠ some '/' && id.getLast? ≠ some '/'

def docFindings (field : FieldPath) (id : String) : List Finding :=
  if isDocId id.toList then []
  else [{ field
          message := "'" ++ id ++ "' is not a document id"
          hint := some "use the path below the docs directory without extension, e.g. \"encoders/index\"" }]

/-- A link is an absolute URL or a path from the site root. -/
def hrefFindings (field : FieldPath) (href : String) : List Finding :=
  if Link.isExternal href then
    match Url.parse href with
    | .error e => [{ field, message := "invalid URL '" ++ href ++ "': " ++ e.message }]
    | .ok _ => []
  else if href.toList.head? = some '/' then []
  else [{ field
          message := "'" ++ href ++ "' is neither an absolute URL nor a site path"
          hint := some "use https://... or a path starting with '/'" }]

def targetFindings (field : FieldPath) : NavTarget → List Finding
  | .doc id => docFindings (field.join "doc_id") id
  | .sidebar id => nonBlank (field.join "sidebar_id") id
  | .link href => hrefFindings (field.join "href") href

/-- The findings about a list of items; `index` is that of the first. -/
def listFindings : (index : Nat) → List NavItem → List Finding
  | _, [] => []
  | index, item :: rest =>
    let field := FieldPath.index ⟨"navbar.items"⟩ index
    nonBlank (field.join "label") item.label ++ targetFindings field item.target
      ++ listFindings (index + 1) rest

end NavItem

def Navbar.findings (s : Navbar) : List Finding :=
  (s.logo.map fun logo => nonBlank ⟨"navbar.logo.src"⟩ logo.src).getD []
    ++ NavItem.listFindings 0 s.items

/-! ## Highlighting -/

namespace Prism

/-- A name of lower-case letters, digits, `-` and `_`. -/
def isName (name : List Char) : Bool :=
  name ≠ [] && name.all fun c => c.isLower || c.isDigit || c = '-' || c = '_'

def presetFindings (field : FieldPath) (preset : String) : List Finding :=
  if isName preset.toList then []
  else [{ field
          message := "'" ++ preset ++ "' is not a preset name"
          hint := some "use a preset such as \"github\" or \"dracula\"" }]

def languageFindings (language : String) : List Finding :=
  if isName language.toList then []
  else [{ field := ⟨"prism.additional_languages"⟩
          message := "'" ++ language ++ "' is not a language name" }]

def findings (s : Prism) : List Finding :=
  presetFindings ⟨"prism.theme"⟩ s.theme
    ++ presetFindings ⟨"prism.dark_theme"⟩ s.darkTheme
    ++ s.additionalLanguages.keys.flatMap languageFindings

end Prism

/-! ## All settings -/

/-- Every finding about the settings. -/
def Settings.findings (s : Settings) : List Finding :=
  s.site.findings ++ s.i18n.findings ++ s.docs.findings ++ s.theme.findings ++ s.navbar.findings
    ++ s.prism.findings

end DocAtlas
