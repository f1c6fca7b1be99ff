-- SUMMARY: What the settings of a site have to satisfy, field by field, said without the checks.
import DocAtlas.Settings.Rules
import Mathlib.Data.List.Basic

/-! # Demands on settings

A demand is a proposition about the settings, with the field that is at fault
where it fails. The list of all demands is the specification of the checks in
`Settings.findings`; nothing here computes a finding. -/

namespace DocAtlas

open Text

/-- What a field has to satisfy. -/
structure Demand where
  field : FieldPath
  met : Prop

namespace Demand

/-! ## Demands on one value -/

/-- Some character is not blank. -/
def NonBlank (value : String) : Prop := ∃ c ∈ value.toList, isBlank c = false

/-- The path is not empty, not absolute and has no `..` component. -/
def StaysBelow (path : String) : Prop :=
  path ≠ "" ∧ Path.isAbsolute path = false ∧ .parent ∉ Path.components path

/-- The text is a URL, `http` or `https`, with a host. -/
def IsWebUrl (value : String) (url : Url) : Prop :=
  Url.parse value = .ok url ∧ (url.scheme = "http" ∨ url.scheme = "https") ∧ url.host.isSome

/-- The text is a URL of the web with nothing behind the host. -/
def IsOrigin (value : String) : Prop :=
  NonBlank value ∧ ∃ url, IsWebUrl value url ∧ url.path = "/" ∧ url.query = none ∧ url.fragment = none

/-- Slashes at both ends, no empty part, no query and no fragment. -/
def IsBasePath (base : List Char) : Prop :=
  ['/'] <+: base ∧ ['/'] <:+ base ∧ ¬ ['/', '/'] <:+: base ∧ '?' ∉ base ∧ '#' ∉ base

/-- No query, no fragment, no backslash and no empty part. -/
def IsRoute (route : List Char) : Prop :=
  '?' ∉ route ∧ '#' ∉ route ∧ '\\' ∉ route ∧ ¬ ['/', '/'] <:+: route

/-- Two or three letters, then any number of parts of a `-` and two to eight letters or digits. -/
def IsLocaleCode (code : List Char) : Prop :=
  ∃ (language : List Char) (parts : List (List Char)),
    code = language ++ parts.flatMap ('-' :: ·) ∧
    2 ≤ language.length ∧ language.length ≤ 3 ∧ (∀ c ∈ language, c.isAlpha = true) ∧
    ∀ part ∈ parts, 2 ≤ part.length ∧ part.length ≤ 8 ∧ ∀ c ∈ part, c.isAlphanum = true

/-- Something is left without the blanks around, and it has no slash at either end. -/
def IsDocId (id : List Char) : Prop :=
  trim id ≠ [] ∧ ¬ ['/'] <+: trim id ∧ ¬ ['/'] <:+ trim id

/-- A text with a scheme is a URL, any other text a path from the site root. -/
def IsHref (href : String) : Prop :=
  if Link.isExternal href then ∃ url, Url.parse href = .ok url else ['/'] <+: href.toList

/-- Lower-case letters, digits, `-` and `_`, at least one. -/
def IsName (name : List Char) : Prop :=
  name ≠ [] ∧ ∀ c ∈ name, c.isLower = true ∨ c.isDigit = true ∨ c = '-' ∨ c = '_'

end Demand

open Demand

/-! ## Sections -/

/-- Of two fields that are set together, the one that is missing is at fault. -/
def SiteInfo.demands (s : SiteInfo) : List Demand :=
  [⟨⟨"site.title"⟩, NonBlank s.title⟩,
   ⟨⟨"site.tagline"⟩, NonBlank s.tagline⟩,
   ⟨⟨"site.url"⟩, IsOrigin s.url⟩,
   ⟨⟨"site.base_url"⟩, IsBasePath s.baseUrl.toList⟩,
   ⟨⟨"site.favicon"⟩, ∀ path ∈ s.favicon, StaysBelow path⟩,
   ⟨⟨"site.organization"⟩,
     (∀ name ∈ s.organization, NonBlank name) ∧ (s.organization = none → s.project = none)⟩,
   ⟨⟨"site.project"⟩,
     (∀ name ∈ s.project, NonBlank name) ∧ (s.project = none → s.organization = none)⟩]

namespace Locales

/-- Each locale is a code and differs from all locales before it. -/
def localeDemand (all : List String) (locale : String) (i : Nat) : Demand :=
  ⟨.index ⟨"i18n.locales"⟩ i, IsLocaleCode locale.toList ∧ locale ∉ all.take i⟩

def demands (s : Locales) : List Demand :=
  [⟨⟨"i18n.locales"⟩, s.all ≠ []⟩]
    ++ s.all.zipIdx.map (fun (locale, i) => localeDemand s.all locale i)
    ++ [⟨⟨"i18n.default_locale"⟩, NonBlank s.default ∧ s.default ∈ s.all⟩]

end Locales

def DocsSection.demands (s : DocsSection) : List Demand :=
  [⟨⟨"docs.path"⟩, StaysBelow s.path⟩,
   ⟨⟨"docs.sidebar"⟩, StaysBelow s.sidebar⟩,
   ⟨⟨"docs.route_base_path"⟩, IsRoute s.routeBasePath.toList⟩,
   ⟨⟨"docs.edit_url"⟩, ∀ value ∈ s.editUrl, ∃ url, IsWebUrl value url⟩]

namespace Theme

def staticDemand (dir : String) (i : Nat) : Demand :=
  ⟨.index ⟨"theme.static_dirs"⟩ i, StaysBelow dir⟩

def demands (s : Theme) : List Demand :=
  [⟨⟨"theme.custom_css"⟩, ∀ path ∈ s.customCss, StaysBelow path⟩]
    ++ s.staticDirs.zipIdx.map (fun (dir, i) => staticDemand dir i)
    ++ [⟨⟨"theme.pages"⟩, StaysBelow s.pages⟩]

end Theme

namespace NavItem

def targetDemand (field : FieldPath) : NavTarget → Demand
  | .doc id => ⟨field.join "doc_id", IsDocId id.toList⟩
  | .sidebar id => ⟨field.join "sidebar_id", NonBlank id⟩
  | .link href => ⟨field.join "href", IsHref href⟩

def demands (item : NavItem) (i : Nat) : List Demand :=
  let field := FieldPath.index ⟨"navbar.items"⟩ i
  [⟨field.join "label", NonBlank item.label⟩, targetDemand field item.target]

end NavItem

def Navbar.demands (s : Navbar) : List Demand :=
  [⟨⟨"navbar.logo.src"⟩, ∀ logo ∈ s.logo, NonBlank logo.src⟩]
    ++ s.items.zipIdx.flatMap fun (item, i) => item.demands i

def Prism.demands (s : Prism) : List Demand :=
  [⟨⟨"prism.theme"⟩, IsName s.theme.toList⟩,
   ⟨⟨"prism.dark_theme"⟩, IsName s.darkTheme.toList⟩,
   ⟨⟨"prism.additional_languages"⟩,
     ∀ language ∈ s.additionalLanguages.keys, IsName language.toList⟩]

/-- All that settings have to satisfy. -/
def Settings.demands (s : Settings) : List Demand :=
  s.site.demands ++ s.i18n.demands ++ s.docs.demands ++ s.theme.demands ++ s.navbar.demands
    ++ s.prism.demands

end DocAtlas
