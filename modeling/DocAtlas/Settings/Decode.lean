-- SUMMARY: Settings read off a TOML value: the fields of each section, and the keys that are none.
import DocAtlas.Settings.Basic
import DocAtlas.Toml.Decode

/-! # Settings from TOML

Each section is a record with a default for every field. Keys that a section
or the top level does not know are collected, so that they are reported
together with the other findings; the logo and the items of the navbar refuse
them at once. -/

namespace DocAtlas

open Toml (Value Mismatch Decoder)
open Toml.Decoder

/-! ## Sections -/

def SiteInfo.fields : List (Slot SiteInfo) :=
  [.of "title" text fun a s => { s with title := a },
   .of "tagline" text fun a s => { s with tagline := a },
   .of "url" text fun a s => { s with url := a },
   .of "base_url" text fun a s => { s with baseUrl := a },
   .of "favicon" filePath fun a s => { s with favicon := some a },
   .of "organization" text fun a s => { s with organization := some a },
   .of "project" text fun a s => { s with project := some a },
   .of "trailing_slash" flag fun a s => { s with trailingSlash := some a }]

def Locales.fields : List (Slot Locales) :=
  [.of "default_locale" text fun a s => { s with default := a },
   .of "locales" (list text) fun a s => { s with all := a }]

def Policy.choices : List (String × Policy) :=
  [("throw", .throw), ("warn", .warn), ("ignore", .ignore)]

def LinkPolicies.fields : List (Slot LinkPolicies) :=
  [.of "on_broken_links" (choice Policy.choices) fun a s => { s with onBrokenLinks := a },
   .of "on_broken_markdown_links" (choice Policy.choices) fun a s =>
    { s with onBrokenMarkdownLinks := a }]

def DocsSection.fields : List (Slot DocsSection) :=
  [.of "path" filePath fun a s => { s with path := a },
   .of "route_base_path" text fun a s => { s with routeBasePath := a },
   .of "sidebar" filePath fun a s => { s with sidebar := a },
   .of "edit_url" text fun a s => { s with editUrl := some a }]

def Theme.fields : List (Slot Theme) :=
  [.of "custom_css" filePath fun a s => { s with customCss := some a },
   .of "static_dirs" (list filePath) fun a s => { s with staticDirs := a },
   .of "pages" filePath fun a s => { s with pages := a }]

def Footer.fields : List (Slot Footer) :=
  [.of "copyright" text fun a s => { s with copyright := a }]

def Prism.fields : List (Slot Prism) :=
  [.of "theme" text fun a s => { s with theme := a },
   .of "dark_theme" text fun a s => { s with darkTheme := a },
   .of "additional_languages" (list text) fun a s =>
    { s with additionalLanguages := StringSet.ofList a }]

/-! ## Navbar -/

def Logo.fields : List (Slot Logo) :=
  [.of "alt" text fun a s => { s with alt := a },
   .need "src" text fun a s => { s with src := a },
   .of "src_dark" text fun a s => { s with srcDark := some a }]

def Side.choices : List (String × Side) := [("left", .left), ("right", .right)]

namespace NavItem

/-- The three kinds of items. -/
inductive Kind where
  | doc
  | docSidebar
  | link

def Kind.choices : List (String × Kind) :=
  [("doc", .doc), ("doc_sidebar", .docSidebar), ("link", .link)]

/-- The key that holds what an item leads to. -/
def Kind.targetKey : Kind → String
  | .doc => "doc_id"
  | .docSidebar => "sidebar_id"
  | .link => "href"

def Kind.target : Kind → String → NavTarget
  | .doc => .doc
  | .docSidebar => .sidebar
  | .link => .link

def Kind.recordName : Kind → String
  | .doc => "DocItem"
  | .docSidebar => "SidebarItem"
  | .link => "LinkItem"

def fields (kind : Kind) : List (Slot NavItem) :=
  [.need kind.targetKey text fun a s => { s with target := kind.target a },
   .need "label" text fun a s => { s with label := a },
   .of "position" (heldChoice Side.choices) fun a s => { s with position := a }]

def kindOf : Decoder Kind
  | .scalar (.string s) => named Kind.choices s
  | v => refuse (.invalidType v "variant identifier")

/-- The kind that an item names, with the rest of the item. -/
def tagged (v : Value) : Except Mismatch (Kind × Value) :=
  match v, fields? v with
  | .array [], _ => refuse (.missingField "type")
  | .array (tag :: items), _ => do
    let kind ← (kindOf tag).mapError (·.within (.item 0))
    return (kind, .array items)
  | _, some entries =>
    match entries.find? (·.1 = "type") with
    | some (_, tag) => do
      let kind ← (kindOf tag).mapError (·.within (.key "type"))
      return (kind, .table (entries.filter (·.1 ≠ "type")))
    | none => refuse (.missingField "type")
  | _, none => refuse (.invalidType v "internally tagged enum NavItem")

/-- The item of a known kind. -/
def ofKind (kind : Kind) : Value → Except Mismatch NavItem
  | .array items =>
    let fs := fields kind
    do
      let item ← fromItems kind.recordName fs.length fs 0 items ⟨kind.target "", "", .left⟩
      if fs.length < items.length then
        refuse (.invalidLength items.length (toString fs.length ++ " elements in sequence"))
      else return item
  | v => strictFields (fields kind) ⟨kind.target "", "", .left⟩ ((fields? v).getD [])

/-- The items of the navbar; `index` is that of the first. What is wrong with an item of a known
kind is told of the whole list. -/
def listFrom : (index : Nat) → List Value → Except Mismatch (List NavItem)
  | _, [] => .ok []
  | index, v :: rest => do
    let (kind, content) ← (tagged v).mapError (·.within (.item index))
    let item ← (ofKind kind content).mapError (·.atWhole)
    return item :: (← listFrom (index + 1) rest)

def items : Decoder (List NavItem)
  | .array vs => listFrom 0 vs
  | v => refuse (.invalidType v "a sequence")

end NavItem

def Navbar.fields : List (Slot Navbar) :=
  [.of "title" text fun a s => { s with title := some a },
   .of "logo" (strict "LogoConfig" Logo.fields ⟨"", "", none⟩) fun a s =>
    { s with logo := some a },
   .of "items" NavItem.items fun a s => { s with items := a }]

/-! ## All sections -/

namespace Settings

/-- A section: its key, and how its value is put into the settings, with the unknown keys. -/
structure Section where
  key : String
  put : Value → Settings → Except Mismatch (Settings × List String)

def Section.of {σ : Type} (key name : String) (fields : List (Slot σ)) (start : σ)
    (set : σ → Settings → Settings) : Section where
  key := key
  put v s := (lenient name fields start v).map fun (a, unknown) => (set a s, unknown)

def sections : List Section :=
  [.of "site" "SiteInfoConfig" SiteInfo.fields {} fun a s => { s with site := a },
   .of "i18n" "I18nConfig" Locales.fields {} fun a s => { s with i18n := a },
   .of "links" "LinksConfig" LinkPolicies.fields {} fun a s => { s with links := a },
   .of "docs" "DocsConfig" DocsSection.fields {} fun a s => { s with docs := a },
   .of "theme" "ThemeConfig" Theme.fields {} fun a s => { s with theme := a },
   .of "navbar" "NavbarConfig" Navbar.fields {} fun a s => { s with navbar := a },
   .of "footer" "FooterConfig" Footer.fields {} fun a s => { s with footer := a },
   .of "prism" "PrismConfig" Prism.fields {} fun a s => { s with prism := a }]

/-- Fills the settings from the keys of a table, in their order, and collects the dotted paths of
the unknown ones. -/
def fromEntries : List (String × Value) → Settings → Except Mismatch (Settings × List String)
  | [], s => .ok (s, [])
  | (k, v) :: rest, s =>
    match sections.find? (·.key = k) with
    | some sect => do
      let (s, inner) ← (sect.put v s).mapError (·.within (.key k))
      let (s, unknown) ← fromEntries rest s
      return (s, inner.map (k ++ "." ++ ·) ++ unknown)
    | none => do
      let (s, unknown) ← fromEntries rest s
      return (s, k :: unknown)

/-- The settings that a TOML value describes, and the paths of its unknown keys. -/
def decode (v : Value) : Except Mismatch (Settings × List String) :=
  match v with
  | .table entries => fromEntries entries {}
  | v => refuse (.invalidType v "struct SiteConfig")

end Settings

end DocAtlas
