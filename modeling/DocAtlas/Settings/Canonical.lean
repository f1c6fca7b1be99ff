-- SUMMARY: The canonical JSON form of settings, as the manifest holds it.
import DocAtlas.Json.Basic
import DocAtlas.Settings.Basic

/-! # Settings as JSON

Every field is written, in the order of the sections and of their fields; what
is unset is `null`. -/

namespace DocAtlas

open Json (ofOption ofOptionBool strings)

def SiteInfo.toJson (s : SiteInfo) : Json :=
  .obj [("title", .str s.title), ("tagline", .str s.tagline), ("url", .str s.url),
    ("base_url", .str s.baseUrl), ("favicon", ofOption s.favicon),
    ("organization", ofOption s.organization), ("project", ofOption s.project),
    ("trailing_slash", ofOptionBool s.trailingSlash)]

def Locales.toJson (s : Locales) : Json :=
  .obj [("default_locale", .str s.default), ("locales", strings s.all)]

def Policy.name : Policy → String
  | .throw => "throw"
  | .warn => "warn"
  | .ignore => "ignore"

def LinkPolicies.toJson (s : LinkPolicies) : Json :=
  .obj [("on_broken_links", .str s.onBrokenLinks.name),
    ("on_broken_markdown_links", .str s.onBrokenMarkdownLinks.name)]

def DocsSection.toJson (s : DocsSection) : Json :=
  .obj [("path", .str s.path), ("route_base_path", .str s.routeBasePath),
    ("sidebar", .str s.sidebar), ("edit_url", ofOption s.editUrl)]

def Theme.toJson (s : Theme) : Json :=
  .obj [("custom_css", ofOption s.customCss), ("static_dirs", strings s.staticDirs),
    ("pages", .str s.pages)]

def Logo.toJson (s : Logo) : Json :=
  .obj [("alt", .str s.alt), ("src", .str s.src), ("src_dark", ofOption s.srcDark)]

def Side.name : Side → String
  | .left => "left"
  | .right => "right"

/-- The kind of a target, with the key and the text that name it. -/
def NavTarget.toFields : NavTarget → List (String × Json)
  | .doc id => [("type", .str "doc"), ("doc_id", .str id)]
  | .sidebar id => [("type", .str "doc_sidebar"), ("sidebar_id", .str id)]
  | .link href => [("type", .str "link"), ("href", .str href)]

def NavItem.toJson (s : NavItem) : Json :=
  .obj (s.target.toFields ++ [("label", .str s.label), ("position", .str s.position.name)])

def Navbar.toJson (s : Navbar) : Json :=
  .obj [("title", ofOption s.title), ("logo", (s.logo.map Logo.toJson).getD .null),
    ("items", .arr (s.items.map NavItem.toJson))]

def Footer.toJson (s : Footer) : Json := .obj [("copyright", .str s.copyright)]

def Prism.toJson (s : Prism) : Json :=
  .obj [("theme", .str s.theme), ("dark_theme", .str s.darkTheme),
    ("additional_languages", strings s.additionalLanguages.keys)]

def Settings.toJson (s : Settings) : Json :=
  .obj [("site", s.site.toJson), ("i18n", s.i18n.toJson), ("links", s.links.toJson),
    ("docs", s.docs.toJson), ("theme", s.theme.toJson), ("navbar", s.navbar.toJson),
    ("footer", s.footer.toJson), ("prism", s.prism.toJson)]

end DocAtlas
