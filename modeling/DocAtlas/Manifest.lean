-- SUMMARY: The manifest of a site: all that the build tool needs, as JSON.
import DocAtlas.Catalog.Basic
import DocAtlas.Json.Printer
import DocAtlas.Settings.Canonical
import DocAtlas.Site.Basic

/-! # Manifests

The settings, the documents in the order of their ids, and the sidebars. -/

namespace DocAtlas

structure Manifest where
  settings : Settings
  docs : List Document
  sidebars : Sidebars

namespace Manifest

def ofCatalog (site : Site) (c : Catalog) : Manifest := ⟨site.settings, c.docs, c.sidebars⟩

def toJson (m : Manifest) : Json :=
  .obj [("config", m.settings.toJson), ("docs", .arr (m.docs.map Document.toJson)),
    ("sidebars", m.sidebars.toJson)]

/-- The text of the manifest file. -/
def text (m : Manifest) : String := m.toJson.pretty

end Manifest

end DocAtlas
