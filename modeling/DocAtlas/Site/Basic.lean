-- SUMMARY: A site: its settings and the directory that they apply to.
import DocAtlas.Path
import DocAtlas.Settings.Basic

/-! # Sites

A site has its root in the directory of its settings file. Paths in the
settings are taken from there. -/

namespace DocAtlas

structure Site where
  settings : Settings
  /-- The root directory. -/
  root : String := ""
  /-- The settings file. -/
  file : String := ""

namespace Site

/-- The name of the settings file where none is given. -/
def defaultFile : String := "site.toml"

/-- A path of the settings, from the root. -/
def join (s : Site) (path : String) : String := Path.join s.root path

/-- A path as seen from the root. -/
def relative (s : Site) (path : String) : String := Path.relativeTo s.root path

/-- The name of the settings file. -/
def fileName (s : Site) : String :=
  match Path.fileName? s.file with
  | some name => String.ofList name
  | none => defaultFile

end Site

end DocAtlas
