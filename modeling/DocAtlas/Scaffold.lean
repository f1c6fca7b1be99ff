-- SUMMARY: A new site: its directories, its starter files and its settings file.
import DocAtlas.Failure
import DocAtlas.Site.Basic

/-! # Scaffolding

Files that exist are left alone, and a directory that has a settings file is not
touched at all. The settings file is written after the starter files, so that a
site whose making failed can be made again. -/

namespace DocAtlas.Scaffold

/-! ## Texts -/

/-- The sections of a settings file to start with, line by line. -/
def sectionLines : List String :=
  ["[site]",
   "title = \"My Site\"",
   "tagline = \"Documentation for my project\"",
   "url = \"https://example.com\"",
   "base_url = \"/\"",
   "# favicon = \"img/favicon.ico\"",
   "# organization = \"my-org\"",
   "# project = \"my-project\"",
   "# trailing_slash = false",
   "",
   "[i18n]",
   "default_locale = \"en\"",
   "locales = [\"en\"]",
   "",
   "[links]",
   "# throw | warn | ignore",
   "on_broken_links = \"throw\"",
   "on_broken_markdown_links = \"warn\"",
   "",
   "[docs]",
   "path = \"docs\"",
   "route_base_path = \"docs\"",
   "sidebar = \"sidebars.toml\"",
   "# edit_url = \"https://github.com/my-org/my-project/tree/main/\"",
   "",
   "[theme]",
   "# custom_css = \"src/css/custom.css\"",
   "static_dirs = [\"static\"]",
   "pages = \"src/pages\"",
   "",
   "[navbar]",
   "title = \"My Site\"",
   "",
   "[[navbar.items]]",
   "type = \"doc_sidebar\"",
   "sidebar_id = \"docs\"",
   "label = \"Docs\"",
   "",
   "[[navbar.items]]",
   "type = \"link\"",
   "href = \"https://github.com\"",
   "label = \"GitHub\"",
   "position = \"right\"",
   "",
   "[footer]",
   "copyright = \"\"",
   "",
   "[prism]",
   "theme = \"github\"",
   "dark_theme = \"dracula\"",
   "additional_languages = []"]

/-- The settings file of a new site. -/
def settingsText : String :=
  "# docsite configuration file (v0.1.0)\n\n" ++ String.join (sectionLines.map (· ++ "\n"))

def directories : List String := ["docs", "static/img", "src/pages"]

def introduction : String :=
  "---\ntitle: Introduction\n---\n\n# Introduction\n\n"
    ++ "Start writing in `docs/`. See [getting started](./getting-started.md).\n"

/-- The starter files by their paths. -/
def starterFiles : List (String × String) :=
  [("docs/index.md", introduction),
   ("docs/getting-started.md",
     "# Getting started\n\nBack to the [introduction](./index.md).\n"),
   ("sidebars.toml", "[sidebars]\ndocs = [\"index\", \"getting-started\"]\n")]

def ignoreText : String := "/build/\n.DS_Store\n"

/-! ## Steps -/

/-- A step in the making of a site. -/
inductive Step where
  | directory (path : String)
  /-- A file that is written unless there is one. -/
  | file (path text : String)
  /-- The settings file. -/
  | settings (path text : String)

def Step.path : Step → String
  | directory path | file path _ | settings path _ => path

def Step.run (disk : Disk) : Step → Disk × Except Failure Unit
  | directory path =>
    let (disk, result) := disk.makeDirectories path
    (disk, result.mapError (.directoryUnmade path))
  | file path text =>
    if disk.holds path then (disk, .ok ())
    else match disk.write path text with
      | .ok disk => (disk, .ok ())
      | .error fault => (disk, .error (.unwritten path fault))
  | settings path text =>
    match disk.write path text with
    | .ok disk => (disk, .ok ())
    | .error fault => (disk, .error (.settingsUnwritten path fault))

/-- Runs steps up to the first that fails. -/
def runAll (disk : Disk) : List Step → Disk × Except Failure Unit
  | [] => (disk, .ok ())
  | s :: rest =>
    match s.run disk with
    | (disk, .ok ()) => runAll disk rest
    | (disk, .error e) => (disk, .error e)

/-- The steps that make a site in the directory `root`. -/
def steps (root : String) : List Step :=
  directories.map (fun dir => .directory (Path.join root dir))
    ++ starterFiles.map (fun (path, text) => .file (Path.join root path) text)
    ++ [.settings (Path.join root Site.defaultFile) settingsText,
        .file (Path.join root ".gitignore") ignoreText]

/-- Makes a new site in the directory `root`; a dry run prints the settings file and no more. -/
def create (disk : Disk) (root : String) (dry : Bool) : Disk × Told Unit :=
  let file := Path.join root Site.defaultFile
  if dry then (disk, Told.tell (.output settingsText))
  else if disk.holds file then (disk, .fail (.settingsExist file))
  else match runAll disk (steps root) with
    | (disk, .error e) => (disk, .fail e)
    | (disk, .ok ()) => (disk, Told.tell (.log "init" ("site initialized at " ++ root)))

end DocAtlas.Scaffold
