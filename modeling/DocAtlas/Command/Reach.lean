-- SUMMARY: The paths that a command looks at.
import DocAtlas.Command.Run

/-! # Reach

A command looks at few of the paths of a disk. Which ones can depend on what the
first of them hold: the settings name the directories of a site, and the
documents in these name files. So a view of a disk that holds what the command
reaches in it can be taken in a few rounds. -/

namespace DocAtlas.Command

/-- What a command looks at. -/
inductive Reach where
  | path (path : String)
  /-- A path and all that is below it. -/
  | tree (path : String)

/-- The rounds after which a command reaches nothing new: settings, site, linked files. -/
def rounds : Nat := 3

/-- The files that may be the settings file. -/
def settingsReach (cwd : Place) (name : String) : List Reach :=
  if Path.isAbsolute name then [.path name]
  else cwd.ancestors.map fun dir => .path (Path.join dir.path name)

/-- The files that the links of a catalogue name. -/
def linkReach (catalog : Catalog) : List Reach :=
  catalog.docs.flatMap fun doc => doc.links.filterMap fun link =>
    (Surroundings.fileFrom doc (Text.Percent.decode (Link.path link.dest))).map .path

/-- What a site is made of, and where it is written to. -/
def siteReach (disk : Disk) (site : Site) (output : String) : List Reach :=
  let links := match (Catalog.load disk site).result with
    | .ok catalog => linkReach catalog
    | .error _ => []
  [.tree (site.join site.settings.docs.path), .path (site.join site.settings.docs.sidebar),
    .tree (site.join site.settings.theme.pages)]
    ++ (site.settings.theme.staticDirs.map fun dir => .tree (site.join dir))
    ++ [.path (Path.join (site.join output) Site.manifestFile)]
    ++ links

/-- What a command looks at, as far as the disk shows it. -/
def reach (c : Command) (disk : Disk) (cwd : Place) : List Reach :=
  match c.task with
  | .init name _ => (Scaffold.steps (initRoot cwd name)).map fun step => .path step.path
  | task =>
    let output := match task with
      | .build _ (some dir) => dir
      | _ => Site.defaultOutput
    settingsReach cwd c.config ++
      match (Site.load disk cwd c.config).result with
      | .ok site => siteReach disk site output
      | .error _ => []

end DocAtlas.Command
