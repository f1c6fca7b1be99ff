-- SUMMARY: Finding the settings file of a site and reading it.
import DocAtlas.Failure
import DocAtlas.Site.Basic

/-! # Loading a site

The settings file is looked for in the working directory and then in the
directories around it; the nearest one is taken. -/

namespace DocAtlas.Site

/-- The nearest file with the given name, from the directory `start` outwards. -/
def searchUp (disk : Disk) (start name : String) : Option String :=
  if disk.isFile (Path.join start name) then some (Path.join start name)
  else match _hdir : Path.parent? start with
    | none => none
    | some dir => searchUp disk dir name
termination_by start.length
decreasing_by exact Path.length_parent?_lt _hdir

/-- The settings file with the given name. An absolute name is taken as it is. -/
def locate? (disk : Disk) (cwd : Place) (name : String) : Option String :=
  if Path.isAbsolute name then (if disk.holds name then some name else none)
  else searchUp disk cwd.path name

/-- The site whose settings file has the given path. -/
def read (disk : Disk) (path : String) : Told Site :=
  match disk.readText path with
  | .error fault => .fail (.settingsUnread path fault)
  | .ok source =>
    match Settings.resolve source with
    | .error e => .fail (.settings source e)
    | .ok settings => do
      let file := disk.normalize "/" path
      Told.tell (.detail "config" ("resolved " ++ file))
      return { settings, root := (Path.parent? file).getD "", file }

/-- The site to which the working directory belongs. -/
def load (disk : Disk) (cwd : Place) (name : String) : Told Site :=
  match locate? disk cwd name with
  | some path => read disk path
  | none => .fail (.noSettings name)

end DocAtlas.Site
