-- SUMMARY: Carrying out a command on a disk, and what the program prints.
import DocAtlas.Build
import DocAtlas.Command.Parse
import DocAtlas.Scaffold
import DocAtlas.Settings.Canonical
import DocAtlas.Site.Load

/-! # Running

The notices of a command are printed first; a failure follows them on the error
stream. -/

namespace DocAtlas.Command

/-- What is left after the program has run. -/
structure Outcome where
  disk : Disk
  printed : Printed
  exitCode : UInt32

/-- Forgets what an activity gives. -/
def forget {α : Type} (told : Told α) : Told Unit := do
  let _ ← told
  return ()

/-- Carries out the task of a site. -/
def Task.runIn (disk : Disk) (site : Site) : Task → Disk × Told Unit
  | init _ _ => (disk, pure ())
  | check options => (disk, forget (site.check disk options.warnOnly))
  | build options output =>
    let (disk, told) := site.build disk options.warnOnly output
    (disk, forget told)
  | print => (disk, Told.tell (.output (site.settings.toJson.pretty ++ "\n")))

/-- The directory of a new site. -/
def initRoot (cwd : Place) : Option String → String
  | some name => Path.join cwd.path name
  | none => cwd.path

/-- Carries out a command in the working directory. -/
def perform (c : Command) (disk : Disk) (cwd : Place) : Disk × Told Unit :=
  match c.task with
  | .init name dry => Scaffold.create disk (initRoot cwd name) dry
  | task =>
    let loaded := Site.load disk cwd c.config
    match loaded.result with
    | .error e => (disk, { notices := loaded.notices, result := .error e })
    | .ok site =>
      let (disk, told) := task.runIn disk site
      (disk, { notices := loaded.notices ++ told.notices, result := told.result })

/-- How the notices of a command are shown; `terminal` says whether someone reads along. -/
def console (c : Command) (terminal : Bool) : Console :=
  { details := c.task.verbose, colour := c.colour = .always || (c.colour = .auto && terminal) }

/-- Carries out a command and prints what it tells. -/
def run (c : Command) (disk : Disk) (cwd : Place) (terminal : Bool) : Outcome :=
  let (disk, told) := c.perform disk cwd
  let printed := (c.console terminal).print told.notices
  match told.result with
  | .ok () => { disk, printed, exitCode := 0 }
  | .error e => { disk, printed := printed ++ { error := e.shown }, exitCode := 1 }

/-- Answers a command line. -/
def answer (disk : Disk) (cwd : Place) (words : List String) (terminal : Bool) : Outcome :=
  match parse words with
  | .ok c => c.run disk cwd terminal
  | .error complaint =>
    let printed : Printed :=
      if complaint.isAnswer then { output := complaint.text } else { error := complaint.text }
    { disk, printed, exitCode := complaint.exitCode }

end DocAtlas.Command
