-- SUMMARY: A command: what the program is asked to do.

/-! # Commands -/

namespace DocAtlas

/-- When output is coloured. -/
inductive ColourChoice where
  | auto
  | always
  | never
  deriving DecidableEq

namespace Command

/-- How links are checked. -/
structure CheckOptions where
  /-- Broken links never make the command fail. -/
  warnOnly : Bool := false
  verbose : Bool := false

inductive Task where
  | init (name : Option String) (dry : Bool)
  | check (options : CheckOptions)
  | build (options : CheckOptions) (output : Option String)
  /-- Prints the settings. -/
  | print

/-- Whether details are asked for. -/
def Task.verbose : Task → Bool
  | check options | build options _ => options.verbose
  | init _ _ | print => false

end Command

structure Command where
  colour : ColourChoice
  /-- The name of the settings file. -/
  config : String
  task : Command.Task

end DocAtlas
