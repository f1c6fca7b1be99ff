-- SUMMARY: The words of the command line: commands, their options, and how their use is shown.

/-! # Usage

The command line has two levels: the program with its own options, and a command
with options of its own. The colour option may stand on both. -/

namespace DocAtlas.Command

/-! ## Arguments -/

/-- What an argument sets. -/
inductive ArgId where
  | color
  | config
  | warnOnly
  | verbose
  | output
  | dry
  /-- The directory of a new site. -/
  | name
  /-- The command to explain. -/
  | topic
  | help
  | version
  deriving DecidableEq

/-- An argument: an option with a long name and perhaps a short one, or a value by its place. -/
structure Arg where
  id : ArgId
  /-- The long name; none for a value by its place. -/
  long : Option String
  short : Option Char := none
  /-- The word for its value; none for a flag. -/
  value : Option String := none
  about : String
  initial : Option String := none
  /-- The values that it takes, where they are limited. -/
  choices : List String := []
  /-- Whether it may be repeated. -/
  many : Bool := false

namespace Arg

/-- The argument as usage shows it. -/
def shown (a : Arg) (required : Bool) : String :=
  match a.long, a.value with
  | some long, some value => "--" ++ long ++ " <" ++ value ++ ">"
  | some long, none => "--" ++ long
  | none, some value =>
    (if required then "<" ++ value ++ ">" else "[" ++ value ++ "]")
      ++ (if a.many then "..." else "")
  | none, none => ""

/-- The argument as complaints name it. -/
def title (a : Arg) : String := a.shown false

def color : Arg :=
  { id := .color, long := some "color", value := some "COLOR",
    about := "Control colored output (auto, always, never)", initial := some "auto",
    choices := ["auto", "always", "never"] }

def config : Arg :=
  { id := .config, long := some "config", short := some 'C', value := some "CONFIG",
    about := "Config file path, searched upward from the current directory",
    initial := some "site.toml" }

def warnOnly : Arg :=
  { id := .warnOnly, long := some "warn-only", short := some 'w',
    about := "Treat broken links as warnings even where the policy is `throw`" }

def verbose : Arg :=
  { id := .verbose, long := some "verbose", short := some 'V',
    about := "Enable verbose output for debugging" }

def output : Arg :=
  { id := .output, long := some "output", short := some 'o', value := some "OUTPUT",
    about := "Output directory (default: `build` under the site root)" }

def dry : Arg :=
  { id := .dry, long := some "dry",
    about := "Print the config template instead of writing files" }

def name : Arg :=
  { id := .name, long := none, value := some "NAME",
    about := "Site directory name/path (relative to current directory)" }

def topic : Arg :=
  { id := .topic, long := none, value := some "COMMAND", many := true,
    about := "Print help for the subcommand(s)" }

def help : Arg :=
  { id := .help, long := some "help", short := some 'h', about := "Print help" }

def version : Arg :=
  { id := .version, long := some "version", short := some 'V', about := "Print version" }

end Arg

/-! ## Commands -/

inductive Verb where
  | init
  | check
  | build
  /-- Prints the settings. -/
  | print
  /-- Explains the program or a command. -/
  | help
  deriving DecidableEq

namespace Verb

def name : Verb → String
  | init => "init"
  | check => "check"
  | build => "build"
  | print => "show"
  | help => "help"

def alias? : Verb → Option String
  | init => some "i"
  | check => some "c"
  | build => some "b"
  | print | help => none

def about : Verb → String
  | init => "Initialize a new site from template"
  | check => "Check navbar, sidebar and document links"
  | build => "Check links, then write the resolved configuration for the build tool"
  | print => "Print the resolved configuration as JSON"
  | help => "Print this message or the help of the given subcommand(s)"

def all : List Verb := [init, check, build, print, help]

/-- All names of commands. -/
def names : List String := all.flatMap fun v => v.name :: v.alias?.toList

def ofName? (word : String) : Option Verb :=
  all.find? fun v => v.name = word || v.alias? = some word

end Verb

/-! ## Levels -/

/-- A level of the command line: the program, or one of its commands. -/
structure Level where
  /-- The words that lead here. -/
  words : String
  about : String
  options : List Arg
  /-- The value that is taken by its place. -/
  operand : Option Arg := none
  /-- The commands of which one follows. -/
  verbs : List Verb := []

namespace Level

/-- The name of the program. -/
def programName : String := "docsite"

def program : Level :=
  { words := programName
    about := "resolve, validate and emit the site configuration of a documentation website"
    options := [.color, .config, .help, .version]
    verbs := Verb.all }

def optionsOf : Verb → List Arg
  | .init => [.color, .dry, .help]
  | .check => [.color, .warnOnly, .verbose, .help]
  | .build => [.color, .warnOnly, .verbose, .output, .help]
  | .print => [.color, .help]
  | .help => []

def operandOf : Verb → Option Arg
  | .init => some .name
  | .help => some .topic
  | _ => none

def ofVerb (v : Verb) : Level :=
  { words := programName ++ " " ++ v.name
    about := v.about
    options := optionsOf v
    operand := operandOf v }

/-- The long names of the options. -/
def longNames (l : Level) : List String := l.options.filterMap (·.long)

def long? (l : Level) (name : String) : Option Arg := l.options.find? (·.long = some name)

def short? (l : Level) (c : Char) : Option Arg := l.options.find? (·.short = some c)

/-- The command with the given name, where commands follow. -/
def verb? (l : Level) (word : String) : Option Verb :=
  if l.verbs.isEmpty then none else Verb.ofName? word

def commandPart (l : Level) : String := if l.verbs.isEmpty then "" else " <COMMAND>"

/-- How a level is used in general. -/
def usage (l : Level) : String :=
  let options := if l.options.isEmpty then "" else " [OPTIONS]"
  let operand := match l.operand with
    | some a => " " ++ a.title
    | none => ""
  "Usage: " ++ l.words ++ options ++ operand ++ l.commandPart

/-- How a level is used with the given arguments. -/
def usageWith (l : Level) (used : List Arg) : String :=
  if used.isEmpty then l.usage
  else
    let options := (used.filter (·.long.isSome)).map (·.shown true)
    let operand := match l.operand with
      | some a => [a.shown (used.any (·.id = a.id))]
      | none => []
    "Usage: " ++ " ".intercalate (l.words :: options.eraseDups ++ operand) ++ l.commandPart

/-! ## Help pages -/

/-- A titled table of two columns. -/
def table (title : String) (rows : List (String × String)) : String :=
  if rows.isEmpty then ""
  else
    let width := (rows.map (·.1.length)).foldl max 0
    let lines := rows.map fun (left, right) =>
      "  " ++ left.pushn ' ' (width - left.length) ++ "  " ++ right ++ "\n"
    "\n" ++ title ++ ":\n" ++ String.join lines

def verbRow (v : Verb) : String × String :=
  let names := match v.alias? with
    | some a => " [alias: " ++ a ++ "]"
    | none => ""
  (v.name, v.about ++ names)

def optionRow (a : Arg) : String × String :=
  let short := match a.short with
    | some c => String.ofList ['-', c] ++ ", "
    | none => "    "
  let initial := match a.initial with
    | some text => " [default: " ++ text ++ "]"
    | none => ""
  let choices :=
    if a.choices.isEmpty then ""
    else " [possible values: " ++ ", ".intercalate a.choices ++ "]"
  (short ++ a.title, a.about ++ initial ++ choices)

/-- The page that explains a level. -/
def page (l : Level) : String :=
  l.about ++ "\n\n" ++ l.usage ++ "\n"
    ++ table "Commands" (l.verbs.map verbRow)
    ++ table "Arguments" (l.operand.toList.map fun a => (a.title, a.about))
    ++ table "Options" (l.options.map optionRow)

end Level

end DocAtlas.Command
