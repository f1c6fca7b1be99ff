-- SUMMARY: What a command line is answered with where it asks for no work: complaints and help.
import DocAtlas.Command.Usage

/-! # Complaints

A command line that cannot be carried out is answered with a complaint; one that
asks for help or for the version is answered with a page. -/

namespace DocAtlas.Command

inductive Complaint where
  /-- The page of a level is asked for. -/
  | help (level : Level)
  /-- The command line is empty. -/
  | nothingAsked
  | version
  /-- An option has a value that it does not take; an empty value counts as a missing one. -/
  | invalidValue (arg : Arg) (value : String) (choices : List String) (similar : Option String)
  /-- An option stands twice. -/
  | repeated (arg : Arg) (usage : String)
  /-- A flag has a value. -/
  | unneededValue (arg : Arg) (value usage : String)
  | unknownArgument (word : String) (similar : Option String) (tips : List String)
      (usage : String)
  | unknownCommand (word : String) (similar : List String) (usage : String)
  | missingCommand

namespace Complaint

/-- The version of the program. -/
def versionLine : String := Level.programName ++ " 0.1.0\n"

/-- Values in brackets on a line of their own. -/
def listed (title : String) (values : List String) : String :=
  if values.isEmpty then "" else "\n  [" ++ title ++ ": " ++ ", ".intercalate values ++ "]"

def quotedWord (word : String) : String := "'" ++ word ++ "'"

/-- The tip that names similar words. -/
def similarTip (kind : String) : List String → Option String
  | [] => none
  | [w] => some ("a similar " ++ kind ++ " exists: " ++ quotedWord w)
  | ws => some ("some similar " ++ kind ++ "s exist: " ++ ", ".intercalate (ws.map quotedWord))

/-- Tips, set off by an empty line. -/
def tipLines (tips : List String) : String :=
  if tips.isEmpty then "" else "\n" ++ String.join (tips.map ("\n  tip: " ++ ·))

/-- The text of a complaint: what is wrong, tips, and the usage line. -/
def layout (reason : String) (tips : List String) (usage : Option String) : String :=
  let usage := match usage with
    | some line => "\n\n" ++ line
    | none => ""
  "error: " ++ reason ++ tipLines tips ++ usage
    ++ "\n\nFor more information, try '--help'.\n"

def text : Complaint → String
  | help level => level.page
  | nothingAsked => Level.program.page
  | version => versionLine
  | invalidValue arg value choices similar =>
    let reason :=
      if value = "" then
        "a value is required for " ++ quotedWord arg.title ++ " but none was supplied"
      else "invalid value " ++ quotedWord value ++ " for " ++ quotedWord arg.title
    layout (reason ++ listed "possible values" choices)
      (similarTip "value" similar.toList).toList none
  | repeated arg usage =>
    layout ("the argument " ++ quotedWord arg.title ++ " cannot be used multiple times") []
      (some usage)
  | unneededValue arg value usage =>
    layout ("unexpected value " ++ quotedWord value ++ " for " ++ quotedWord arg.title
      ++ " found; no more were expected") [] (some usage)
  | unknownArgument word similar tips usage =>
    layout ("unexpected argument " ++ quotedWord word ++ " found")
      ((similarTip "argument" similar.toList).toList ++ tips) (some usage)
  | unknownCommand word similar usage =>
    layout ("unrecognized subcommand " ++ quotedWord word)
      (similarTip "subcommand" similar).toList (some usage)
  | missingCommand =>
    layout (quotedWord Level.programName ++ " requires a subcommand but one was not provided"
      ++ listed "subcommands" Verb.names) [] (some Level.program.usage)

/-- Whether the answer is what was asked for. -/
def isAnswer : Complaint → Bool
  | help _ | version => true
  | _ => false

def exitCode (c : Complaint) : UInt32 := if c.isAnswer then 0 else 2

end Complaint

end DocAtlas.Command
