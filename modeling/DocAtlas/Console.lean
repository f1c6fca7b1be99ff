-- SUMMARY: What the program tells: lines with a tag in front, and text printed as it is.
import DocAtlas.Text.Basic
import DocAtlas.Text.Paint

/-! # Console

A notice is something to print. Warnings, errors and hints go to the error
stream and all other lines to the output stream, so that printed output stays
clean. Details are shown on request only. -/

namespace DocAtlas

inductive Notice where
  /-- A line with a tag in front. -/
  | log (tag message : String)
  /-- A line that is shown on request only. -/
  | detail (tag message : String)
  /-- Text for the output stream. -/
  | output (text : String)
  /-- Text for the error stream. -/
  | error (text : String)
  deriving DecidableEq

/-- How notices are shown. -/
structure Console where
  details : Bool := false
  colour : Bool := false

/-- What is printed to the two streams. -/
structure Printed where
  output : String := ""
  error : String := ""

namespace Printed

def append (a b : Printed) : Printed := ⟨a.output ++ b.output, a.error ++ b.error⟩

instance : Append Printed := ⟨append⟩

end Printed

namespace Notice

def warning (message : String) : Notice := .log "warning" message

/-- The tag in any case, as colours and streams are chosen by it. -/
def lowered (tag : String) : String := String.ofList (Text.lower tag.toList)

def goesToError (tag : String) : Bool :=
  let tag := lowered tag
  tag = "error" || tag = "warning" || tag = "hint"

def colourOf (tag : String) : String :=
  match lowered tag with
  | "check" => "94"
  | "build" => "92"
  | "error" => "91"
  | "hint" => "96"
  | _ => "93"

/-- The tag in brackets. -/
def shownTag (colour : Bool) (tag : String) : String :=
  let text := "[" ++ tag ++ "]"
  if colour then
    Text.Paint.escape (colourOf tag ++ ";1") ++ text ++ Text.Paint.escape "0"
  else text

/-- The line that a tagged message makes. -/
def line (colour : Bool) (tag message : String) : Printed :=
  let text := shownTag colour tag ++ " " ++ message ++ "\n"
  if goesToError tag then { error := text } else { output := text }

def print (c : Console) : Notice → Printed
  | log tag message => line c.colour tag message
  | detail tag message => if c.details then line c.colour tag message else {}
  | output text => { output := text }
  | error text => { error := text }

end Notice

namespace Console

/-- What a list of notices prints. -/
def print (c : Console) (notices : List Notice) : Printed :=
  notices.foldl (fun acc n => acc ++ n.print c) {}

end Console

end DocAtlas
