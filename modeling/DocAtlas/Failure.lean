-- SUMMARY: Why a command fails, and the results of activities that tell what they do.
import DocAtlas.Audit.Policy
import DocAtlas.Catalog.Basic
import DocAtlas.Console
import DocAtlas.Disk
import DocAtlas.Settings.Resolve

/-! # Failures

Each failure has a message and, where something else is behind it, a cause. An
activity gives notices on its way, whether it fails or not. -/

namespace DocAtlas

inductive Failure where
  /-- The settings file cannot be read. -/
  | settingsUnread (path : String) (fault : Disk.Fault)
  /-- The text of the settings file gives no settings. -/
  | settings (source : String) (failure : Settings.Failure)
  /-- There is no settings file. -/
  | noSettings (name : String)
  | documentUnread (path : String) (fault : Disk.Fault)
  | sidebarsUnread (path : String) (fault : Disk.Fault)
  /-- The text of the sidebar file gives no sidebars. -/
  | sidebars (path source : String) (e : Toml.Error)
  | duplicate (d : Catalog.Duplicate)
  | broken (counts : BrokenCounts)
  /-- The output directory cannot be made. -/
  | outputUnmade (path : String) (fault : Disk.Fault)
  | directoryUnmade (path : String) (fault : Disk.Fault)
  | unwritten (path : String) (fault : Disk.Fault)
  | settingsUnwritten (path : String) (fault : Disk.Fault)
  /-- A new site would replace the settings of another. -/
  | settingsExist (path : String)

namespace Failure

def message : Failure → String
  | settingsUnread path _ => "IO error when reading `" ++ path ++ "`"
  | settings _ (.toml _) => "config file parsing error"
  | settings _ (.rejected findings) => Finding.renderAll findings
  | noSettings name =>
    "config file `" ++ name ++ "` not found, run `docsite init` to create one"
  | documentUnread path _ => "failed to read '" ++ path ++ "'"
  | sidebarsUnread path _ => "failed to read sidebar file '" ++ path ++ "'"
  | sidebars path _ _ => "invalid sidebar file '" ++ path ++ "'"
  | duplicate d => d.message
  | broken counts => counts.message
  | outputUnmade path _ => "failed to create output directory '" ++ path ++ "'"
  | directoryUnmade path _ => "failed to create directory '" ++ path ++ "'"
  | unwritten path _ => "failed to write '" ++ path ++ "'"
  | settingsUnwritten path _ => "failed to write config file '" ++ path ++ "'"
  | settingsExist path =>
    "'" ++ path ++ "' already exists.\nChoose a different directory or remove the existing config."

/-- What is behind a failure. -/
def cause? : Failure → Option String
  | settingsUnread _ fault | documentUnread _ fault | sidebarsUnread _ fault | outputUnmade _ fault
  | directoryUnmade _ fault | unwritten _ fault | settingsUnwritten _ fault => some fault.message
  | settings source (.toml e) | sidebars _ source e => some (e.render source)
  | settings _ (.rejected _) | noSettings _ | duplicate _ | broken _ | settingsExist _ => none

/-- A text with each line indented. -/
def indented (text : String) : String :=
  String.ofList
    (Text.joinWith '\n' ((Text.splitOn '\n' text.toList).map ("    ".toList ++ ·)))

/-- The failure as the program prints it. -/
def shown (f : Failure) : String :=
  let cause := match f.cause? with
    | some cause => "\n\nCaused by:\n" ++ indented cause
    | none => ""
  "Error: " ++ f.message ++ cause ++ "\n"

end Failure

/-- The result of an activity, and what it tells on its way. -/
structure Told (α : Type) where
  notices : List Notice := []
  result : Except Failure α

namespace Told

variable {α β : Type}

def fail (f : Failure) : Told α := { result := .error f }

/-- Tells a notice. -/
def tell (n : Notice) : Told Unit := { notices := [n], result := .ok () }

def ofExcept (e : Except Failure α) : Told α := { result := e }

def bind (x : Told α) (f : α → Told β) : Told β :=
  match x.result with
  | .error e => { notices := x.notices, result := .error e }
  | .ok a => { notices := x.notices ++ (f a).notices, result := (f a).result }

instance : Monad Told where
  pure a := { result := .ok a }
  bind := bind

end Told

end DocAtlas
