-- SUMMARY: Findings about settings: the field, what is wrong with it, and how it is mended.
import DocAtlas.Text.Paint

/-! # Findings

A finding is addressed to a field of the settings by its dotted path. All
findings of a run are shown together. -/

namespace DocAtlas

open Text (Paint)

/-- The dotted path of a setting, such as `navbar.items[2].label`. -/
structure FieldPath where
  text : String
  deriving DecidableEq

namespace FieldPath

def join (f : FieldPath) (key : String) : FieldPath := ⟨f.text ++ "." ++ key⟩

def index (f : FieldPath) (i : Nat) : FieldPath := ⟨f.text ++ "[" ++ toString i ++ "]"⟩

/-- The path as a message shows it. -/
def shown (f : FieldPath) : String := Paint.brightBlue.apply ("`" ++ f.text ++ "`")

end FieldPath

structure Finding where
  field : FieldPath
  message : String
  hint : Option String := none
  deriving DecidableEq

namespace Finding

def render (f : Finding) : String :=
  Paint.dimmed.apply "[" ++ Paint.cyan.apply f.field.text ++ Paint.dimmed.apply "]" ++ "\n"
    ++ Paint.red.apply "→" ++ " " ++ f.message
    ++ match f.hint with
      | some hint => "\n  " ++ Paint.yellow.apply "hint:" ++ " " ++ hint
      | none => ""

/-- All findings under one heading, with their number when there are several. -/
def renderAll (findings : List Finding) : String :=
  Paint.bold.apply (Paint.red.apply "config validation failed:") ++ "\n\n"
    ++ "\n\n".intercalate (findings.map render)
    ++ if 1 < findings.length then
        "\n\n" ++ Paint.dimmed.apply "found" ++ " "
          ++ Paint.bold.apply (Paint.red.apply (toString findings.length)) ++ " "
          ++ Paint.dimmed.apply "errors"
      else ""

end Finding

end DocAtlas
