-- SUMMARY: Settings from the text of a settings file: read, decoded and checked in one go.
import DocAtlas.Settings.Decode
import DocAtlas.Settings.Rules
import DocAtlas.Toml.Shape

/-! # Resolution

The text is read as TOML, the value decoded, and then every unknown key and
every broken rule is reported at once. Settings that come out of this obey all
the rules. -/

namespace DocAtlas

namespace Settings

/-- Why a text gives no settings. -/
inductive Failure where
  | toml (e : Toml.Error)
  | rejected (findings : List Finding)

def unknownFinding (path : String) : Finding where
  field := ⟨path⟩
  message := "unknown field"
  hint := some "remove it or fix its spelling"

/-- The settings of a TOML value, where it has no unknown keys and breaks no rule. -/
def ofValue (v : Toml.Value) : Except Toml.Mismatch (Except (List Finding) Settings) := do
  let (settings, unknown) ← decode v
  match unknown.map unknownFinding ++ settings.findings with
  | [] => return .ok settings
  | findings => return .error findings

/-- The settings that the text of a settings file describes. -/
def resolve (source : String) : Except Failure Settings :=
  match Toml.decode ofValue source with
  | .error e => .error (.toml e)
  | .ok (.error findings) => .error (.rejected findings)
  | .ok (.ok settings) => .ok settings

end Settings

end DocAtlas
