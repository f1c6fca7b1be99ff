-- SUMMARY: Texts that should be TOML of a given shape, and what is wrong with those that are not.
import DocAtlas.Toml.Decode
import DocAtlas.Toml.Document
import DocAtlas.Toml.Excerpt

/-! # TOML texts of a given shape

A text is read, and its value decoded. Either step can fail; the error knows the
part of the text at fault and shows it in an excerpt. -/

namespace DocAtlas.Toml

/-- Why a text is no TOML of the wanted shape. -/
inductive Error where
  | syntactic (fault : Fault)
  | shape (tree : Tree) (mismatch : Mismatch)

namespace Error

/-- The message without the place. -/
def message : Error → String
  | .syntactic fault => fault.message
  | .shape _ mismatch => mismatch.cause.message

/-- The range at fault in the given text. -/
def span (source : String) : Error → Span
  | .syntactic fault => fault.span source.toList
  | .shape tree m =>
    let whole := (tree.spanAt none m.path).getD ⟨0, 0⟩
    match m.key with
    | some name => (tree.keySpanAt name m.path).getD whole
    | none => whole

/-- The message with an excerpt of the text. -/
def render (source : String) (e : Error) : String :=
  Excerpt.render source (e.span source) e.message

end Error

/-- Reads a text and decodes its value. -/
def decode {α : Type} (decoder : Decoder α) (source : String) : Except Error α :=
  match read source with
  | .error fault => .error (.syntactic fault)
  | .ok tree => (decoder tree.value).mapError (.shape tree)

end DocAtlas.Toml
