-- SUMMARY: JSON values as the manifest holds them, with ordered fields.

/-! # JSON values

A manifest has no numbers, so neither has this type. The fields of an object
keep their order. -/

namespace DocAtlas

inductive Json where
  | null
  | bool (b : Bool)
  | str (s : String)
  | arr (items : List Json)
  | obj (fields : List (String × Json))
  deriving Inhabited

namespace Json

/-- A string, or `null` where there is none. -/
def ofOption : Option String → Json
  | none => .null
  | some s => .str s

/-- A Boolean, or `null` where there is none. -/
def ofOptionBool : Option Bool → Json
  | none => .null
  | some b => .bool b

def strings (items : List String) : Json := .arr (items.map .str)

end Json

end DocAtlas
