-- SUMMARY: Decoding of TOML values into typed records, with causes that say how a value differs from its shape.
import DocAtlas.Text.Quoted
import DocAtlas.Toml.Value

/-! # Decoding

A decoder takes a value to a typed result or says how the value differs from
the shape it should have, and where. A record is given by its fields in order:
a table fills them by key, an array by position. -/

namespace DocAtlas.Toml

/-! ## Mismatches -/

/-- How a value differs from the shape it should have. -/
inductive Cause where
  | invalidType (found : Value) (wanted : String)
  | invalidValue (found : Value) (wanted : String)
  | invalidLength (length : Nat) (wanted : String)
  | missingField (name : String)
  | unknownField (name : String) (known : List String)
  | unknownVariant (name : String) (known : List String)
  /-- Neither the name of a variant nor a table with one. -/
  | noVariantName
  /-- A table that should name one variant has no key. -/
  | noElement
  /-- A table that should name one variant has more than one key. -/
  | manyElements
  | nonemptyTable
  | nonemptyArray
  | notTable (found : Value)
  /-- None of the alternatives of the type fits. -/
  | noAlternative (type : String)

namespace Cause

/-- The kind of a value, with the value itself where it is short. -/
def describe : Value → String
  | .scalar (.string s) => "string " ++ Text.quoted s
  | .scalar (.integer n) => "integer `" ++ toString n ++ "`"
  | .scalar (.float x) => "floating point `" ++ x.text ++ "`"
  | .scalar (.boolean b) => "boolean `" ++ (if b then "true" else "false") ++ "`"
  | .scalar (.datetime _) | .table _ => "map"
  | .array _ => "sequence"

def typeName : Value → String
  | .scalar (.string _) => "string"
  | .scalar (.integer _) => "integer"
  | .scalar (.float _) => "float"
  | .scalar (.boolean _) => "boolean"
  | .scalar (.datetime _) => "datetime"
  | .array _ => "array"
  | .table _ => "table"

def oneOf (names : List String) : String :=
  match names with
  | [a] => "`" ++ a ++ "`"
  | [a, b] => "`" ++ a ++ "` or `" ++ b ++ "`"
  | _ => "one of " ++ ", ".intercalate (names.map fun n => "`" ++ n ++ "`")

def message : Cause → String
  | .invalidType found wanted => "invalid type: " ++ describe found ++ ", expected " ++ wanted
  | .invalidValue found wanted => "invalid value: " ++ describe found ++ ", expected " ++ wanted
  | .invalidLength n wanted => "invalid length " ++ toString n ++ ", expected " ++ wanted
  | .missingField name => "missing field `" ++ name ++ "`"
  | .unknownField name known => "unknown field `" ++ name ++ "`, expected " ++ oneOf known
  | .unknownVariant name known => "unknown variant `" ++ name ++ "`, expected " ++ oneOf known
  | .noVariantName => "wanted string or table"
  | .noElement => "wanted exactly 1 element, found 0 elements"
  | .manyElements => "wanted exactly 1 element, more than 1 element"
  | .nonemptyTable => "expected empty table"
  | .nonemptyArray => "expected empty array"
  | .notTable found => "expected table, found " ++ typeName found
  | .noAlternative type => "data did not match any variant of untagged enum " ++ type

end Cause

/-- A cause with its place: the value that `path` leads to, or one of the keys of that value. -/
structure Mismatch where
  cause : Cause
  path : List Step := []
  key : Option String := none

namespace Mismatch

/-- The mismatch as seen from the value around it. -/
def within (step : Step) (m : Mismatch) : Mismatch := { m with path := step :: m.path }

/-- The mismatch placed at the whole value that was being decoded. -/
def atWhole (m : Mismatch) : Mismatch := { cause := m.cause }

end Mismatch

abbrev Decoder (α : Type) := Value → Except Mismatch α

namespace Decoder

variable {α σ : Type}

def refuse (cause : Cause) : Except Mismatch α := .error { cause }

/-! ## Simple values -/

def text : Decoder String
  | .scalar (.string s) => .ok s
  | v => refuse (.invalidType v "a string")

def filePath : Decoder String
  | .scalar (.string s) => .ok s
  | v => refuse (.invalidType v "path string")

def flag : Decoder Bool
  | .scalar (.boolean b) => .ok b
  | v => refuse (.invalidType v "a boolean")

/-- The items of an array, each decoded by `item`; `index` is that of the first. -/
def itemsFrom (item : Decoder α) : (index : Nat) → List Value → Except Mismatch (List α)
  | _, [] => .ok []
  | index, v :: rest => do
    let a ← (item v).mapError (·.within (.item index))
    return a :: (← itemsFrom item (index + 1) rest)

def list (item : Decoder α) : Decoder (List α)
  | .array items => itemsFrom item 0 items
  | v => refuse (.invalidType v "a sequence")

/-! ## Tables -/

/-- The key under which a date or time stands when it is taken for a table. -/
def momentKey : String := "$__toml_private_datetime"

/-- The keys and values of a table; a date or time is taken for a table with one key. -/
def fields? : Value → Option (List (String × Value))
  | .table fields => some fields
  | .scalar (.datetime t) => some [(momentKey, .string t)]
  | _ => none

/-! ## Records -/

/-- A field of a record: its key and how its value is put into the record. -/
structure Slot (σ : Type) where
  name : String
  put : Value → σ → Except Mismatch σ
  required : Bool := false

/-- The field that `get` reads off a value. -/
def Slot.of (name : String) (get : Decoder α) (set : α → σ → σ) : Slot σ where
  name := name
  put v s := (get v).map (set · s)

/-- A field without which there is no record. -/
def Slot.need (name : String) (get : Decoder α) (set : α → σ → σ) : Slot σ :=
  { Slot.of name get set with required := true }

/-- Fills a record from the keys of a table, in their order, and collects the keys that are no
fields. -/
def fromTable (fields : List (Slot σ)) :
    List (String × Value) → σ → Except Mismatch (σ × List String)
  | [], s => .ok (s, [])
  | (k, v) :: rest, s =>
    match fields.find? (·.name = k) with
    | some f => do
      let s ← (f.put v s).mapError (·.within (.key k))
      fromTable fields rest s
    | none => do
      let (s, unknown) ← fromTable fields rest s
      return (s, k :: unknown)

/-- Fills a record from the items of an array, in the order of the fields. -/
def fromItems (name : String) (count : Nat) :
    List (Slot σ) → (index : Nat) → List Value → σ → Except Mismatch σ
  | [], _, _, s => .ok s
  | f :: fields, index, [], s =>
    if f.required then
      refuse (.invalidLength index
        ("struct " ++ name ++ " with " ++ toString count ++ " elements"))
    else fromItems name count fields index [] s
  | f :: fields, index, v :: rest, s => do
    let s ← (f.put v s).mapError (·.within (.item index))
    fromItems name count fields (index + 1) rest s

/-- A record whose fields keep the values of `start` where the value names none; also the keys that
are no fields. -/
def lenient (name : String) (fields : List (Slot σ)) (start : σ) (v : Value) :
    Except Mismatch (σ × List String) :=
  match v, fields? v with
  | .array items, _ => (fromItems name fields.length fields 0 items start).map fun s => (s, [])
  | _, some entries => fromTable fields entries start
  | _, none => refuse (.invalidType v ("struct " ++ name))

/-- A table without keys that are no fields, and with every required one. -/
def strictTable (fields : List (Slot σ)) : List (String × Value) → σ → Except Mismatch σ
  | [], s => .ok s
  | (k, v) :: rest, s =>
    match fields.find? (·.name = k) with
    | some f => do
      let s ← (f.put v s).mapError (·.within (.key k))
      strictTable fields rest s
    | none =>
      .error { cause := .unknownField k (fields.map (·.name)), key := some k }

/-- The first required field that the entries lack. -/
def missing? (fields : List (Slot σ)) (entries : List (String × Value)) : Option String :=
  (fields.find? fun f => f.required && !entries.any (·.1 = f.name)).map (·.name)

/-- A record with no unknown keys and with every required field. -/
def strictFields (fields : List (Slot σ)) (start : σ) (entries : List (String × Value)) :
    Except Mismatch σ := do
  let s ← strictTable fields entries start
  match missing? fields entries with
  | some name => refuse (.missingField name)
  | none => return s

def strict (name : String) (fields : List (Slot σ)) (start : σ) : Decoder σ := fun v =>
  match v, fields? v with
  | .array items, _ => fromItems name fields.length fields 0 items start
  | _, some entries => strictFields fields start entries
  | _, none => refuse (.invalidType v ("struct " ++ name))

/-! ## Choices -/

/-- The choice with the given name. -/
def named (choices : List (String × α)) (name : String) : Except Mismatch α :=
  match choices.find? (·.1 = name) with
  | some (_, a) => .ok a
  | none => refuse (.unknownVariant name (choices.map (·.1)))

/-- What stands beside the name of a choice in a table has to be empty. -/
def emptyContent : Value → Except Mismatch Unit
  | .array [] | .table [] => .ok ()
  | .array _ => refuse .nonemptyArray
  | .table _ => refuse .nonemptyTable
  | v => refuse (.notTable v)

/-- A choice by its name, or by a table that has the name as its one key. -/
def choice (choices : List (String × α)) : Decoder α
  | .scalar (.string s) => named choices s
  | .table [] => refuse .noElement
  | .table [(k, v)] => do
    let a ← (named choices k).mapError fun m => { m with key := some k }
    (emptyContent v).mapError (·.within (.key k))
    return a
  | .table _ => refuse .manyElements
  | _ => refuse .noVariantName

/-- A choice inside a value that was read as a whole before its shape was known. -/
def heldChoice (choices : List (String × α)) (v : Value) : Except Mismatch α :=
  match v, fields? v with
  | .scalar (.string s), _ => named choices s
  | _, some [(k, content)] => do
    let a ← named choices k
    match content with
    | .table [] => return a
    | _ => refuse (.invalidType content "unit")
  | _, some _ => refuse (.invalidValue v "map with a single key")
  | _, none => refuse (.invalidType v "string or map")

end Decoder

end DocAtlas.Toml
