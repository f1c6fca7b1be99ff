-- SUMMARY: Located TOML trees: values with their places, and the rules by which headers and keys add to them.
import DocAtlas.Toml.Reader
import DocAtlas.Toml.Value

/-! # Located trees

While a text is read its values keep the range they were read from, and its
tables remember how they came about. That decides what may still be added: a
table is defined once, by its header or by dotted keys, and an inline table is
closed where it ends.

`Tree.value` forgets all this. `Tree.spanAt` finds the range of a part again. -/

namespace DocAtlas.Toml

/-- How a table came about. -/
inductive Origin where
  /-- By a header of its own, or as the root. -/
  | header
  /-- As the parent of a table with a header. -/
  | implied
  /-- By the leading parts of a dotted key. -/
  | dotted
  /-- As a value in braces. -/
  | inline
  deriving DecidableEq

/-- Parents of headers and dotted keys can be named again. -/
def Origin.isImplicit : Origin → Bool
  | .implied | .dotted => true
  | .header | .inline => false

structure Key where
  name : String
  span : Span

inductive Tree where
  | leaf (span : Span) (s : Scalar)
  | array (span : Span) (items : List Tree)
  /-- A table; a table that only follows from others has no range. -/
  | table (origin : Origin) (span : Option Span) (fields : List (Key × Tree))
  /-- The tables of `[[header]]` lines, in order. -/
  | tables (span : Option Span) (items : List Tree)

namespace Tree

abbrev Fields := List (Key × Tree)

/-! ## Values -/

mutual

/-- The value without the places. -/
def value : Tree → Value
  | .leaf _ s => .scalar s
  | .array _ items => .array (values items)
  | .table _ _ fields => .table (fieldValues fields)
  | .tables _ items => .array (values items)

def values : List Tree → List Value
  | [] => []
  | t :: rest => t.value :: values rest

def fieldValues : List (Key × Tree) → List (String × Value)
  | [] => []
  | (k, t) :: rest => (k.name, t.value) :: fieldValues rest

end

def span? : Tree → Option Span
  | .leaf span _ | .array span _ => some span
  | .table _ span _ | .tables span _ => span

def typeName : Tree → String
  | .leaf _ (.string _) => "string"
  | .leaf _ (.integer _) => "integer"
  | .leaf _ (.float _) => "float"
  | .leaf _ (.boolean _) => "boolean"
  | .leaf _ (.datetime _) => "datetime"
  | .array _ _ => "array"
  | .table .inline _ _ => "inline table"
  | .table _ _ _ => "table"
  | .tables _ _ => "array of tables"

def lookup (name : String) (fields : Fields) : Option (Key × Tree) :=
  fields.find? fun (k, _) => k.name = name

/-- Puts `t` in the place of the value with the given key. -/
def replace (name : String) (t : Tree) (fields : Fields) : Fields :=
  fields.map fun (k, old) => if k.name = name then (k, t) else (k, old)

/-- The range of the part that `path` leads to, or of the smallest part around it that has one. -/
def spanAt (fallback : Option Span) : List Step → Tree → Option Span
  | [], t => t.span?.or fallback
  | .key name :: path, .table _ span fields =>
    match lookup name fields with
    | some (_, t) => spanAt (span.or fallback) path t
    | none => span.or fallback
  | .item i :: path, .array span items =>
    match items[i]? with
    | some t => spanAt (some span) path t
    | none => some span
  | .item i :: path, .tables span items =>
    match items[i]? with
    | some t => spanAt (span.or fallback) path t
    | none => span.or fallback
  | _ :: _, t => t.span?.or fallback

/-- The range of a key in the table that `path` leads to. -/
def keySpanAt (name : String) : List Step → Tree → Option Span
  | [], .table _ _ fields => (lookup name fields).map fun (k, _) => k.span
  | .key next :: path, .table _ _ fields =>
    match lookup next fields with
    | some (_, t) => keySpanAt name path t
    | none => none
  | .item i :: path, .array _ items | .item i :: path, .tables _ items =>
    match items[i]? with
    | some t => keySpanAt name path t
    | none => none
  | _, _ => none

end Tree

/-! ## Clashes -/

/-- Why a key or a header cannot be added. -/
inductive Clash where
  /-- The key is taken, in the table with the given path where that is known. -/
  | duplicate (key : String) (table : Option (List String))
  /-- The path leads through something that is no table. -/
  | notTable (path : List String) (found : String)

namespace Clash

def dotted (path : List String) : String := ".".intercalate path

def message : Clash → String
  | .duplicate key none => "duplicate key `" ++ key ++ "`"
  | .duplicate key (some []) => "duplicate key `" ++ key ++ "` in document root"
  | .duplicate key (some table) =>
    "duplicate key `" ++ key ++ "` in table `" ++ dotted table ++ "`"
  | .notTable path found =>
    "dotted key `" ++ dotted path ++ "` attempted to extend non-table type (" ++ found ++ ")"

end Clash

/-! ## Tables -/

/-- A table that is being built. -/
structure Table where
  origin : Origin
  span : Option Span := none
  fields : Tree.Fields := []

/-- What a path of keys stands in: a header, an assignment, or braces. -/
inductive Walk where
  | header
  | keys
  | braces
  deriving DecidableEq

/-- The origin of the tables that a path brings in. -/
def Walk.origin : Walk → Origin
  | .header => .implied
  | .keys | .braces => .dotted

namespace Table

variable {α : Type}

def toTree (t : Table) : Tree := .table t.origin t.span t.fields

def get? (t : Table) (key : String) : Option Tree := (Tree.lookup key t.fields).map Prod.snd

def push (t : Table) (key : Key) (v : Tree) : Table := { t with fields := t.fields ++ [(key, v)] }

def set (t : Table) (key : String) (v : Tree) : Table :=
  { t with fields := Tree.replace key v t.fields }

def erase (t : Table) (key : String) : Table :=
  { t with fields := t.fields.filter fun (k, _) => k.name ≠ key }

/-- The table that a path goes on in when it meets `t`, and how `t` looks with that table changed.
Of `[[header]]` tables the last one is meant. -/
def enter (walk : Walk) (key : String) (seen : List String) :
    Tree → Except Clash (Table × (Table → Tree))
  | .table origin span fields =>
    if origin = .inline ∧ walk ≠ .braces then
      .error (.notTable seen (Tree.table origin span fields).typeName)
    else if walk ≠ .header ∧ ¬ origin.isImplicit then .error (.duplicate key none)
    else .ok (⟨origin, span, fields⟩, toTree)
  | .tables span items =>
    match items.getLast? with
    | some (.table origin inner fields) =>
      .ok (⟨origin, inner, fields⟩, fun t => .tables span (items.dropLast ++ [t.toTree]))
    | _ => .error (.notTable seen "array of tables")
  | t => .error (.notTable seen t.typeName)

/-- Changes the table at the end of a path by `edit`. Tables on the way are made as they are
needed. -/
def alter (walk : Walk) (edit : Table → Except Clash (Table × α)) :
    (seen : List String) → List Key → Table → Except Clash (Table × α)
  | _, [], t => edit t
  | seen, k :: path, t => do
    let seen := seen ++ [k.name]
    match t.get? k.name with
    | none =>
      let (inner, a) ← alter walk edit seen path { origin := walk.origin }
      return (t.push k inner.toTree, a)
    | some old =>
      let (inner, rebuild) ← enter walk k.name seen old
      let (inner, a) ← alter walk edit seen path inner
      return (t.set k.name (rebuild inner), a)

/-- Adds a value under a dotted key; `owner` is the path of the table where a clash is to name it.
A table made by dotted keys takes no other ones, and they take no other table. -/
def addKey (walk : Walk) (owner : Option (List String)) (path : List Key) (key : Key) (v : Tree)
    (t : Table) : Except Clash Table := do
  let (t, _) ← alter walk (fun t =>
    if (t.origin = .dotted) = (path = []) then .error (.duplicate key.name none)
    else if (t.get? key.name).isSome then .error (.duplicate key.name owner)
    else .ok (t.push key v, ())) [] path t
  return t

end Table

end DocAtlas.Toml
