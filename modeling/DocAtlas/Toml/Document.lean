-- SUMMARY: TOML documents: keys, values, headers, and the tree that the lines of a text build.
import DocAtlas.Toml.Scalar
import DocAtlas.Toml.Tree

/-! # TOML documents

A text is a sequence of lines: blank, comment, `key = value`, `[header]` or
`[[header]]`. Each line is added to what the lines before it built, so the
first line at fault decides the error. -/

namespace DocAtlas.Toml

open Reader

/-! ## Keys -/

/-- The number of nested brackets, and of the parts of a key, that is refused. -/
def depthLimit : Nat := 80

def isBareKeyChar (c : Char) : Bool := c.isAlphanum || c = '-' || c = '_'

def simpleKey : Reader String := do
  match ← peek? with
  | some '"' => Strings.basic
  | some '\'' => Strings.plain
  | _ => String.ofList <$> takeWhile1 isBareKeyChar

/-- A key with dots between its parts. -/
def dottedKey : Reader (List Key × Key) := do
  let start := (← get).pos
  let part : Reader Key := do
    let _ ← spaces
    let (name, span) ← spanned simpleKey
    let _ ← spaces
    return ⟨name, span⟩
  let keys ← label "key" do
    let first ← part
    return first :: (← many (char '.' *> part))
  match keys.getLast? with
  | some key =>
    if depthLimit ≤ keys.length then missAt start "recursion limit exceeded"
    else return (keys.dropLast, key)
  | none => miss

/-! ## Values -/

/-- The `=` between a key and its value. -/
def assign : Reader Unit := expecting ["`.`", "`=`"] (discard (char '='))

/-- Values between brackets, each read by `item`. -/
def arrayOf (item : Reader Tree) : Reader (List Tree) := do
  let _ ← char '['
  let items ← commit do
    if (← peek?) = some ']' then return []
    let items ← separated (gap *> item <* gap) (char ',')
    let _ ← option? (char ',')
    gap
    return items
  expecting ["`]`"] (label "array" (commit (discard (char ']'))))
  return items

/-- Keys and values between braces, each value read by `item`. -/
def inlineOf (item : Reader Tree) : Reader Tree.Fields := do
  let _ ← char '\x7b'
  let fields ← commit do
    let start := (← get).pos
    let pairs ← separated (do
      let key ← dottedKey
      commit do
        assign
        let _ ← spaces
        let t ← item
        let _ ← spaces
        return (key, t)) (char ',')
    let _ ← spaces
    let filled : Except Clash Table := pairs.foldlM
      (fun table ((path, key), t) => table.addKey .braces none path key t) { origin := .inline }
    match filled with
    | .ok table => return table.fields
    | .error clash => missAt start clash.message
  expecting ["`\x7d`"] (label "inline table" (commit (discard (char '\x7d'))))
  return fields

/-- A value; what stands between its brackets is read by `inner`, and without `inner` there may be
none. -/
def valueOf (inner : Option (Reader Tree)) : Reader Tree := do
  let start := (← get).pos
  match ← peek?, inner with
  | some '[', some item =>
    let (items, span) ← spanned (arrayOf item)
    return .array span items
  | some '\x7b', some item =>
    let (fields, span) ← spanned (inlineOf item)
    return .table .inline (some span) fields
  | some '[', none | some '\x7b', none => missAt start "recursion limit exceeded"
  | _, _ =>
    let (s, span) ← spanned Scalar.read
    return .leaf span s

/-- A value with at most `depth` nested brackets. -/
def value : (depth : Nat) → Reader Tree
  | 0 => valueOf none
  | depth + 1 => valueOf (some (value depth))

/-! ## Lines -/

/-- A line that adds something. -/
inductive Line where
  | assignment (path : List Key) (key : Key) (t : Tree)
  | header (path : List Key) (key : Key) (span : Span)
  | arrayHeader (path : List Key) (key : Key) (span : Span)

def closed : Reader Unit := expecting ["newline", "`#`"] lineEnd

def assignment : Reader Line := do
  let (path, key) ← dottedKey
  commit do
    assign
    let _ ← spaces
    let t ← value (depthLimit - 1)
    closed
    return .assignment path key t

def header : Reader Line := label "table header" do
  let doubled ← do
    match (← get).rest with
    | '[' :: '[' :: _ => pure true
    | _ :: _ :: _ => pure false
    | _ => miss
  let open_ := if doubled then "[[" else "["
  let close := if doubled then "]]" else "]"
  let ((path, key), span) ← spanned do
    literal open_
    let key ← commit dottedKey
    expecting ["`.`", "`" ++ close ++ "`"] (commit (literal close))
    return key
  commit closed
  return if doubled then .arrayHeader path key span else .header path key span

/-! ## Building -/

/-- The tree of the finished tables, and the table that assignments add to. -/
structure Draft where
  root : Table
  /-- The header of the current table: its path, its key, and whether it stands in double brackets;
  `none` for the root. -/
  current : Option (List Key × Key × Bool)
  table : Table

namespace Draft

def empty : Table where
  origin := .header
  span := some ⟨0, 0⟩

def start : Draft := ⟨empty, none, empty⟩

/-- The range from the first table to the last. -/
def tablesSpan (items : List Tree) : Option Span :=
  match items.head?.bind Tree.span?, items.getLast?.bind Tree.span? with
  | some first, some last => some ⟨first.start, last.stop⟩
  | _, _ => none

/-- The tree with the current table in its place. -/
def finish (d : Draft) : Except Clash Table :=
  match d.current with
  | none => .ok d.table
  | some (path, key, doubled) => do
    let (root, _) ← Table.alter .header (fun t =>
      if doubled then
        match t.get? key.name with
        | some (.tables _ items) =>
          let items := items ++ [d.table.toTree]
          .ok (t.set key.name (.tables (tablesSpan items) items), ())
        | _ => .error (.duplicate key.name (some (path.map Key.name)))
      else .ok (t.push key d.table.toTree, ())) [] path d.root
    return root

/-- Widens a range to the end of another. -/
def widen (span last : Option Span) : Option Span :=
  match span, last with
  | some s, some l => some ⟨s.start, l.stop⟩
  | s, _ => s

/-- The path of the current table. -/
def owner (d : Draft) : List String :=
  match d.current with
  | none => []
  | some (path, key, _) => (path ++ [key]).map Key.name

/-- Adds one line. A header takes over a table that so far only followed from others, and that
table moves to the end of its parent. -/
def add (d : Draft) : Line → Except Clash Draft
  | .assignment path key v => do
    let table := { d.table with span := widen d.table.span v.span? }
    return { d with table := ← table.addKey .keys (some d.owner) path key v }
  | .header path key span => do
    let (root, fields) ← Table.alter .header (fun t =>
      match t.get? key.name with
      | none => .ok (t, [])
      | some (.table .implied _ fields) => .ok (t.erase key.name, fields)
      | some _ => .error (.duplicate key.name (some (path.map Key.name)))) [] path (← d.finish)
    return ⟨root, some (path, key, false), ⟨.header, some span, fields⟩⟩
  | .arrayHeader path key span => do
    let (root, _) ← Table.alter .header (fun t =>
      match t.get? key.name with
      | none => .ok (t.push key (.tables none []), ())
      | some (.tables _ _) => .ok (t, ())
      | some _ => .error (.duplicate key.name (some (path.map Key.name)))) [] path (← d.finish)
    return ⟨root, some (path, key, true), ⟨.header, some span, []⟩⟩

end Draft

/-! ## Documents -/

/-- The line at the cursor, added to the draft; lines without content leave it as it is. -/
def line (d : Draft) : Reader Draft := do
  let start := (← get).pos
  let added (r : Reader Line) : Reader Draft := commit do
    match d.add (← r) with
    | .ok d => return d
    | .error clash => missAt start clash.message
  match ← peek? with
  | none => miss
  | some '#' => commit (comment *> orElse newline eof *> pure d)
  | some '\n' | some '\r' => newline *> pure d
  | some '[' => added header
  | some _ => added assignment

/-- Lines, each taking a character at least, up to the end of the text. -/
def linesUpTo : (fuel : Nat) → Draft → Reader Draft
  | 0, d => pure d
  | fuel + 1, d => do
    match ← option? (line d) with
    | none => pure d
    | some d => spaces *> linesUpTo fuel d

def byteOrderMark : Char := Char.ofNat 0xFEFF

def document : Reader Tree := do
  let _ ← option? (char byteOrderMark)
  let _ ← spaces
  let d ← linesUpTo ((← get).rest.length + 1) Draft.start
  eof
  match d.finish with
  | .ok root => return root.toTree
  | .error clash => missAt 0 clash.message

/-- The tree of a TOML text. -/
def read (text : String) : Except Fault Tree :=
  (document.run { rest := text.toList }).map Prod.fst

end DocAtlas.Toml
