-- SUMMARY: Readers of TOML text: a cursor, faults that say what was expected, choice and repetition.
import DocAtlas.Text.Basic

/-! # Readers

A reader takes a cursor and gives a result with the cursor behind it, or a
fault. A fault is *final* once the text before it leaves no other reading: a
choice tries its second branch only after a fault that is not final, from where
the first branch began. -/

namespace DocAtlas.Toml

/-- The text still to read, and the number of characters before it. -/
structure Cursor where
  rest : List Char
  pos : Nat := 0

/-- Why a text cannot be read: where, what was being read, and what could have stood there. -/
structure Fault where
  pos : Nat
  final : Bool := false
  label : Option String := none
  expected : List String := []
  cause : Option String := none

/-- A range of characters, the end not included. -/
structure Span where
  start : Nat
  stop : Nat
  deriving DecidableEq

abbrev Reader := StateT Cursor (Except Fault)

namespace Reader

variable {α β : Type}

/-! ## Faults -/

def miss : Reader α := fun c => .error { pos := c.pos }

/-- A fault with a cause of its own, at a given position. -/
def missAt (pos : Nat) (cause : String) : Reader α := fun _ => .error { pos, cause := some cause }

def mapFault (f : Fault → Fault) (r : Reader α) : Reader α := fun c => (r c).mapError f

/-- No other reading is left once `r` is reached. -/
def commit (r : Reader α) : Reader α := mapFault (fun e => { e with final := true }) r

/-- Names what `r` reads; an inner name counts more. -/
def label (name : String) (r : Reader α) : Reader α :=
  mapFault (fun e => { e with label := e.label.or (some name) }) r

/-- Adds to what could have stood where `r` fails. -/
def expecting (what : List String) (r : Reader α) : Reader α :=
  mapFault (fun e => { e with expected := e.expected ++ what }) r

/-! ## Choice and repetition -/

def orElse (r s : Reader α) : Reader α := fun c =>
  match r c with
  | .ok res => .ok res
  | .error e => if e.final then .error e else s c

/-- The result of `r`, or nothing where `r` fails without being committed. -/
def option? (r : Reader α) : Reader (Option α) :=
  orElse (some <$> r) (pure none)

/-- Runs `r` until it fails, at most `fuel` times. -/
def manyUpTo (r : Reader α) : (fuel : Nat) → Reader (List α)
  | 0 => pure []
  | fuel + 1 => do
    match ← option? r with
    | none => pure []
    | some a => return a :: (← manyUpTo r fuel)

/-- Runs `r`, which takes a character at least, until it fails. -/
def many (r : Reader α) : Reader (List α) := do
  manyUpTo r ((← get).rest.length + 1)

/-- What `r` reads, any number of times with `sep` between; a `sep` after the last is left. -/
def separated (r : Reader α) (sep : Reader β) : Reader (List α) := do
  match ← option? r with
  | none => pure []
  | some a => return a :: (← many (sep *> r))

/-! ## Characters -/

def peek? : Reader (Option Char) := do return (← get).rest.head?

def satisfy (p : Char → Bool) : Reader Char := fun c =>
  match c.rest with
  | x :: rest => if p x then .ok (x, ⟨rest, c.pos + 1⟩) else .error { pos := c.pos }
  | [] => .error { pos := c.pos }

def char (x : Char) : Reader Char := satisfy (· = x)

def takeWhile (p : Char → Bool) : Reader (List Char) := fun c =>
  let taken := c.rest.takeWhile p
  .ok (taken, ⟨c.rest.dropWhile p, c.pos + taken.length⟩)

def takeWhile1 (p : Char → Bool) : Reader (List Char) := do
  match ← peek? with
  | some x => if p x then takeWhile p else miss
  | none => miss

/-- Exactly `n` characters that satisfy `p`. -/
def exactly (n : Nat) (p : Char → Bool) : Reader (List Char) := fun c =>
  let taken := (c.rest.take n).takeWhile p
  if taken.length = n then .ok (taken, ⟨c.rest.drop n, c.pos + n⟩)
  else .error { pos := c.pos }

def literal (text : String) : Reader Unit := fun c =>
  match Text.dropLead? text.toList c.rest with
  | some rest => .ok ((), ⟨rest, c.pos + text.toList.length⟩)
  | none => .error { pos := c.pos }

def eof : Reader Unit := fun c =>
  if c.rest.isEmpty then .ok ((), c) else .error { pos := c.pos }

/-- Succeeds where `r` does, and reads nothing. -/
def ahead (r : Reader α) : Reader Unit := fun c =>
  match r c with
  | .ok _ => .ok ((), c)
  | .error e => .error { e with pos := c.pos }

/-- The result of `r` with the range that it read. -/
def spanned (r : Reader α) : Reader (α × Span) := do
  let start := (← get).pos
  let a ← r
  return (a, ⟨start, (← get).pos⟩)

/-! ## Blanks, line ends and comments -/

def isSpace (c : Char) : Bool := c = ' ' || c = '\t'

/-- A character of a comment: no control character but the tab. -/
def isCommentChar (c : Char) : Bool := c = '\t' || (0x20 ≤ c.toNat && c.toNat != 0x7F)

def spaces : Reader (List Char) := takeWhile isSpace

def newline : Reader Unit :=
  orElse (discard (char '\n')) (char '\r' *> discard (char '\n'))

def comment : Reader Unit := char '#' *> discard (takeWhile isCommentChar)

/-- Blanks, an optional comment, and the end of the line or of the text. -/
def lineEnd : Reader Unit := do
  let _ ← spaces
  let _ ← option? comment
  orElse newline eof

/-- Blanks and line ends. -/
def blankLines : Reader Unit :=
  discard (many (orElse newline (discard (takeWhile1 isSpace))))

/-- Blanks, line ends and comments that end with their line; at most `fuel` lines. -/
def gapUpTo : (fuel : Nat) → Reader Unit
  | 0 => pure ()
  | fuel + 1 => do
    let _ ← spaces
    match ← peek? with
    | some '#' => comment *> newline *> gapUpTo fuel
    | some '\n' | some '\r' => newline *> gapUpTo fuel
    | _ => pure ()

def gap : Reader Unit := do
  gapUpTo ((← get).rest.length + 1)

end Reader

end DocAtlas.Toml
