-- SUMMARY: The links and images of a run of text, found by matching its brackets.
import DocAtlas.Markdown.Block

/-! # Links in running text

The tokens of a run are read from left to right. Opening brackets wait on a
stack; a closing bracket takes the last one, and the two make a link if a
destination in parentheses, a second label or their own label says so. No link
stands in another link. -/

namespace DocAtlas.Markdown

/-- A link or an image. -/
structure Event where
  /-- The position of its start in the text. -/
  start : Nat
  dest : List Char
  image : Bool := false
  /-- The destination is a mail address. -/
  mail : Bool := false

/-- An opening bracket that waits for its closing one. -/
structure Opener where
  token : Token
  /-- A link stands behind it, so that it can open no other. -/
  disabled : Bool := false

namespace Opener

def isImage (b : Opener) : Bool := b.token.kind = .image

end Opener

/-! ## Destinations in parentheses -/

namespace Run

/-- The place after blanks of which at most one ends a line. -/
def separator (r : Run) (c : Cursor) : Cursor :=
  let d := c.skipWhile isSpace
  let d := match d.lineEnd? with
    | some next => r.newLine next
    | none => d
  d.skipWhile isSpace

/-- The place after the title's closing mark. On a new line the title goes on at the first of the
given tokens that stands there. -/
def titleEnd (r : Run) (opening closing : Char) : (fuel : Nat) → List Token → Cursor → Option Cursor
  | 0, _, _ => none
  | fuel + 1, tokens, c =>
    match c.rest with
    | [] => none
    | x :: rest =>
      if x = closing then some (c.advance 1)
      else if x = opening then none
      else
        let tokens := if isLineEnd x then tokens.dropWhile (·.stop ≤ c.pos + 1) else tokens
        let jump := if isLineEnd x then
            tokens.head?.filter fun t => c.pos < t.start
          else none
        match jump with
        | some t => titleEnd r opening closing fuel tokens (c.seek t.start)
        | none =>
          let tabular := x = '\\' && r.inTable && Text.startsWith "\\|".toList rest
          let d := if tabular then c.advance 2 else c
          let skip := x = '\\' && (d.rest.drop 1).head?.any Text.isPunctuation
          titleEnd r opening closing fuel tokens (d.advance (if skip then 2 else 1))

def title? (r : Run) (tokens : List Token) (c : Cursor) : Option Cursor :=
  match c.head? with
  | some '(' => titleEnd r '(' ')' c.rest.length tokens (c.advance 1)
  | some x => if x = '"' || x = '\'' then titleEnd r x x c.rest.length tokens (c.advance 1) else none
  | none => none

/-- The limit on parentheses in each other in a destination. -/
def nesting : Nat := 32

/-- The destination in parentheses that starts here, and the place after it. -/
def target? (r : Run) (tokens : List Token) (c : Cursor) : Option (List Char × Cursor) := do
  let c ← c.char? '('
  let (raw, c) ← destination? nesting (r.separator c)
  let c := r.separator c
  let c := (r.title? tokens c).getD c
  let c ← (r.separator c).char? ')'
  return (unescape r.inTable raw, c)

/-- The reference that starts here. -/
def reference? (r : Run) (c : Cursor) : Option (Reference × Cursor) :=
  Reference.scan (fun d => some (r.newLine d)) r.inTable c

end Run

/-! ## Tokens -/

/-- The state of reading a run. -/
structure Reading where
  /-- The tokens that are left. -/
  tokens : List Token
  /-- The opening brackets, the last one first. -/
  openers : List Opener := []
  /-- The links found, the last one first. -/
  events : List Event := []

namespace Reading

/-- Turns the label of the bracket that closes at `pos` into a mere part of a reference. -/
def spend (pos : Nat) : List Token → List Token
  | [] => []
  | t :: rest =>
    if t.stop ≤ pos then t :: spend pos rest else { t with kind := .closer false } :: rest

/-- Adds a link that starts with the bracket `b`, after which the tokens `rest` are left. -/
def link (s : Reading) (b : Opener) (dest : List Char) (rest : List Token) : Reading :=
  let openers := if b.isImage then s.openers else
    s.openers.map fun o => if o.isImage then o else { o with disabled := true }
  { tokens := rest, openers,
    events := { start := b.token.start, dest, image := b.isImage } :: s.events }

/-- An angle bracket: an address, markup or text. -/
def angle (r : Run) (s : Reading) (t : Token) : Reading :=
  match s.tokens with
  | [] => s
  | next :: _ =>
    let c := r.place next.start
    let event? : Option (Option Event × Cursor) :=
      match Html.address? c with
      | some (dest, d) => some (some { start := t.start, dest }, d)
      | none =>
        match Html.mail? c with
        | some (dest, d) => some (some { start := t.start, dest, mail := true }, d)
        | none => (Html.markup? r.newLine c).map fun d => (none, d)
    match event? with
    | some (event, d) =>
      { s with tokens := Token.dropTo d.pos s.tokens, events := event.toList ++ s.events }
    | none => s

def isCode (n : Nat) (t : Token) : Bool :=
  match t.kind with
  | .code m _ => n = m
  | _ => false

/-- Code marks: code up to the next marks of the same number, or text. -/
def code (s : Reading) (n : Nat) : Reading :=
  match s.tokens.dropWhile fun t => !isCode n t with
  | [] => s
  | _ :: rest => { s with tokens := rest }

/-- What a closing bracket refers to, and the tokens that are left after it. -/
inductive Referral where
  /-- A label of its own after the bracket. -/
  | full (label : List Char) (stop : Nat)
  /-- An empty label after the bracket. -/
  | collapsed (rest : List Token)
  | shortcut

def referral (r : Run) (tokens : List Token) : Referral :=
  match tokens with
  | [] => .shortcut
  | next :: rest =>
    let c := r.place next.start
    match c.rest with
    | '[' :: ']' :: _ => .collapsed (rest.drop 1)
    | _ =>
      match r.reference? c with
      | some (.link label, d) => .full label d.pos
      | _ => .shortcut

/-- A closing bracket whose own label is the reference; `rest` is left after a link. -/
def ownLabel (o : Outline) (r : Run) (s : Reading) (b : Opener) (t : Token) (rest : List Token) :
    Reading :=
  let c := (r.place (b.token.stop - 1)).upTo t.stop
  match r.reference? c with
  | some (reference, d) =>
    if d.pos ≠ t.stop then s
    else match reference with
      | .link label =>
        match o.definition? label with
        | some found => s.link b found.dest rest
        | none => s
      | .note label =>
        if o.isNote label then
          { s with openers := [], events := s.events.dropWhile (b.token.start ≤ ·.start) }
        else s
  | none => s

/-- A closing bracket with its opening one. -/
def close (o : Outline) (r : Run) (s : Reading) (b : Opener) (t : Token) (viable : Bool) : Reading :=
  match r.target? s.tokens (r.place t.stop) with
  | some (dest, d) => s.link b dest (Token.dropTo d.pos s.tokens)
  | none =>
    match referral r s.tokens with
    | .full label stop =>
      match (s.tokens.dropWhile (·.stop ≤ stop - 1)) with
      | [] => s
      | _ :: rest =>
        match o.definition? label with
        | some found => s.link b found.dest rest
        | none => { s with tokens := spend (stop - 1) s.tokens }
    | .collapsed rest => if viable then ownLabel o r s b t rest else s
    | .shortcut => if viable then ownLabel o r s b t s.tokens else s

/-- Reads one token. -/
def step (o : Outline) (r : Run) (s : Reading) (t : Token) : Reading :=
  match t.kind with
  | .text | .lineBreak => s
  | .angle => s.angle r t
  | .code n escaped => s.code (if escaped then n - 1 else n)
  | .image | .opener => { s with openers := ⟨t, false⟩ :: s.openers }
  | .closer viable =>
    match s.openers with
    | [] => s
    | b :: openers =>
      let s := { s with openers }
      if b.disabled then s else s.close o r b t viable

/-- Reads the tokens that are left. No step adds a token. -/
def finish (o : Outline) (r : Run) : (fuel : Nat) → Reading → Reading
  | 0, s => s
  | fuel + 1, s =>
    match s.tokens with
    | [] => s
    | t :: rest => finish o r fuel (step o r { s with tokens := rest } t)

end Reading

/-- The links and images of a run. -/
def Run.events (o : Outline) (r : Run) : List Event :=
  (Reading.finish o r r.tokens.length { tokens := r.tokens }).events

/-- The links and images of a text, in the order of their starts. -/
def events (text : List Char) : List Event :=
  let o := Outline.ofText text
  (o.runs.flatMap (·.events o)).mergeSort fun a b => a.start ≤ b.start

end DocAtlas.Markdown
