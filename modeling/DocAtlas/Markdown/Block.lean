-- SUMMARY: The blocks of a Markdown text: containers, leaves, and the running text found in them.
import DocAtlas.Markdown.Definition
import DocAtlas.Markdown.Token

/-! # Blocks

The text is read line by line. Each line continues some of the open containers,
may open new ones, and then starts a leaf: code, HTML, a heading, a table, a
definition or a paragraph. Of all these, `Outline` keeps what links need: the
running texts, the definitions and the labels of notes. -/

namespace DocAtlas.Markdown

/-- What is found so far. -/
structure Outline where
  /-- The open containers. -/
  margin : Margin := []
  /-- The last item has nothing but its mark. -/
  fresh : Bool := false
  /-- A blank line comes before. -/
  blank : Bool := false
  /-- The definitions, the first one first. -/
  definitions : List Definition := []
  notes : List Key := []
  /-- The running texts, the last one first. -/
  runs : List Run := []

namespace Outline

/-! ## Lists -/

/-- Opens a container. -/
def push (o : Outline) (k : Container) : Outline := { o with margin := o.margin ++ [k] }

/-- Closes the innermost container. -/
def pop (o : Outline) : Outline := { o with margin := o.margin.dropLast }

def innermost? (o : Outline) : Option Container := o.margin.getLast?

/-- An item that is empty ends at the second blank line. -/
def endEmptyItem (o : Outline) : Outline :=
  let o' := match o.innermost? with
    | some (.item _) => if o.fresh && o.blank then o.pop else o
    | _ => o
  { o' with fresh := false }

def endList (o : Outline) : Outline :=
  let o := o.endEmptyItem
  let o := match o.innermost? with
    | some (.list _) => o.pop
    | _ => o
  { o with blank := false }

/-- Goes on with the list that has this mark, or starts it. -/
def continueList (o : Outline) (mark : Char) : Outline :=
  let o := o.endEmptyItem
  if o.innermost? = some (.list mark) then { o with blank := false }
  else { o.endList.push (.list mark) with blank := false }

/-- Takes note of a blank line. -/
def blankLine (o : Outline) : Outline :=
  match o.innermost? with
  | some .quote => o
  | some (.item _) =>
    if o.fresh then { o.pop.push (.item 0) with blank := true } else { o with blank := true }
  | _ => { o with blank := true }

/-! ## Containers -/

/-- The mark of a list item, the columns of its text, and the lead at its text. -/
def listItem? (outer : Nat) (l : Lead) : Option (Char × Nat × Lead) := do
  let (mark, width, _) ← LineKind.itemMark? l.cursor
  if LineKind.isRule l.cursor then none
  let (missing, l) := ({ l with cursor := l.cursor.advance width } : Lead).take 1
  if missing ≠ 0 && !l.atLineEnd then none
  let indent := outer + width + 1
  if l.cursor.isBlankLine then some (mark, indent, l)
  else
    let (missing, inner) := l.take 4
    if missing = 0 then some (mark, indent, l) else some (mark, indent + (4 - missing), inner)

/-- The place after the check box of a task. -/
def checkBox? (l : Lead) : Option Lead := do
  let l ← (l.take 3).2.char? '['
  let x ← l.cursor.head?
  if !(isSpace x || x = 'x' || x = 'X') then none
  let l ← ({ l with cursor := l.cursor.advance 1 } : Lead).char? ']'
  if l.cursor.head?.any isSpace then some l else none

/-- A line whose new containers are open: its text is left, or all of it is used. -/
inductive Opened where
  | text (o : Outline) (l : Lead)
  | used (o : Outline) (next : Cursor)

/-- The definition of a note, whose label holds no blank. -/
def note? (c : Cursor) : Option (List Char × Cursor) :=
  (noteHead? false c).filter fun (label, _) => !label.any isSpaceOrLineEnd

def startNote (o : Outline) (label : List Char) : Outline :=
  let o := o.endList
  let o := if o.innermost? = some .note then o.pop else o
  { o.push .note with notes := Key.ofLabel label :: o.notes }

/-- Opens the containers that a line starts. -/
def openContainers : (fuel : Nat) → Outline → Lead → Opened
  | 0, o, l => .text o l
  | fuel + 1, o, l =>
    let (missing, inner) := l.take 4
    if missing = 0 then .text o l
    else match note? inner.cursor with
      | some (label, d) =>
        openContainers fuel (o.startNote label) (Lead.ofCursor (d.skipWhile isSpace))
      | none =>
        match listItem? (4 - missing) inner with
        | some (mark, indent, l) =>
          let o := (o.continueList mark).push (.item indent)
          match l.cursor.blankLine? with
          | some next => .used { o with fresh := true } next
          | none =>
            match checkBox? l with
            | some l =>
              match l.cursor.blankLine? with
              | some next => .used { o with fresh := true } next
              | none => openContainers fuel o l
            | none => openContainers fuel o l
        | none =>
          match inner.quoteMark? with
          | some l => openContainers fuel (o.endList.push .quote) l
          | none => .text o l

/-! ## Code and HTML -/

/-- The place after indented code. -/
def indentedCode (m : Margin) : (fuel : Nat) → Cursor → Cursor
  | 0, c => c
  | fuel + 1, c =>
    let next := c.nextLine
    let (whole, lead) := m.enter next
    let (missing, lead) := lead.take 4
    if whole && (missing = 0 || lead.atLineEnd) && !lead.cursor.rest.isEmpty then
      indentedCode m fuel lead.cursor
    else next

/-- The place after HTML that ends with the line of a closing mark. -/
def htmlTo (m : Margin) (mark : List Char) : (fuel : Nat) → Cursor → Cursor
  | 0, c => c
  | fuel + 1, c =>
    let next := c.nextLine
    let (whole, lead) := m.enter next
    if !whole || Text.contains mark (c.rest.take (next.pos - c.pos)) || lead.cursor.rest.isEmpty then
      next
    else htmlTo m mark fuel lead.cursor

/-- The place after HTML that ends at a blank line. -/
def htmlToBlank (m : Margin) : (fuel : Nat) → Cursor → Cursor
  | 0, c => c
  | fuel + 1, c =>
    let next := c.nextLine
    let (whole, lead) := m.enter next
    if !whole || lead.cursor.isBlankLine then next else htmlToBlank m fuel lead.cursor

/-- The place after the lines of fenced code. -/
def fencedCode (m : Margin) (indent : Nat) (mark : Char) (n : Nat) : (fuel : Nat) → Cursor → Cursor
  | 0, c => c
  | fuel + 1, c =>
    let (whole, lead) := m.enter c
    if !whole then c
    else
      let lead := (lead.take indent).2
      let (missing, inner) := lead.take (4 - indent)
      match if missing = 0 then none else LineKind.closingFence? mark n inner.cursor with
      | some d => d
      | none => fencedCode m indent mark n fuel lead.cursor.nextLine

/-- The place after HTML that starts here with an angle bracket. -/
def html? (m : Margin) (c : Cursor) : Option Cursor :=
  let fuel := c.rest.length + 1
  match c.rest with
  | '<' :: cs =>
    match Html.closingMark? cs with
    | some mark => some (htmlTo m mark fuel c)
    | none =>
      if Html.startsBlockTag cs || Html.isLoneTag (c.advance 1) then some (htmlToBlank m fuel c)
      else none
  | _ => none

/-- The place after a blank rest of the line. -/
def skipBlankLine (c : Cursor) : Cursor := c.blankLine?.getD c

/-! ## Headings -/

/-- The characters that attributes of a heading do not hold. -/
def endsAttributes (c : Char) : Bool :=
  isLineEnd c || c = '\x7b' || c = '\x7d' || c = '<' || c = '>' || c = '\\'

/-- The length of a heading's text without the attributes in braces at its end. -/
def withoutAttributes? (text : List Char) : Option Nat :=
  match text.reverse.dropWhile fun c => isLineEnd c || c = ' ' || c = '\t' with
  | '\x7d' :: rest =>
    match rest.dropWhile fun c => !endsAttributes c with
    | '\x7b' :: before => some before.length
    | _ => none
  | _ => none

def addRun (o : Outline) (origin : Cursor) (stop : Nat) (tokens : List Token) (inTable : Bool) :
    Outline :=
  { o with runs := ⟨origin.upTo stop, tokens, o.margin, inTable⟩ :: o.runs }

/-- A heading with number signs. -/
def heading (o : Outline) (level : Nat) (c : Cursor) : Outline × Cursor :=
  let c := c.advance level
  match c.lineEnd? with
  | some next => (o, next)
  | none =>
    let c := c.skipWhile isSpace
    let next := c.nextLine
    let length := (withoutAttributes? (c.rest.take (next.pos - c.pos))).getD (next.pos - c.pos)
    (o.addRun c next.pos (Line.ofCursor (c.upTo (c.pos + length))).tokens false, next)

/-- The tokens of an underlined heading. -/
def underlined (origin : Cursor) (escapedBreak : Bool) (tokens : List Token) : List Token :=
  let stop := (tokens.getLast?.map Token.stop).getD origin.pos
  match withoutAttributes? (origin.rest.take (stop - origin.pos)) with
  | none => tokens
  | some length =>
    let before := (origin.rest.take length).reverse
    let blanks := if escapedBreak then 0 else (before.takeWhile isSpace).length
    let limit := origin.pos + length - blanks
    (tokens.filter (·.start < limit)).map fun t => { t with stop := min t.stop limit }

/-! ## Tables -/

/-- Reads the cells of a row; those beyond the columns of the table are dropped. -/
def row : (fuel columns : Nat) → Outline → Cursor → Outline × Cursor
  | 0, _, o, c => (o, c)
  | fuel + 1, columns, o, c =>
    let d := ((c.char? '|').getD c).skipWhile isSpace
    match d.lineEnd? with
    | some next => (o, next)
    | none =>
      let line := Line.ofCell d
      let o := if columns = 0 then o else o.addRun d line.stop.pos line.tokens true
      row fuel (columns - 1) o line.stop

/-- Reads the rows below a table's head. -/
def rows (columns : Nat) : (fuel : Nat) → Outline → Cursor → Outline × Cursor
  | 0, o, c => (o, c)
  | fuel + 1, o, c =>
    let (whole, lead) := o.margin.enter c
    let d := lead.takeAll.cursor
    if !whole || LineKind.interruptsTable whole true d then (o, c)
    else
      let (o, next) := row (d.rest.length + 1) columns o d
      rows columns fuel o next

/-! ## Paragraphs -/

/-- Reads the lines of a paragraph from `c` on. -/
def paragraphLines (origin : Cursor) : (fuel : Nat) → Outline → List Token → Cursor → Outline × Cursor
  | 0, o, _, c => (o, c)
  | fuel + 1, o, acc, c =>
    let line := Line.ofCursor c
    let tokens := acc ++ line.tokens
    let next := line.stop
    let (whole, lead) := o.margin.enter next
    let (missing, inner) := lead.take 4
    let heading := if missing ≠ 0 && whole then LineKind.underline? inner.cursor else none
    match heading with
    | some stop => (o.addRun origin stop.pos (underlined origin line.escapedBreak tokens) false, stop)
    | none =>
      let d := inner.takeAll
      if missing ≠ 0 && LineKind.interrupts o.margin whole inner.cursor || d.atLineEnd then
        (o.addRun origin next.pos tokens false, next)
      else paragraphLines origin fuel o (tokens ++ line.lineBreak.toList) d.cursor

/-- A paragraph, or the table whose head its first line is. -/
def paragraph (o : Outline) (c : Cursor) : Outline × Cursor :=
  match LineKind.tableHead? o.margin c with
  | some (columns, body) =>
    rows columns (body.rest.length + 1) (row (c.rest.length + 1) columns o c).1 body
  | none => paragraphLines c (c.rest.length + 1) o [] c

/-! ## Lines -/

/-- Reads the leaf that starts here, after its indentation. -/
def leaf (o : Outline) (indent : Nat) (c : Cursor) : Outline × Cursor :=
  match html? o.margin c with
  | some next => (o, next)
  | none =>
    if LineKind.isRule c then (o, ((c.skipWhile fun x => !isLineEnd x).lineEnd?).getD c)
    else match LineKind.headingLevel? c, LineKind.fence? c with
      | some level, _ => o.heading level c
      | none, some (mark, n) =>
        let stop := fencedCode o.margin indent mark n (c.rest.length + 1) c.nextLine
        (o, skipBlankLine stop)
      | none, none =>
        match Definition.scan o.margin c with
        | some (found, next) =>
          ({ o with definitions := o.definitions ++ [found] }, skipBlankLine next)
        | none => o.paragraph c

/-- Reads the block that starts with this line. -/
def block (o : Outline) (c : Cursor) : Outline × Cursor :=
  let (n, lead) := o.margin.follow (Lead.ofCursor c)
  match openContainers (c.rest.length + 1) { o with margin := o.margin.take n } lead with
  | .used o next => (o, next)
  | .text o lead =>
    match lead.cursor.blankLine? with
    | some next => (o.blankLine, next)
    | none =>
      let o := o.endList
      let (missing, inner) := lead.take 4
      if missing = 0 then (o, indentedCode o.margin (c.rest.length + 1) inner.cursor)
      else o.leaf (4 - missing) inner.cursor

def blocks : (fuel : Nat) → Outline → Cursor → Outline
  | 0, o, _ => o
  | fuel + 1, o, c =>
    if c.rest.isEmpty then o
    else
      let (o, next) := o.block c
      blocks fuel o next

/-- The outline of a text. -/
def ofText (text : List Char) : Outline := blocks (text.length + 1) {} (Cursor.ofText text)

def definition? (o : Outline) (label : List Char) : Option Definition :=
  o.definitions.find? (·.key = Key.ofLabel label)

def isNote (o : Outline) (label : List Char) : Bool := o.notes.contains (Key.ofLabel label)

end Outline

end DocAtlas.Markdown
