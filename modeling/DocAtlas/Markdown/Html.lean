-- SUMMARY: HTML in Markdown: tags, comments and other markup, and the blocks that such markup opens.
import DocAtlas.Markdown.Cursor
import DocAtlas.Text.Basic

/-! # HTML

Markup in a line is a tag, a comment, an instruction, a declaration or a
character section. Markup at the start of a line may open a block, which goes on
up to a closing mark or to the next blank line. -/

namespace DocAtlas.Markdown.Html

/-- Where the text goes on after a line end inside a tag; `none` where a tag stays on its line. -/
abbrev LineEnds := Option (Cursor → Cursor)

/-! ## Tags -/

/-- The place after blanks, at a character. -/
def blanks (next : LineEnds) : (fuel : Nat) → Cursor → Option Cursor
  | 0, _ => none
  | fuel + 1, c =>
    let d := c.skipWhile isSpace
    match d.rest with
    | [] => none
    | x :: _ =>
      if isLineEnd x then
        match next, d.lineEnd? with
        | some f, some e => blanks next fuel (f e)
        | _, _ => none
      else some d

/-- The place after the quote that closes a value. -/
def quoted (next : LineEnds) (quote : Char) : (fuel : Nat) → Cursor → Option Cursor
  | 0, _ => none
  | fuel + 1, c =>
    match c.rest with
    | [] => none
    | x :: _ =>
      if x = quote then some (c.advance 1)
      else if isLineEnd x then
        match next, c.lineEnd? with
        | some f, some e => quoted next quote fuel (f e)
        | _, _ => none
      else quoted next quote fuel (c.advance 1)

def isNameStart (c : Char) : Bool := c.isAlpha || c = '_' || c = ':'

def isNameChar (c : Char) : Bool := c.isAlphanum || c = '_' || c = '.' || c = ':' || c = '-'

/-- The characters that no value without quotes holds. -/
def endsValue (c : Char) : Bool :=
  isLineEnd c || c = ' ' || c = '=' || c = '>' || c = '<' || c = '\x60' || c = '"' || c = '\''

def value (next : LineEnds) (c : Cursor) : Option Cursor :=
  match c.rest with
  | [] => none
  | x :: _ =>
    if x = '"' || x = '\'' then quoted next x c.rest.length (c.advance 1)
    else if endsValue x then none
    else some (c.skipWhile fun y => !endsValue y)

def attr? (next : LineEnds) (c : Cursor) : Option Cursor :=
  match c.rest with
  | [] => none
  | x :: _ =>
    if isNameStart x then do
      let named := (c.advance 1).skipWhile isNameChar
      let d ← blanks next (named.rest.length + 1) named
      match d.char? '=' with
      | some e => value next (← blanks next (e.rest.length + 1) e)
      | none => some named
    else none

/-- The place after the attributes, at the slash or the bracket that ends the tag. -/
def attrs (next : LineEnds) : (fuel : Nat) → Cursor → Option Cursor
  | 0, _ => none
  | fuel + 1, c => do
    let d ← blanks next (c.rest.length + 1) c
    if d.head? = some '/' || d.head? = some '>' then some d
    else if d.pos = c.pos then none
    else attrs next fuel (← attr? next d)

def tagName? (c : Cursor) : Option Cursor :=
  match c.rest with
  | [] => none
  | x :: _ =>
    if x.isAlpha then some ((c.skipWhile Char.isAlpha).skipWhile fun y => y.isAlphanum || y = '-')
    else none

/-- The place after the tag whose opening bracket stands before `c`. -/
def tag? (next : LineEnds) (c : Cursor) : Option Cursor :=
  match c.char? '/' with
  | some d => do ((← tagName? d).skipWhile isSpace).char? '>'
  | none => do
    let named ← tagName? c
    let d ← attrs next (named.rest.length + 1) named
    ((d.char? '/').getD d).char? '>'

/-! ## Markup in a line -/

/-- The place after the markup whose `<!` stands before `c`. -/
def declaration? (c : Cursor) : Option Cursor :=
  match c.rest with
  | '-' :: '-' :: _ => c.after? "-->".toList
  | x :: _ =>
    match c.literal? "[CDATA[" with
    | some d => ((d.skipWhile (· ≠ ']')).skipWhile (· = ']')).char? '>'
    | none => if x.isAlpha then c.after? ['>'] else none
  | [] => none

/-- The place after the markup whose opening bracket stands before `c`. -/
def markup? (next : Cursor → Cursor) (c : Cursor) : Option Cursor :=
  match c.rest with
  | '!' :: _ => declaration? (c.advance 1)
  | '?' :: _ => (c.advance 1).after? "?>".toList
  | _ => tag? (some next) c

/-! ## Addresses in angle brackets -/

/-- The web address whose opening bracket stands before `c`: a scheme of 2 to 32 characters, a colon
and no blank. -/
def address? (c : Cursor) : Option (List Char × Cursor) :=
  let scheme := c.rest.takeWhile fun x => x.isAlphanum || x = '.' || x = '-' || x = '+'
  let tail := c.rest.drop scheme.length
  let body := tail.takeWhile fun x => x ≠ '>' && x ≠ '<' && 0x20 < x.toNat
  let text := scheme ++ body
  if (scheme.head?.any Char.isAlpha) && 2 ≤ scheme.length && scheme.length ≤ 32
      && tail.head? = some ':' && (tail.drop body.length).head? = some '>' then
    some (text, c.advance (text.length + 1))
  else none

def isMailChar (c : Char) : Bool :=
  c.isAlphanum || ".!#$%&'*+/=?^_\x60\x7b|\x7d~-".toList.contains c

/-- The labels of a mail domain: at most 63 characters each, with no hyphen at an end. -/
def isMailLabel (cs : List Char) : Bool :=
  cs ≠ [] && cs.length ≤ 63 && cs.head? ≠ some '-' && cs.getLast? ≠ some '-'

/-- The mail address whose opening bracket stands before `c`. -/
def mail? (c : Cursor) : Option (List Char × Cursor) :=
  let name := c.rest.takeWhile isMailChar
  let tail := c.rest.drop name.length
  let domain := (tail.drop 1).takeWhile fun x => x.isAlphanum || x = '-' || x = '.'
  if name ≠ [] && tail.head? = some '@' && (Text.splitOn '.' domain).all isMailLabel
      && (tail.drop (1 + domain.length)).head? = some '>' then
    let text := name ++ '@' :: domain
    some (text, c.advance (text.length + 1))
  else none

/-! ## Blocks -/

/-- The tags that open a block which ends at a blank line. -/
def blockTags : List String :=
  ["address", "article", "aside", "base", "basefont", "blockquote", "body", "caption", "center",
    "col", "colgroup", "dd", "details", "dialog", "dir", "div", "dl", "dt", "fieldset",
    "figcaption", "figure", "footer", "form", "frame", "frameset", "h1", "h2", "h3", "h4", "h5",
    "h6", "head", "header", "hr", "html", "iframe", "legend", "li", "link", "main", "menu",
    "menuitem", "nav", "noframes", "ol", "optgroup", "option", "p", "param", "search", "section",
    "summary", "table", "tbody", "td", "tfoot", "th", "thead", "title", "tr", "track", "ul"]

/-- The tags whose block ends at their own closing tag. -/
def rawTags : List String := ["pre", "style", "script", "textarea"]

def startsRaw (cs : List Char) (name : String) : Bool :=
  Text.lower (cs.take name.length) = name.toList
    && ((cs.drop name.length).head?.all fun x => isSpaceOrLineEnd x || x = '>')

/-- The mark that ends the block which a line opens, given what follows its opening bracket. -/
def closingMark? (cs : List Char) : Option (List Char) :=
  match rawTags.find? (startsRaw cs) with
  | some name => some ("</" ++ name ++ ">").toList
  | none =>
    if Text.startsWith "!--".toList cs then some "-->".toList
    else if Text.startsWith ['?'] cs then some "?>".toList
    else if Text.startsWith "![CDATA[".toList cs then some "]]>".toList
    else match cs with
      | '!' :: x :: _ => if x.isAlpha then some ['>'] else none
      | _ => none

/-- Whether a block tag stands here, given what follows its opening bracket. -/
def startsBlockTag (cs : List Char) : Bool :=
  let cs := (Text.dropLead? ['/'] cs).getD cs
  let name := cs.takeWhile Char.isAlphanum
  let tail := cs.drop name.length
  blockTags.contains (String.ofList (Text.lower name))
    && ((tail.head?.all fun x => x = ' ' || x = '\t' || isLineEnd x || x = '>')
      || Text.startsWith "/>".toList tail)

/-- Whether a whole tag stands alone on the line, given what follows its opening bracket. -/
def isLoneTag (c : Cursor) : Bool := (tag? none c).any Cursor.isBlankLine

end DocAtlas.Markdown.Html
