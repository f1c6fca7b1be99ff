-- SUMMARY: Links as written in a document: their parts, their kind, and the class whose policy governs them.
import DocAtlas.Text.Basic

/-! # Links

The kind of a link is read off its text alone, before percent decoding: a
scheme makes it external, a leading `#` or `./#` a fragment, a leading `/` a
path from the site root, an extension `.md` or `.mdx` a link to a Markdown
file; any other link is relative to the page. -/

namespace DocAtlas

open Text

/-- The two classes of checked links, each with a policy of its own. -/
inductive LinkClass where
  | doc
  | markdown
  deriving DecidableEq

inductive LinkKind where
  | external
  | fragment
  | siteRoot
  | markdownFile
  | relative
  deriving DecidableEq

/-- The class of a kind; external links and fragments are never checked. -/
def LinkKind.class? : LinkKind → Option LinkClass
  | .external | .fragment => none
  | .markdownFile => some .markdown
  | .siteRoot | .relative => some .doc

namespace Link

def isSchemeChar (c : Char) : Bool := c.isAlphanum || c = '+' || c = '-' || c = '.'

/-- Whether the text before the first colon is a scheme. -/
def isExternal (link : String) : Bool :=
  match splitOnce ':' link.toList with
  | some (scheme, _) => !scheme.isEmpty && scheme.all isSchemeChar
  | none => false

/-- The path before the query and the fragment. -/
def pathPart (link : List Char) : List Char :=
  let rest := link.takeWhile (· ≠ '#')
  rest.takeWhile (· ≠ '?')

/-- The text after the first `#`. -/
def fragmentPart (link : List Char) : List Char := (link.dropWhile (· ≠ '#')).drop 1

def path (link : String) : String := String.ofList (pathPart link.toList)

def fragment (link : String) : String := String.ofList (fragmentPart link.toList)

/-- Whether the path part names a Markdown file. -/
def isMarkdownPath (link : String) : Bool :=
  let lowered := lower (pathPart link.toList)
  endsWith ".md".toList lowered || endsWith ".mdx".toList lowered

/-- The kind of a link, and what is left of its text: the anchor of a fragment, else all of it. -/
def classify (link : String) : LinkKind × String :=
  if isExternal link then (.external, link)
  else match link.toList with
    | '#' :: anchor => (.fragment, String.ofList anchor)
    | '.' :: '/' :: '#' :: anchor => (.fragment, String.ofList anchor)
    | '/' :: _ => (.siteRoot, link)
    | _ => if isMarkdownPath link then (.markdownFile, link) else (.relative, link)

def kind (link : String) : LinkKind := (classify link).1

end Link

end DocAtlas
