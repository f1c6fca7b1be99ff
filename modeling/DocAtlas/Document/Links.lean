-- SUMMARY: The links of a document's body, each with its line in the source file.
import DocAtlas.Document.Basic
import DocAtlas.Markdown.Inline

/-! # Links of a document

The links and images of a Markdown body, in the order in which they start. Mail
addresses and empty destinations are left out. -/

namespace DocAtlas.DocLink

open Markdown (Event)

/-- The line in which an event starts, counted from one, with `before` lines ahead of the body. -/
def lineOf (body : List Char) (before : Nat) (e : Event) : Nat :=
  before + Text.newlines (body.take e.start) + 1

def ofEvent (body : List Char) (before : Nat) (e : Event) : DocLink :=
  { dest := String.ofList e.dest, image := e.image, line := lineOf body before e }

/-- The links of a body that `before` lines of the file stand ahead of. -/
def ofMarkdown (body : List Char) (before : Nat) : List DocLink :=
  ((Markdown.events body).filter fun e => !e.mail && !e.dest.isEmpty).map (ofEvent body before)

end DocAtlas.DocLink
