-- SUMMARY: The report of broken links, by class and by the file that they stand in.
import DocAtlas.Console
import DocAtlas.Link
import DocAtlas.StringMap

/-! # Reports

Each class of links has a report of its own, grouped by source. The sources come
in their order, the links of a source in the order in which they were added. -/

namespace DocAtlas

open Text (Paint)

/-- A link that leads nowhere. -/
structure BrokenLink where
  /-- The link as written. -/
  target : String
  /-- The line, where the link stands in a document. -/
  line : Option Nat
  /-- Why it does not resolve. -/
  reason : String
  deriving DecidableEq

def BrokenLink.shown (b : BrokenLink) : String :=
  let line := match b.line with
    | some n => Paint.dimmed.apply ("L" ++ toString n) ++ " "
    | none => ""
  line ++ "`" ++ b.target ++ "`" ++ (if b.reason = "" then "" else " " ++ b.reason)

def LinkClass.name : LinkClass → String
  | .doc => "doc"
  | .markdown => "markdown"

/-- The classes in the order of reports. -/
def LinkClass.all : List LinkClass := [.doc, .markdown]

/-- The broken links of one class by their source. -/
abbrev Grouped := StringMap (List BrokenLink)

namespace Grouped

def add (g : Grouped) (source : String) (link : BrokenLink) : Grouped :=
  g.alter source fun links => links.getD [] ++ [link]

/-- The links with their sources, in the order of the report. -/
def links (g : Grouped) : List (String × BrokenLink) :=
  g.entries.flatMap fun (source, links) => links.map fun l => (source, l)

def count (g : Grouped) : Nat := (g.entries.flatMap (·.2)).length

end Grouped

structure Report where
  doc : Grouped := {}
  markdown : Grouped := {}

namespace Report

def ofClass (r : Report) : LinkClass → Grouped
  | .doc => r.doc
  | .markdown => r.markdown

def add (r : Report) (c : LinkClass) (source : String) (link : BrokenLink) : Report :=
  match c with
  | .doc => { r with doc := r.doc.add source link }
  | .markdown => { r with markdown := r.markdown.add source link }

/-- The broken links of a class with their sources, in the order of the report. -/
def links (r : Report) (c : LinkClass) : List (String × BrokenLink) := (r.ofClass c).links

def count (r : Report) (c : LinkClass) : Nat := (r.ofClass c).count

/-! ## Text -/

def heading (c : LinkClass) (files broken : Nat) : String :=
  Paint.bold.apply (Paint.red.apply (c.name ++ " links")) ++ " "
    ++ Paint.dimmed.apply
      ("(" ++ Text.counted files "file" ++ ", " ++ toString broken ++ " broken)")

/-- The links of one source under its name. -/
def group (source : String) (links : List BrokenLink) : String :=
  Paint.dimmed.apply "[" ++ Paint.cyan.apply source ++ Paint.dimmed.apply "]" ++ "\n"
    ++ String.join (links.map fun l => Paint.red.apply "→" ++ " " ++ l.shown ++ "\n")

/-- The section of one class; nothing where it has no broken links. -/
def shown (r : Report) (c : LinkClass) : String :=
  let entries := (r.ofClass c).entries
  if entries.isEmpty then ""
  else
    "\n" ++ heading c entries.length (r.count c) ++ "\n"
      ++ String.join (entries.map fun (source, links) => group source links)

end Report

end DocAtlas
