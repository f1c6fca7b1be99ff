-- SUMMARY: The policies on broken links: which are warned about, which are ignored, and which fail the check.
import DocAtlas.Audit.Report
import DocAtlas.Settings.Basic

/-! # Policies

Each class has its policy. Warnings are given link by link, also where another
class fails; a failing class is printed as a whole. -/

namespace DocAtlas

open Text (Paint)

/-- What the policies do with a report that passes. -/
structure PolicyOutcome where
  warned : Nat := 0
  ignored : Nat := 0
  deriving DecidableEq

def PolicyOutcome.shown (o : PolicyOutcome) : String :=
  if o.warned = 0 then Paint.green.apply "all links resolve"
  else
    Paint.dimmed.apply "found" ++ " " ++ Paint.bold.apply (Paint.yellow.apply (toString o.warned))
      ++ " " ++ Paint.dimmed.apply ("broken link" ++ (if o.warned = 1 then "" else "s"))

/-- The numbers of broken links in the classes that fail. -/
structure BrokenCounts where
  doc : Nat
  markdown : Nat
  deriving DecidableEq

def BrokenCounts.message (b : BrokenCounts) : String :=
  let part (n : Nat) (c : LinkClass) : List String :=
    if n = 0 then [] else [Text.counted n ("broken " ++ c.name ++ " link")]
  "found " ++ ", ".intercalate (part b.doc .doc ++ part b.markdown .markdown)

namespace Report

/-- Whether a class fails the check. -/
def fails (r : Report) (policies : LinkPolicies) (c : LinkClass) : Bool :=
  policies.policy c = .throw && r.count c ≠ 0

/-- The warnings about a class. -/
def warnings (r : Report) (policies : LinkPolicies) (c : LinkClass) : List Notice :=
  if policies.policy c = .warn then
    (r.links c).map fun (source, link) =>
      .warning ("broken " ++ c.name ++ " link in " ++ source ++ ": " ++ link.shown)
  else []

/-- The number of broken links in the classes with a policy. -/
def countUnder (r : Report) (policies : LinkPolicies) (p : Policy) : Nat :=
  (LinkClass.all.filter (policies.policy · = p)).foldl (fun n c => n + r.count c) 0

/-- Applies the policy of each class. -/
def apply (r : Report) (policies : LinkPolicies) :
    List Notice × Except BrokenCounts PolicyOutcome :=
  let warnings := LinkClass.all.flatMap (r.warnings policies)
  let failing := LinkClass.all.filter (r.fails policies)
  if failing.isEmpty then
    (warnings, .ok ⟨r.countUnder policies .warn, r.countUnder policies .ignore⟩)
  else
    let count (c : LinkClass) : Nat := if failing.contains c then r.count c else 0
    (warnings ++ failing.map (fun c => .error (r.shown c)) ++ [.error "\n"],
      .error ⟨count .doc, count .markdown⟩)

end Report

end DocAtlas
