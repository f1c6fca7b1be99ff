-- SUMMARY: Adding documents, pages or static files to a site breaks no reference that it makes already.
import DocAtlas.Proofs.Audit.Monotone
import DocAtlas.Proofs.Catalog.Index
import DocAtlas.Proofs.Encoding
import Mathlib.Data.List.Perm.Basic

/-! # Adding to a site

A reference that is broken in the larger surroundings is broken in the smaller
ones, and for the same reason, as long as the disk is the same. The references
of a site with more documents are its old ones and the links of the new
documents, so that its report is made of old entries and of entries for those
links. -/

namespace DocAtlas

namespace Surroundings

variable {s s' : Surroundings}

/-! ## Reasons -/

/-- What is said unless a condition holds is said under a weaker condition too. -/
theorem eq_some_of_unless {p p' : Bool} {said : Option String} {what : String}
    (hp : p = true → p' = true) (h : (if p' then none else said) = some what) :
    (if p then none else said) = some what := by
  cases p with
  | true =>
    rw [hp rfl] at h
    cases h
  | false =>
    cases p' with
    | true => cases h
    | false => exact h

namespace Offers

variable {what : String}

theorem hasRoute (h : s.Offers s') {route : String} (hroute : s.catalog.hasRoute route = true) :
    s'.catalog.hasRoute route = true :=
  hasRoute_iff_served.2 (h.served (hasRoute_iff_served.1 hroute))

theorem serves (h : s.Offers s') {path : String} (hpath : s.serves path = true) :
    s'.serves path = true :=
  serves_iff.2 (h.servedOnSite (serves_iff.1 hpath))

theorem docFault? (h : s.Offers s') {id : String} (hfault : s'.docFault? id = some what) :
    s.docFault? id = some what := by
  refine eq_some_of_unless (fun hdoc => ?_) hfault
  simp only [Catalog.doc?, List.find?_isSome] at hdoc ⊢
  obtain ⟨d, hd, hid⟩ := hdoc
  exact ⟨d, h.docs hd, hid⟩

theorem sidebarFault? (h : s.Offers s') (id : String) : s'.sidebarFault? id = s.sidebarFault? id := by
  unfold Surroundings.sidebarFault?
  rw [h.sidebars]

theorem hrefFault? (h : s.Offers s') {href : String} (hfault : s'.hrefFault? href = some what) :
    s.hrefFault? href = some what := by
  unfold Surroundings.hrefFault? at hfault ⊢
  cases hkind : Link.kind href with
  | external | fragment =>
    rw [hkind] at hfault
    cases hfault
  | siteRoot | markdownFile | relative =>
    rw [hkind] at hfault
    exact eq_some_of_unless h.serves hfault

theorem markdownFault? (h : s.Offers s') (hdisk : s'.disk = s.disk) {doc : Document} {path : String}
    (hfault : s'.markdownFault? doc path = some what) : s.markdownFault? doc path = some what := by
  unfold Surroundings.markdownFault? at hfault ⊢
  cases hdir : Path.parent? doc.path with
  | none =>
    rw [hdir] at hfault
    exact hfault
  | some dir =>
    cases hclean : Path.clean (Path.join dir path) with
    | none =>
      simp only [hdir, hclean] at hfault ⊢
      exact hfault
    | some target =>
      simp only [hdir, hclean, hdisk] at hfault ⊢
      refine eq_some_of_unless (fun hdoc => ?_) hfault
      simp only [Catalog.docAt?, List.find?_isSome, List.mem_reverse] at hdoc ⊢
      obtain ⟨d, hd, hsame⟩ := hdoc
      exact ⟨d, h.docs hd, hsame⟩

theorem relativeFault? (h : s.Offers s') (hdisk : s'.disk = s.disk) {doc : Document} {image : Bool}
    {path : String} (hfault : s'.relativeFault? doc image path = some what) :
    s.relativeFault? doc image path = some what := by
  refine eq_some_of_unless (fun hfound => ?_) hfault
  rw [hdisk]
  simp only [Bool.or_eq_true, Bool.and_eq_true] at hfound ⊢
  exact hfound.imp_left fun ⟨himage, hroute⟩ => ⟨himage, h.hasRoute hroute⟩

theorem documentFault? (h : s.Offers s') (hdisk : s'.disk = s.disk) {doc : Document} {link : DocLink}
    (hfault : s'.documentFault? doc link = some what) : s.documentFault? doc link = some what := by
  unfold Surroundings.documentFault? at hfault ⊢
  dsimp only at hfault ⊢
  by_cases hpath : Link.path link.dest = ""
  · rw [if_pos hpath] at hfault
    cases hfault
  · rw [if_neg hpath] at hfault ⊢
    cases hkind : Link.kind link.dest with
    | external | fragment =>
      rw [hkind] at hfault
      cases hfault
    | siteRoot =>
      rw [hkind] at hfault
      exact eq_some_of_unless h.serves hfault
    | markdownFile =>
      rw [hkind] at hfault
      exact h.markdownFault? hdisk hfault
    | relative =>
      rw [hkind] at hfault
      exact h.relativeFault? hdisk hfault

/-- A reference that is still broken is broken for the reason that it was before. -/
theorem fault? (h : s.Offers s') (hdisk : s'.disk = s.disk) {r : Reference}
    (hfault : r.fault? s' = some what) : r.fault? s = some what := by
  cases r with
  | navbar i item =>
    simp only [Reference.fault?, Option.map_eq_some_iff] at hfault ⊢
    obtain ⟨reason, hreason, hwhat⟩ := hfault
    refine ⟨reason, ?_, hwhat⟩
    cases htarget : item.target with
    | doc id => rw [htarget] at hreason; exact h.docFault? hreason
    | sidebar id => rw [htarget] at hreason; exact (h.sidebarFault? id).symm.trans hreason
    | link href => rw [htarget] at hreason; exact h.hrefFault? hreason
  | sidebar id target =>
    simp only [Reference.fault?, Option.map_eq_some_iff] at hfault ⊢
    obtain ⟨reason, hreason, hwhat⟩ := hfault
    refine ⟨reason, ?_, hwhat⟩
    cases target with
    | doc doc => exact h.docFault? hreason
    | href link => exact h.hrefFault? hreason
  | document doc link => exact h.documentFault? hdisk hfault

theorem source (h : s.Offers s') (r : Reference) : r.source s' = r.source s := by
  cases r with
  | navbar i item | sidebar id target =>
    unfold Reference.source
    rw [h.site]
  | document doc link => rfl

theorem broken? (h : s.Offers s') (hdisk : s'.disk = s.disk) {r : Reference}
    {entry : LinkClass × String × BrokenLink} (hbroken : r.broken? s' = some entry) :
    r.broken? s = some entry := by
  unfold Reference.broken? at hbroken ⊢
  split at hbroken
  next c reason hclass hfault =>
    rw [hclass, h.fault? hdisk hfault, ← h.source r]
    exact hbroken
  next => cases hbroken

end Offers

/-! ## Reports -/

/-- What some references add to the report of a class. -/
def entriesFor (s : Surroundings) (c : LinkClass) (refs : List Reference) :
    List (String × BrokenLink) :=
  Report.addedTo c (refs.filterMap (·.broken? s))

theorem mem_entriesFor {c : LinkClass} {refs : List Reference} {entry : String × BrokenLink} :
    entry ∈ s.entriesFor c refs ↔ ∃ r ∈ refs, r.broken? s = some (c, entry) := by
  simp only [entriesFor, Report.addedTo, List.mem_map, List.mem_filter, List.mem_filterMap,
    decide_eq_true_eq]
  constructor
  · rintro ⟨⟨c', entry'⟩, ⟨⟨r, hr, hbroken⟩, rfl⟩, rfl⟩
    exact ⟨r, hr, hbroken⟩
  · rintro ⟨r, hr, hbroken⟩
    exact ⟨(c, entry), ⟨⟨r, hr, hbroken⟩, rfl⟩, rfl⟩

theorem entriesFor_append (c : LinkClass) (refs refs' : List Reference) :
    s.entriesFor c (refs ++ refs') = s.entriesFor c refs ++ s.entriesFor c refs' := by
  simp [entriesFor, Report.addedTo]

theorem entriesFor_perm (c : LinkClass) {refs refs' : List Reference} (h : refs.Perm refs') :
    (s.entriesFor c refs).Perm (s.entriesFor c refs') :=
  ((h.filterMap _).filter _).map _

theorem report_links_perm (s : Surroundings) (c : LinkClass) :
    (s.report.links c).Perm (s.entriesFor c s.references) := by
  rw [report, Report.links_foldl_add]
  exact List.mergeSort_perm _ _

/-- In larger surroundings the same references add some of their entries, and no others. -/
theorem Offers.entriesFor_sublist (h : s.Offers s') (hdisk : s'.disk = s.disk) (c : LinkClass)
    (refs : List Reference) : (s'.entriesFor c refs).Sublist (s.entriesFor c refs) := by
  have hall : (refs.filterMap (·.broken? s')).Sublist (refs.filterMap (·.broken? s)) := by
    induction refs with
    | nil => exact .refl _
    | cons r rest ih =>
      cases hbroken : r.broken? s' with
      | none =>
        rw [List.filterMap_cons_none hbroken]
        cases hbefore : r.broken? s with
        | none => rwa [List.filterMap_cons_none hbefore]
        | some entry =>
          rw [List.filterMap_cons_some hbefore]
          exact ih.cons entry
      | some entry =>
        rw [List.filterMap_cons_some hbroken, List.filterMap_cons_some (h.broken? hdisk hbroken)]
        exact ih.cons_cons entry
  exact (hall.filter _).map _

/-! ## More documents -/

/-- The references that documents make. -/
def linksOf (docs : List Document) : List Reference :=
  docs.flatMap fun doc => doc.links.map (.document doc)

theorem linksOf_append (docs docs' : List Document) :
    linksOf (docs ++ docs') = linksOf docs ++ linksOf docs' :=
  List.flatMap_append

theorem linksOf_perm {docs docs' : List Document} (h : docs.Perm docs') :
    (linksOf docs).Perm (linksOf docs') :=
  h.flatMap_right _

theorem document_mem_references {d : Document} {link : DocLink} :
    .document d link ∈ s.references ↔ d ∈ s.catalog.docs ∧ link ∈ d.links := by
  simp only [references, List.mem_append, List.mem_map, List.mem_flatMap, reduceCtorEq, and_false,
    exists_false, false_or, Reference.document.injEq]
  constructor
  · rintro ⟨d', hd, link', hlink, rfl, rfl⟩
    exact ⟨hd, hlink⟩
  · rintro ⟨hd, hlink⟩
    exact ⟨d, hd, link, hlink, rfl, rfl⟩

section Additions

variable {docs added : List Document} {sidebars : Sidebars} {small large : Catalog}
  (hsmall : Catalog.ofDocuments docs sidebars = .ok small)
  (hlarge : Catalog.ofDocuments (docs ++ added) sidebars = .ok large)

include hsmall hlarge

theorem docs_perm_append : large.docs.Perm (small.docs ++ added) :=
  (Catalog.ofDocuments_eq_ok hlarge).1.trans
    ((Catalog.ofDocuments_eq_ok hsmall).1.symm.append_right added)

theorem sidebars_additions : large.sidebars = small.sidebars :=
  (Catalog.sidebars_of_ofDocuments hlarge).trans (Catalog.sidebars_of_ofDocuments hsmall).symm

theorem offers_additions (site : Site) (disk : Disk) (routes more : List String) :
    Offers ⟨site, small.addRoutes routes, disk⟩ ⟨site, large.addRoutes (routes ++ more), disk⟩ := by
  have hdocs : small.docs ⊆ large.docs := fun d hd =>
    (docs_perm_append hsmall hlarge).mem_iff.2 (List.mem_append_left _ hd)
  have hsidebars := sidebars_additions hsmall hlarge
  refine ⟨rfl, hdocs, hsidebars, ?_, fun _ h => h⟩
  have hnone := (Catalog.ofDocuments_eq_ok hsmall).2.2
  intro route hroute
  simp only [Catalog.routes, Catalog.addRoutes, hnone, List.nil_append, List.mem_append,
    List.mem_map] at hroute ⊢
  rcases hroute with ⟨d, hd, rfl⟩ | hroute
  · exact .inl ⟨d, hdocs hd, rfl⟩
  · exact .inr (.inr (.inl hroute))

theorem references_additions (site : Site) (disk : Disk) (routes more : List String) :
    (references ⟨site, large.addRoutes (routes ++ more), disk⟩).Perm
      (references ⟨site, small.addRoutes routes, disk⟩ ++ linksOf added) := by
  have hsidebars := sidebars_additions hsmall hlarge
  have hlinks : (linksOf large.docs).Perm (linksOf small.docs ++ linksOf added) := by
    rw [← linksOf_append]
    exact linksOf_perm (docs_perm_append hsmall hlarge)
  unfold references
  simp only [Catalog.addRoutes, hsidebars]
  rw [List.append_assoc _ _ (linksOf added)]
  exact hlinks.append_left _

end Additions

/-- Documents, pages and static files are added to a site. Its references are the old ones and the
links of the added documents. Where an old reference is broken, it was broken before, with the same
entry in the report, so that the report has entries for the added links and beside them none but
old ones. -/
theorem additions_break_nothing {docs added : List Document} {sidebars : Sidebars}
    {small large : Catalog} (hsmall : Catalog.ofDocuments docs sidebars = .ok small)
    (hlarge : Catalog.ofDocuments (docs ++ added) sidebars = .ok large)
    (site : Site) (disk : Disk) (routes more : List String) :
    let s : Surroundings := ⟨site, small.addRoutes routes, disk⟩
    let s' : Surroundings := ⟨site, large.addRoutes (routes ++ more), disk⟩
    s'.references.Perm (s.references ++ linksOf added) ∧
    (∀ d link, .document d link ∈ s.references ↔ d ∈ docs ∧ link ∈ d.links) ∧
    (∀ r ∈ s.references, ∀ c entry, r.broken? s' = some (c, entry) →
      r.broken? s = some (c, entry) ∧ entry ∈ s'.report.links c ∧ entry ∈ s.report.links c) ∧
    ∀ c, (s'.report.links c).Perm (s'.entriesFor c s.references ++ s'.entriesFor c (linksOf added)) ∧
      (s'.entriesFor c s.references).Subperm (s.report.links c) := by
  intro s s'
  have hoffers : s.Offers s' := offers_additions hsmall hlarge site disk routes more
  have hrefs : s'.references.Perm (s.references ++ linksOf added) :=
    references_additions hsmall hlarge site disk routes more
  refine ⟨hrefs, fun d link => ?_, fun r hr c entry hbroken => ?_, fun c => ⟨?_, ?_⟩⟩
  · rw [document_mem_references]
    exact and_congr_left' (Catalog.ofDocuments_eq_ok hsmall).1.mem_iff
  · have hbefore : r.broken? s = some (c, entry) := hoffers.broken? rfl hbroken
    have hr' : r ∈ s'.references := hrefs.mem_iff.2 (List.mem_append_left _ hr)
    refine ⟨hbefore, ?_, ?_⟩
    · exact (report_links_perm s' c).mem_iff.2 (mem_entriesFor.2 ⟨r, hr', hbroken⟩)
    · exact (report_links_perm s c).mem_iff.2 (mem_entriesFor.2 ⟨r, hr, hbefore⟩)
  · rw [← entriesFor_append]
    exact (report_links_perm s' c).trans (entriesFor_perm c hrefs)
  · exact (hoffers.entriesFor_sublist rfl c s.references).subperm.trans
      (report_links_perm s c).symm.subperm

/-- A document with a link that leads nowhere. -/
def earlyDoc : Document where
  id := "a"
  route := "/docs/a"
  source := "docs/a.md"
  title := none
  path := "/s/docs/a.md"
  links := [⟨"/docs/b", false, 1⟩, ⟨"lost.md", false, 2⟩]

def lateDoc : Document where
  id := "b"
  route := "/docs/b"
  source := "docs/b.md"
  title := none
  path := "/s/docs/b.md"
  links := [⟨"gone.md", false, 1⟩]

theorem additions_break_nothing_lateDoc :
    Catalog.ofDocuments [earlyDoc] {} = .ok { docs := [earlyDoc] } ∧
      Catalog.ofDocuments ([earlyDoc] ++ [lateDoc]) {} = .ok { docs := [earlyDoc, lateDoc] } ∧
      let s : Surroundings := ⟨{ settings := {} }, Catalog.addRoutes { docs := [earlyDoc] } [], {}⟩
      let s' : Surroundings :=
        ⟨{ settings := {} }, Catalog.addRoutes { docs := [earlyDoc, lateDoc] } ([] ++ ["/p"]), {}⟩
      ("docs/a.md", ⟨"lost.md", some 2, "file not found"⟩) ∈ s'.report.links .markdown ∧
      ("docs/a.md", ⟨"lost.md", some 2, "file not found"⟩) ∈ s.report.links .markdown := by
  have hsmall : Catalog.ofDocuments [earlyDoc] {} = .ok { docs := [earlyDoc] } :=
    Catalog.ofDocuments_of_pairwise (by decide) {}
  have hlarge : Catalog.ofDocuments ([earlyDoc] ++ [lateDoc]) {} = .ok { docs := [earlyDoc, lateDoc] } :=
    Catalog.ofDocuments_of_pairwise (by decide) {}
  refine ⟨hsmall, hlarge, ?_⟩
  intro s s'
  obtain ⟨-, hold, hkept, -⟩ :=
    additions_break_nothing hsmall hlarge { settings := {} } {} [] ["/p"]
  have hlink := (hold earlyDoc ⟨"lost.md", false, 2⟩).2 (by decide)
  have hfault : s'.documentFault? earlyDoc ⟨"lost.md", false, 2⟩ = some "file not found" := by
    have hkind : Link.kind "lost.md" = .markdownFile := by decide
    have hpath : Link.path "lost.md" = "lost.md" := by decide
    have hdecode : Text.Percent.decode "lost.md" = "lost.md" :=
      Text.Percent.decode_of_not_mem (by decide)
    simp only [documentFault?, hkind, hpath, hdecode]
    decide
  have hbroken : (Reference.document earlyDoc ⟨"lost.md", false, 2⟩).broken? s'
      = some (.markdown, "docs/a.md", ⟨"lost.md", some 2, "file not found"⟩) := by
    simp only [Reference.broken?, Reference.fault?, hfault]
    rfl
  exact (hkept _ hlink .markdown _ hbroken).2

end Surroundings

end DocAtlas
