-- SUMMARY: More documents, routes and files leave fewer references broken.
import DocAtlas.Proofs.Audit.Exactness
import DocAtlas.Proofs.Audit.Policies

/-! # Larger surroundings

Where the sidebars are the same, and the documents, routes and files are at least
the same, every reference that resolved still does. Where the documents are the
very same, what passed the policies passes them again. -/

namespace DocAtlas

namespace Surroundings

variable {s s' : Surroundings}

/-- The same sidebars, with at least the same documents, routes and files. -/
structure Offers (s s' : Surroundings) : Prop where
  site : s'.site = s.site
  docs : s.catalog.docs ⊆ s'.catalog.docs
  sidebars : s'.catalog.sidebars = s.catalog.sidebars
  routes : s.catalog.routes ⊆ s'.catalog.routes
  files : ∀ path, s.disk.isFile path = true → s'.disk.isFile path = true

namespace Offers

theorem hasDoc (h : s.Offers s') {id : String} (hdoc : s.HasDoc id) : s'.HasDoc id := by
  obtain ⟨d, hd, hid⟩ := hdoc
  exact ⟨d, h.docs hd, hid⟩

theorem served (h : s.Offers s') {route : String} (hroute : s.Served route) : s'.Served route :=
  h.routes hroute

theorem siteRoute (h : s.Offers s') (path : String) : s'.siteRoute path = s.siteRoute path := by
  unfold Surroundings.siteRoute
  rw [h.site]

theorem servedOnSite (h : s.Offers s') {path : String} (hroute : s.Served (s.siteRoute path)) :
    s'.Served (s'.siteRoute path) := by
  rw [h.siteRoute]
  exact h.served hroute

theorem hasSidebarWithDoc (h : s.Offers s') {id : String} (hid : s.HasSidebarWithDoc id) :
    s'.HasSidebarWithDoc id := by
  unfold HasSidebarWithDoc at hid ⊢
  rw [h.sidebars]
  exact hid

theorem hrefResolves (h : s.Offers s') {href : String} (hhref : s.HrefResolves href) :
    s'.HrefResolves href := by
  cases hhref with
  | external kind => exact .external kind
  | fragment kind => exact .fragment kind
  | served route => exact .served (h.servedOnSite route)

theorem namesDocument (h : s.Offers s') {doc : Document} {path : String}
    (hpath : s.NamesDocument doc path) : s'.NamesDocument doc path := by
  obtain ⟨target, htarget, d, hd, hsame⟩ := hpath
  exact ⟨target, htarget, d, h.docs hd, hsame⟩

theorem namesFile (h : s.Offers s') {doc : Document} {path : String}
    (hpath : s.NamesFile doc path) : s'.NamesFile doc path := by
  obtain ⟨target, htarget, hfile⟩ := hpath
  exact ⟨target, htarget, h.files target hfile⟩

theorem linkResolves (h : s.Offers s') {doc : Document} {link : DocLink}
    (hlink : s.LinkResolves doc link) : s'.LinkResolves doc link := by
  cases hlink with
  | external kind => exact .external kind
  | fragment kind => exact .fragment kind
  | samePage path => exact .samePage path
  | siteRoot kind route => exact .siteRoot kind (h.servedOnSite route)
  | markdownFile kind target => exact .markdownFile kind (h.namesDocument target)
  | page kind image route => exact .page kind image (h.served route)
  | file kind target => exact .file kind (h.namesFile target)

/-- What resolves goes on to resolve. -/
theorem resolves (h : s.Offers s') {r : Reference} (hr : r.Resolves s) : r.Resolves s' := by
  cases r with
  | navbar i item =>
    unfold Reference.Resolves at hr ⊢
    cases htarget : item.target with
    | doc id => simp only [htarget] at hr ⊢; exact h.hasDoc hr
    | sidebar id => simp only [htarget] at hr ⊢; exact h.hasSidebarWithDoc hr
    | link href => simp only [htarget] at hr ⊢; exact h.hrefResolves hr
  | sidebar id target =>
    cases target with
    | doc doc => exact h.hasDoc hr
    | href link => exact h.hrefResolves hr
  | document doc link => exact h.linkResolves hr

end Offers

/-- The same documents and sidebars, with at least the same routes and files. -/
structure Extends (s s' : Surroundings) : Prop where
  site : s'.site = s.site
  docs : s'.catalog.docs = s.catalog.docs
  sidebars : s'.catalog.sidebars = s.catalog.sidebars
  routes : s.catalog.routes ⊆ s'.catalog.routes
  files : ∀ path, s.disk.isFile path = true → s'.disk.isFile path = true

namespace Extends

theorem offers (h : s.Extends s') : s.Offers s' where
  site := h.site
  docs := h.docs ▸ List.Subset.refl _
  sidebars := h.sidebars
  routes := h.routes
  files := h.files

theorem references (h : s.Extends s') : s'.references = s.references := by
  unfold Surroundings.references
  rw [h.site, h.docs, h.sidebars]

end Extends

/-- A class has broken links exactly when one of its references does not resolve. -/
theorem links_ne_nil_iff (c : LinkClass) :
    s.report.links c ≠ [] ↔ ∃ r ∈ s.references, r.class? = some c ∧ ¬ r.Resolves s := by
  rw [report, Report.links_foldl_add, Reference.addedTo_broken?, ne_eq,
    ← List.length_eq_zero_iff, List.length_mergeSort, List.length_eq_zero_iff, List.map_eq_nil_iff,
    List.filter_eq_nil_iff]
  simp

theorem Extends.fails (h : s.Extends s') {policies : LinkPolicies}
    (hfails : s'.report.Fails policies) : s.report.Fails policies := by
  obtain ⟨c, hthrow, hlinks⟩ := hfails
  obtain ⟨r, hr, hclass, hbroken⟩ := (links_ne_nil_iff c).1 hlinks
  rw [h.references] at hr
  exact ⟨c, hthrow, (links_ne_nil_iff c).2 ⟨r, hr, hclass, fun hok => hbroken (h.offers.resolves hok)⟩⟩

end Surroundings

end DocAtlas
