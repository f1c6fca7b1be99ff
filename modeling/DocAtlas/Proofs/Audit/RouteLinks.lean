-- SUMMARY: Links from the site root: a document is found by its route, and without the base URL in front unless that stands there already.
import DocAtlas.Proofs.Audit.Exactness
import DocAtlas.Proofs.Catalog.Sources
import DocAtlas.Proofs.Encoding
import DocAtlas.Proofs.Link

/-! # Links to document routes

A path from the site root is looked up below the base URL, unless it reads as if
it lay there already. The route of a document always does. What remains of the
route without the base URL leads to the document too, except where that in turn
starts with the base URL. -/

namespace DocAtlas

open Text Catalog

namespace Surroundings

variable {s : Surroundings}

/-- The canonical base URL of the site. -/
def base (s : Surroundings) : String := Route.clean s.site.settings.site.baseUrl

theorem siteRoute_eq (path : String) :
    s.siteRoute path = if Route.Below s.base (Route.clean path) then Route.clean path
      else Route.clean (s.site.settings.site.baseUrl ++ path) := by
  refine if_congr ?_ rfl rfl
  simp only [base, Route.Below, Bool.or_eq_true, decide_eq_true_eq, startsWith_iff, or_assoc]

/-- A link from the site root resolves if its path is served. -/
theorem broken?_eq_none_iff_of_siteRoot {link : DocLink} (h : Link.kind link.dest = .siteRoot)
    (doc : Document) :
    (Reference.document doc link).broken? s = none ↔
      s.Served (s.siteRoute (Percent.decode (Link.path link.dest))) := by
  have hclass : (Reference.document doc link).class? = some .doc := by
    simp [Reference.class?, h, LinkKind.class?]
  have hne : Link.path link.dest ≠ "" := fun hempty => by
    have hslash := Link.head?_path (Link.slash_of_kind h)
    rw [hempty] at hslash
    cases hslash
  have hfault : s.documentFault? doc link
      = if s.serves (Percent.decode (Link.path link.dest)) then none else some "not found" := by
    simp only [documentFault?, hne, if_false, h]
  rw [Reference.broken?, hclass, Reference.fault?, hfault, ← serves_iff]
  cases s.serves (Percent.decode (Link.path link.dest)) <;> simp

/-- Without escapes, query and fragment, the path of a link is the link. -/
theorem broken?_siteRoot_eq_none_iff {dest : String} (hslash : dest.toList.head? = some '/')
    (hplain : ∀ c ∈ ['%', '?', '#'], c ∉ dest.toList) (doc : Document) (image : Bool) (line : Nat) :
    (Reference.document doc ⟨dest, image, line⟩).broken? s = none ↔ s.Served (s.siteRoute dest) := by
  have hpath : Link.path dest = dest := Link.path_eq_self (hplain _ (by simp)) (hplain _ (by simp))
  have hdecode : Percent.decode dest = dest := Percent.decode_of_not_mem (hplain _ (by simp))
  rw [broken?_eq_none_iff_of_siteRoot (Link.kind_of_slash hslash), hpath, hdecode]

theorem served_of_mem_docs {d : Document} (hd : d ∈ s.catalog.docs) (h : Route.clean d.route = d.route) :
    s.Served d.route := by
  rw [Served, h]
  exact List.mem_append_left _ (List.mem_map.2 ⟨d, hd, rfl⟩)

variable {d : Document} {rest : String}

/-- The route of a document has no character of its own beside those of the base URL and the rest. -/
theorem not_mem_route (hsettings : s.site.settings.findings = [])
    (hbase : '%' ∉ s.site.settings.site.baseUrl.toList)
    (hplain : ∀ c ∈ ['%', '?', '#'], c ∉ rest.toList)
    (hroute : d.route = Route.clean (s.site.settings.site.baseUrl ++ rest)) :
    ∀ c ∈ ['%', '?', '#'], c ∉ d.route.toList := by
  intro c hc hmem
  obtain ⟨-, -, -, hquery, hhash⟩ := Settings.isBasePath_baseUrl hsettings
  have hslash : c ≠ '/' := by
    rintro rfl
    simp at hc
  rw [hroute] at hmem
  have hboth := Route.mem_of_mem_clean hslash hmem
  rw [String.toList_append, List.mem_append] at hboth
  rcases hboth with hmem | hmem
  · simp only [List.mem_cons, List.not_mem_nil, or_false] at hc
    rcases hc with rfl | rfl | rfl
    · exact hbase hmem
    · exact hquery hmem
    · exact hhash hmem
  · exact hplain c hc hmem

/-- A document is found by its route, and by what its route is without the base URL, unless that
reads as a path with the base URL itself: such a path is looked up as it is. -/
theorem route_links_unreported (hsettings : s.site.settings.findings = [])
    (hbase : '%' ∉ s.site.settings.site.baseUrl.toList) (hd : d ∈ s.catalog.docs)
    (hrest : Route.clean rest = rest) (hplain : ∀ c ∈ ['%', '?', '#'], c ∉ rest.toList)
    (hroute : d.route = Route.clean (s.site.settings.site.baseUrl ++ rest))
    (doc : Document) (image : Bool) (line : Nat) :
    (Reference.document doc ⟨d.route, image, line⟩).broken? s = none ∧
      ((Reference.document doc ⟨rest, image, line⟩).broken? s = none ↔
        (s.base ≠ "/" ∧ Route.Below s.base rest → rest ∈ s.catalog.routes)) := by
  have hclean : Route.clean d.route = d.route := by rw [hroute, Route.clean_clean]
  have hserved : s.Served d.route := served_of_mem_docs hd hclean
  have hsegments : d.route = Route.render (Route.segments s.site.settings.site.baseUrl.toList
      ++ Route.segments rest.toList) := by
    rw [hroute, ← hrest, Route.clean_append_clean, hrest]
  constructor
  · have hchars := not_mem_route hsettings hbase hplain hroute
    have hbelow : Route.Below s.base (Route.clean d.route) := by
      rw [hclean, hsegments]
      exact Route.below_render _ _
    rw [broken?_siteRoot_eq_none_iff (hclean ▸ Route.head?_clean d.route) hchars, siteRoute_eq,
      if_pos hbelow, hclean]
    exact hserved
  · rw [broken?_siteRoot_eq_none_iff (hrest ▸ Route.head?_clean rest) hplain, siteRoute_eq, hrest,
      ← hroute]
    by_cases hbelow : Route.Below s.base rest
    · rw [if_pos hbelow, Served, hrest]
      by_cases hroot : s.base = "/"
      · -- below the root the route of the document is the rest itself
        have hself : d.route = rest := by
          rw [hsegments, Route.segments_eq_nil_of_clean hroot, List.nil_append]
          exact hrest
        rw [Served, hclean, hself] at hserved
        exact ⟨fun _ _ => hserved, fun _ => hserved⟩
      · exact ⟨fun h _ => h, fun h => h ⟨hroot, hbelow⟩⟩
    · rw [if_neg hbelow]
      exact ⟨fun _ h => absurd h.2 hbelow, fun _ => hserved⟩

/-- The odd site under a base URL. -/
def odd (baseUrl : String) : Surroundings := ⟨oddSite baseUrl, oddCatalog baseUrl, oddDisk⟩

def oddDoc (baseUrl : String) : Document := documentOf (oddSite baseUrl) "/s/docs" "a.md" ""

theorem route_links_unreported_odd :
    (load oddDisk (oddSite "/b/")).result = .ok (oddCatalog "/b/") ∧
      (oddSite "/b/").settings.findings = [] ∧
      (oddDoc "/b/").route = Route.clean ("/b/" ++ "/docs/a") ∧
      (Reference.document (oddDoc "/b/") ⟨"/b/docs/a", false, 1⟩).broken? (odd "/b/") = none ∧
      (Reference.document (oddDoc "/b/") ⟨"/docs/a", false, 1⟩).broken? (odd "/b/") = none := by
  have hsettings : (oddSite "/b/").settings.findings = [] := by decide
  have hroute : (oddDoc "/b/").route = Route.clean ("/b/" ++ "/docs/a") := by decide
  have hname : (oddDoc "/b/").route = "/b/docs/a" := by decide
  have hbelow : ¬ Route.Below (odd "/b/").base "/docs/a" := by decide
  have hplain : ∀ c ∈ ['%', '?', '#'], c ∉ "/docs/a".toList := by simp
  obtain ⟨hfull, hrest⟩ := @route_links_unreported (odd "/b/") (oddDoc "/b/") "/docs/a" hsettings
    (by decide) List.mem_cons_self (by decide) hplain hroute (oddDoc "/b/") false 1
  rw [hname] at hfull
  exact ⟨load_odd "/b/", hsettings, hroute, hfull, hrest.2 fun h => absurd h.2 hbelow⟩

/-- Below the base URL `/docs/`, the path `/docs/a` is not taken for `/docs/docs/a`. -/
theorem rest_below_base_reported :
    (load oddDisk (oddSite "/docs/")).result = .ok (oddCatalog "/docs/") ∧
      (oddSite "/docs/").settings.findings = [] ∧ '%' ∉ "/docs/".toList ∧
      oddDoc "/docs/" ∈ (oddCatalog "/docs/").docs ∧
      Route.clean "/docs/a" = "/docs/a" ∧ (∀ c ∈ ['%', '?', '#'], c ∉ "/docs/a".toList) ∧
      (oddDoc "/docs/").route = Route.clean ("/docs/" ++ "/docs/a") ∧
      (Reference.document (oddDoc "/docs/") ⟨"/docs/a", false, 1⟩).broken? (odd "/docs/") ≠ none := by
  have hplain : ∀ c ∈ ['%', '?', '#'], c ∉ "/docs/a".toList := by simp
  have hroute : (odd "/docs/").siteRoute "/docs/a" = "/docs/a" := by decide
  have hserved : ¬ Route.clean "/docs/a" ∈ (oddCatalog "/docs/").routes := by decide
  refine ⟨load_odd "/docs/", by decide, by decide, List.mem_cons_self, by decide, hplain, by decide, ?_⟩
  rw [Ne, broken?_siteRoot_eq_none_iff (by decide) hplain, hroute]
  exact hserved

end Surroundings

end DocAtlas
