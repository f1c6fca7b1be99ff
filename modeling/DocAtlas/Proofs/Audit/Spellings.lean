-- SUMMARY: Two spellings of one path from the site root lead to the same route, unless they climb differently far above the root.
import DocAtlas.Proofs.Audit.RouteLinks

/-! # Spellings of a path from the site root

The base URL is put in front of a path as the path is written, and what climbs
above the root in the path then climbs into the base URL. Two spellings with one
canonical form are thus looked up alike when they lie below the base URL already,
or when they climb equally far into it. In every other case there is a catalogue
that tells them apart. -/

namespace DocAtlas

open Text Catalog

namespace Surroundings

variable {s : Surroundings} {p q : String}

/-- The number of segments of the base URL. -/
def baseDepth (s : Surroundings) : Nat := (Route.segments s.site.settings.site.baseUrl.toList).length

theorem clean_siteRoute (path : String) : Route.clean (s.siteRoute path) = s.siteRoute path := by
  rw [siteRoute_eq]
  split <;> exact Route.clean_clean _

/-- When two spellings of one path are looked up alike. -/
theorem siteRoute_eq_iff (hp : p.toList.head? = some '/') (hq : q.toList.head? = some '/')
    (hclean : Route.clean p = Route.clean q) :
    s.siteRoute p = s.siteRoute q ↔ Route.Below s.base (Route.clean p) ∨
      min (Route.climbs p) s.baseDepth = min (Route.climbs q) s.baseDepth := by
  rw [siteRoute_eq, siteRoute_eq, ← hclean]
  by_cases hbelow : Route.Below s.base (Route.clean p)
  · simp [hbelow]
  · rw [if_neg hbelow, if_neg hbelow, Route.clean_append_eq_iff hp hq hclean, or_iff_right hbelow]
    rfl

/-- Links from the site root whose paths have one canonical form are both reported or both not,
whatever is in the catalogue, exactly when the paths lie below the base URL or climb equally far
into it. -/
theorem spellings_agree_iff {link link' : DocLink} (hkind : Link.kind link.dest = .siteRoot)
    (hkind' : Link.kind link'.dest = .siteRoot) (hp : Percent.decode (Link.path link.dest) = p)
    (hq : Percent.decode (Link.path link'.dest) = q) (hclean : Route.clean p = Route.clean q)
    (doc doc' : Document) :
    (∀ catalog, (Reference.document doc link).broken? { s with catalog } = none ↔
        (Reference.document doc' link').broken? { s with catalog } = none) ↔
      Route.Below s.base (Route.clean p) ∨
        min (Route.climbs p) s.baseDepth = min (Route.climbs q) s.baseDepth := by
  have hslash {l : DocLink} {path : String} (hl : Link.kind l.dest = .siteRoot)
      (hpath : Percent.decode (Link.path l.dest) = path) : path.toList.head? = some '/' :=
    hpath ▸ Percent.head?_decode (by decide) (Link.head?_path (Link.slash_of_kind hl))
  have hroute (catalog : Catalog) (path : String) :
      { s with catalog }.Served ({ s with catalog }.siteRoute path) ↔
        s.siteRoute path ∈ catalog.routes := by
    have hsame : { s with catalog }.siteRoute path = s.siteRoute path := rfl
    rw [hsame, Served, clean_siteRoute]
  simp only [broken?_eq_none_iff_of_siteRoot hkind, broken?_eq_none_iff_of_siteRoot hkind', hp, hq,
    hroute]
  rw [← siteRoute_eq_iff (hslash hkind hp) (hslash hkind' hq) hclean]
  constructor
  · intro hagree
    -- the catalogue that serves the first route and nothing else
    have hserved := (hagree { otherRoutes := [s.siteRoute p] }).1 (by simp [Catalog.routes])
    simpa [Catalog.routes, eq_comm] using hserved
  · intro hsame catalog
    rw [hsame]

/-- Both spellings climb once above the root, and one of them has a query. -/
theorem spellings_agree_iff_climbing :
    Link.kind "/../docs/./a" = .siteRoot ∧ Link.kind "/x/../../docs//a/?v=1" = .siteRoot ∧
      Route.clean "/../docs/./a" = Route.clean "/x/../../docs//a/" ∧
      ∀ catalog,
        (Reference.document (oddDoc "/b/") ⟨"/../docs/./a", false, 1⟩).broken?
            { odd "/b/" with catalog } = none ↔
          (Reference.document (oddDoc "/b/") ⟨"/x/../../docs//a/?v=1", true, 2⟩).broken?
            { odd "/b/" with catalog } = none := by
  have hkind : Link.kind "/../docs/./a" = .siteRoot := by decide
  have hkind' : Link.kind "/x/../../docs//a/?v=1" = .siteRoot := by decide
  have hclean : Route.clean "/../docs/./a" = Route.clean "/x/../../docs//a/" := by decide
  have hpath : Percent.decode (Link.path "/../docs/./a") = "/../docs/./a" := by
    have h : Link.path "/../docs/./a" = "/../docs/./a" := by decide
    rw [h, Percent.decode_of_not_mem (by decide)]
  have hpath' : Percent.decode (Link.path "/x/../../docs//a/?v=1") = "/x/../../docs//a/" := by
    have h : Link.path "/x/../../docs//a/?v=1" = "/x/../../docs//a/" := by decide
    rw [h, Percent.decode_of_not_mem (by decide)]
  have hclimbs : min (Route.climbs "/../docs/./a") (odd "/b/").baseDepth
      = min (Route.climbs "/x/../../docs//a/") (odd "/b/").baseDepth := by decide
  have hagree := @spellings_agree_iff (odd "/b/") _ _ ⟨"/../docs/./a", false, 1⟩
    ⟨"/x/../../docs//a/?v=1", true, 2⟩ hkind hkind' hpath hpath' hclean (oddDoc "/b/") (oddDoc "/b/")
  exact ⟨hkind, hkind', hclean, hagree.2 (.inr hclimbs)⟩

/-- Below the base URL `/b/`, the path `/../docs/a` is not taken for `/docs/a`. -/
theorem climbing_spelling_reported :
    (load oddDisk (oddSite "/b/")).result = .ok (oddCatalog "/b/") ∧
      (oddSite "/b/").settings.findings = [] ∧
      Route.clean "/docs/a" = Route.clean "/../docs/a" ∧
      (Reference.document (oddDoc "/b/") ⟨"/docs/a", false, 1⟩).broken? (odd "/b/") = none ∧
      (Reference.document (oddDoc "/b/") ⟨"/../docs/a", false, 2⟩).broken? (odd "/b/") ≠ none := by
  have hroute : (odd "/b/").siteRoute "/docs/a" = "/b/docs/a" := by decide
  have hroute' : (odd "/b/").siteRoute "/../docs/a" = "/docs/a" := by decide
  have hserved : Route.clean "/b/docs/a" ∈ (oddCatalog "/b/").routes := by decide
  have hserved' : ¬ Route.clean "/docs/a" ∈ (oddCatalog "/b/").routes := by decide
  refine ⟨load_odd "/b/", by decide, by decide, ?_, ?_⟩
  · rw [broken?_siteRoot_eq_none_iff (by decide) (by simp), hroute]
    exact hserved
  · rw [Ne, broken?_siteRoot_eq_none_iff (by decide) (by simp), hroute']
    exact hserved'

end Surroundings

end DocAtlas
