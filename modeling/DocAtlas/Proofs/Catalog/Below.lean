-- SUMMARY: Which served routes lie below the base URL: those of pages and static files, and those of documents whose address does not climb.
import DocAtlas.Proofs.Catalog.Sources

/-! # Routes below the base URL

All served routes are meant to lie below the base URL. Those of pages and static
files do. The route of a document is the base URL followed by its address, which
the settings and the front matter are free to choose: it lies below the base URL
where the address does not climb above its start. -/

namespace DocAtlas

open Text

namespace Document

/-- What the route of a document is behind the route prefix. -/
def address (rel : String) (front : FrontMatter) : String :=
  match front.slug with
  | some slug =>
    if slug.toList.head? = some '/' then slug else "/" ++ directoryOf rel ++ "/" ++ slug
  | none => "/" ++ Route.stripIndex (idOf rel front)

theorem head?_address (rel : String) (front : FrontMatter) :
    (address rel front).toList.head? = some '/' := by
  unfold address
  split
  · split
    next h => exact h
    next => simp
  · simp

theorem routeOf_eq (rel routePrefix : String) (front : FrontMatter) :
    routeOf rel routePrefix front = Route.clean (routePrefix ++ address rel front) := by
  cases hslug : front.slug with
  | none => simp only [routeOf, address, hslug, String.append_assoc]
  | some slug =>
    by_cases hroot : slug.toList.head? = some '/'
    · simp only [routeOf, address, hslug, if_pos hroot]
    · simp only [routeOf, address, hslug, if_neg hroot, String.append_assoc]

end Document

namespace Catalog

variable {disk : Disk} {site : Site}

/-- What the route of a document is behind the base URL. -/
def address (site : Site) (rel source : String) : String :=
  site.settings.docs.routeBasePath ++ Document.address rel (FrontMatter.split source.toList).1

theorem route_documentOf (site : Site) (dir rel source : String) :
    (documentOf site dir rel source).route
      = Route.clean (site.settings.site.baseUrl ++ "/" ++ address site rel source) := by
  have hroute : (documentOf site dir rel source).route
      = Document.routeOf rel site.settings.docsRoute (FrontMatter.split source.toList).1 := rfl
  rw [hroute, Document.routeOf_eq, Settings.docsRoute,
    Route.clean_clean_append (Document.head?_address _ _), address]
  simp only [String.append_assoc]

/-- Neither the directory of a page nor its name without the extension climbs. -/
theorem dots_not_mem_pageId {rel : Place} (hplain : ∀ name ∈ rel, IsPlain name)
    (hlisted : ∀ name ∈ rel, name.head? ≠ some '.') :
    ['.', '.'] ∉ splitOn '/' (pageId (Disk.relativePath rel)).toList := by
  have hdir : ['.', '.'] ∉ splitOn '/' (Document.directoryOf (Disk.relativePath rel)).toList := by
    unfold Document.directoryOf
    split
    next dir _ => exact Path.dots_not_mem_toSlash dir
    next => decide
  have hname : ['.', '.'] ∉ splitOn '/' ((Path.stem? (Disk.relativePath rel)).getD []) := by
    cases hstem : Path.stem? (Disk.relativePath rel) with
    | none => decide
    | some stem => exact Path.dots_not_mem_stem? hplain hlisted hstem
  unfold pageId
  dsimp only
  split
  next => rwa [String.toList_ofList]
  next =>
    have hjoined (dir name : String) :
        (dir ++ "/" ++ name).toList = dir.toList ++ '/' :: name.toList := by simp
    rw [hjoined, splitOn_append, String.toList_ofList, List.mem_append]
    exact not_or.2 ⟨hdir, hname⟩

theorem below_pageRoute {rel : Place} (hplain : ∀ name ∈ rel, IsPlain name)
    (hlisted : ∀ name ∈ rel, name.head? ≠ some '.') :
    Route.Below (Route.clean site.settings.site.baseUrl) (pageRoute site rel) := by
  refine Route.below_of_staysInside (Route.staysInside_of_not_mem fun hmem => ?_)
  rcases Route.mem_splitOn_stripIndex hmem with hnil | hmem
  · cases hnil
  · exact dots_not_mem_pageId hplain hlisted hmem

theorem below_staticRoute {rel : Place} (hplain : ∀ name ∈ rel, IsPlain name) :
    Route.Below (Route.clean site.settings.site.baseUrl) (staticRoute site rel) := by
  refine Route.below_of_staysInside (Route.staysInside_of_not_mem ?_)
  rw [Disk.relativePath, String.toList_ofList]
  exact dots_not_mem_splitOn_joinWith hplain

theorem below_of_mem_otherRoutes {c : Catalog} (hdisk : disk.WellFormed)
    (hload : (load disk site).result = .ok c) {route : String} (hroute : route ∈ c.otherRoutes) :
    Route.Below (Route.clean site.settings.site.baseUrl) route := by
  obtain ⟨-, -, -, -, hother⟩ := load_eq_ok hload
  rw [hother, List.mem_append, mem_pageRoutes hdisk, mem_staticRoutes hdisk] at hroute
  rcases hroute with ⟨rel, hfile, hsource, rfl⟩ | ⟨dir, -, rel, hfile, hlisted, rfl⟩
  · have hlisted : ∀ name ∈ rel, name.head? ≠ some '.' := fun name hn => (hsource.1 name hn).1
    exact below_pageRoute (hfile.isPlain hdisk hlisted) hlisted
  · exact below_staticRoute (hfile.isPlain hdisk hlisted)

/-- Pages and static files are served below the base URL, and so is each document whose address
does not climb above its start. -/
theorem routes_below_base {c : Catalog} (hdisk : disk.WellFormed)
    (hload : (load disk site).result = .ok c) :
    (∀ route ∈ c.otherRoutes, Route.Below (Route.clean site.settings.site.baseUrl) route) ∧
      ∀ d ∈ c.docs, (∃ p rel source, MadeFrom disk site p rel source d) ∧
        ∀ p rel source, MadeFrom disk site p rel source d →
          Route.StaysInside (splitOn '/' (address site (Disk.relativePath rel) source).toList) →
            Route.Below (Route.clean site.settings.site.baseUrl) d.route := by
  refine ⟨fun route hroute => below_of_mem_otherRoutes hdisk hload hroute, fun d hd =>
    ⟨exists_madeFrom hdisk hload hd, fun p rel source hmade hinside => ?_⟩⟩
  rw [hmade.eq_documentOf, route_documentOf]
  exact Route.below_of_staysInside hinside

/-- The document in the directory `g` is made from its file. -/
theorem madeFrom_odd (baseUrl routeBasePath : String) :
    MadeFrom oddDisk (oddSite baseUrl routeBasePath) ["s".toList, "docs".toList]
      ["g".toList, "ü: 1%.MDX".toList] ""
      (documentOf (oddSite baseUrl routeBasePath) "/s/docs" "g/ü: 1%.MDX" "") where
  find_docs := by
    have hfind : oddDisk.find (Path.join "/s" "docs")
        = .ok (["s".toList, "docs".toList], .directory) := by decide
    exact hfind
  readText := rfl
  isSource := ⟨by decide, "ü: 1%".toList, "MDX".toList, rfl, by decide⟩
  isPlain := by decide
  eq_documentOf := rfl

theorem routes_below_base_odd :
    oddDisk.WellFormed ∧
      (load oddDisk (oddSite "/b/" "x/..")).result = .ok (oddCatalog "/b/" "x/..") ∧
      (∀ route ∈ (oddCatalog "/b/" "x/..").otherRoutes, Route.Below (Route.clean "/b/") route) ∧
      Route.StaysInside (splitOn '/' (address (oddSite "/b/" "x/..") "g/ü: 1%.MDX" "").toList) ∧
      Route.Below (Route.clean "/b/")
        (documentOf (oddSite "/b/" "x/..") "/s/docs" "g/ü: 1%.MDX" "").route := by
  have hdisk : oddDisk.WellFormed := ⟨by decide, by decide⟩
  have hinside : Route.StaysInside
      (splitOn '/' (address (oddSite "/b/" "x/..") "g/ü: 1%.MDX" "").toList) := by decide
  obtain ⟨hother, hdocs⟩ := routes_below_base hdisk (load_odd "/b/" "x/..")
  have hdoc := (hdocs _ (List.mem_cons_of_mem _ List.mem_cons_self)).2
  exact ⟨hdisk, load_odd "/b/" "x/..", hother, hinside,
    hdoc _ _ _ (madeFrom_odd "/b/" "x/..") hinside⟩

/-- A slug and a route base path of accepted settings can both lead out of the base URL `/b/`. -/
theorem documents_above_base :
    oddDisk.WellFormed ∧
      ((oddSite "/b/").settings.findings = [] ∧
        (load oddDisk (oddSite "/b/")).result = .ok (oddCatalog "/b/") ∧
        ∃ d ∈ (oddCatalog "/b/").docs, ¬ Route.Below (Route.clean "/b/") d.route) ∧
      (oddSite "/b/" "..").settings.findings = [] ∧
        (load oddDisk (oddSite "/b/" "..")).result = .ok (oddCatalog "/b/" "..") ∧
        ∀ d ∈ (oddCatalog "/b/" "..").docs, ¬ Route.Below (Route.clean "/b/") d.route := by
  have hslug : ∃ d ∈ (oddCatalog "/b/").docs, ¬ Route.Below (Route.clean "/b/") d.route := by decide
  have hbasePath : ∀ d ∈ (oddCatalog "/b/" "..").docs, ¬ Route.Below (Route.clean "/b/") d.route := by
    decide
  exact ⟨⟨by decide, by decide⟩, ⟨by decide, load_odd "/b/", hslug⟩, by decide,
    load_odd "/b/" "..", hbasePath⟩

end Catalog

end DocAtlas
