-- SUMMARY: Each document of a loaded catalogue is made from the text of one file below the documents directory.
import DocAtlas.Proofs.Catalog.Load

/-! # The sources of documents

A document of a loaded catalogue is what its file makes: its id, its route and
its links follow from the names below the documents directory and from the text
of the file. -/

namespace DocAtlas.Catalog

open Text

variable {disk : Disk} {site : Site}

/-- The document is what the file at the names `rel` below the documents directory `p` makes. -/
structure MadeFrom (disk : Disk) (site : Site) (p rel : Place) (source : String) (d : Document) :
    Prop where
  find_docs : disk.find (site.join site.settings.docs.path) = .ok (p, .directory)
  readText : disk.readText (Place.path (p ++ rel)) = .ok source
  isSource : IsSource docExtensions rel
  isPlain : ∀ name ∈ p ++ rel, IsPlain name
  eq_documentOf : d = documentOf site p.path (Disk.relativePath rel) source

namespace MadeFrom

variable {p rel : Place} {source : String} {d : Document}

theorem rel_ne_nil (h : MadeFrom disk site p rel source d) : rel ≠ [] := by
  obtain ⟨stem, ext, hlast, -⟩ := h.isSource.2
  rintro rfl
  cases hlast

theorem path_eq (h : MadeFrom disk site p rel source d) : d.path = Place.path (p ++ rel) := by
  rw [h.eq_documentOf]
  exact Place.join_path h.isPlain h.rel_ne_nil

theorem names_path (h : MadeFrom disk site p rel source d) : Path.names d.path = p ++ rel := by
  rw [h.path_eq, Place.names_path h.isPlain]

/-- The file of a document has the extension of documents, in any ASCII case. -/
theorem extension?_path (h : MadeFrom disk site p rel source d) :
    ∃ ext, Path.extension? d.path = some ext ∧ String.ofList (lower ext) ∈ docExtensions := by
  obtain ⟨stem, ext, hlast, hext⟩ := h.isSource.2
  have hstem : stem ≠ [] := by
    rintro rfl
    exact (h.isSource.1 _ (List.mem_of_getLast? hlast)).1 rfl
  have hdot : '.' ∉ ext := Path.dot_not_mem_of_lower_mem (by decide) hext
  have hname : (p ++ rel).getLast? = some (stem ++ '.' :: ext) := by
    rw [List.getLast?_append, hlast, Option.some_or]
  refine ⟨ext, ?_, hext⟩
  rw [Path.extension?, h.path_eq, Place.path, Path.fileName?_slash_joinWith h.isPlain, hname,
    Option.bind_some, Path.cutExtension_snd hstem hdot]

end MadeFrom

theorem exists_madeFrom {c : Catalog} (hdisk : disk.WellFormed)
    (hload : (load disk site).result = .ok c) {d : Document} (hd : d ∈ c.docs) :
    ∃ p rel source, MadeFrom disk site p rel source d := by
  obtain ⟨docs, hdocs, hperm, -, -⟩ := load_eq_ok hload
  rw [hperm.mem_iff] at hd
  simp only [siteDocuments] at hdocs
  split at hdocs
  next hdir =>
    obtain ⟨p, hp⟩ := Disk.isDirectory_iff.1 hdir
    obtain ⟨hnormal, hfind⟩ := Disk.normalize_eq_path hp
    rw [hnormal, Told.result_ofExcept, documents, filter_sourcesIn, mapM_eq_ok_iff,
      List.forall₂_map_left_iff] at hdocs
    obtain ⟨rel, hrel, hread⟩ := exists_of_mem_forall₂ hdocs hd
    rw [listedSources, filesIn_path hfind] at hrel
    obtain ⟨hfile, hsource⟩ := (mem_listedSources hdisk (by decide)).1 hrel
    have hplain := hfile.isPlain_append hdisk hfind fun name hn => (hsource.1 name hn).1
    have hpath : Path.join p.path (Disk.relativePath rel) = Place.path (p ++ rel) :=
      Place.join_path hplain hfile.ne_nil
    unfold readDocument at hread
    rw [hpath] at hread
    dsimp only at hread
    split at hread
    next => cases hread
    next source htext => exact ⟨p, rel, source, hfind, htext, hsource, hplain, by cases hread; rfl⟩
  next =>
    obtain ⟨_, -, hnil⟩ := Told.result_bind_eq_ok.1 hdocs
    cases hnil
    cases hd

/-- Documents in odd files, one of them with a slug that climbs, and a static file. -/
def oddDisk : Disk where
  nodes := [(["s".toList], .directory), (["s".toList, "docs".toList], .directory),
    (["s".toList, "docs".toList, "a.md".toList], .file (.text "")),
    (["s".toList, "docs".toList, "g".toList], .directory),
    (["s".toList, "docs".toList, "g".toList, "ü: 1%.MDX".toList], .file (.text "")),
    (["s".toList, "docs".toList, "up.md".toList], .file (.text "---\nslug: ../../x\n---\n")),
    (["s".toList, "static".toList], .directory),
    (["s".toList, "static".toList, "i.png".toList], .file (.binary [255]))]

def oddSite (baseUrl : String) (routeBasePath : String := "docs") : Site where
  settings := {
    site := { title := "t", tagline := "t", url := "http://[::]", baseUrl }
    docs := { routeBasePath } }
  root := "/s"

def oddCatalog (baseUrl : String) (routeBasePath : String := "docs") : Catalog where
  docs := [documentOf (oddSite baseUrl routeBasePath) "/s/docs" "a.md" "",
    documentOf (oddSite baseUrl routeBasePath) "/s/docs" "g/ü: 1%.MDX" "",
    documentOf (oddSite baseUrl routeBasePath) "/s/docs" "up.md" "---\nslug: ../../x\n---\n"]
  otherRoutes := [Route.clean (baseUrl ++ "/" ++ "i.png")]

theorem load_odd (baseUrl : String) (routeBasePath : String := "docs") :
    (load oddDisk (oddSite baseUrl routeBasePath)).result
      = .ok (oddCatalog baseUrl routeBasePath) := by
  let site := oddSite baseUrl routeBasePath
  let catalog := oddCatalog baseUrl routeBasePath
  have hjoin (path : String) : site.join path = Path.join "/s" path := rfl
  have hdocs : (siteDocuments oddDisk site).result = .ok catalog.docs := by
    have hdir : oddDisk.normalize "/" (site.join site.settings.docs.path) = "/s/docs" := by
      have hpath : oddDisk.normalize "/" (Path.join "/s" "docs") = "/s/docs" := by decide
      exact hpath
    have hfiles : oddDisk.filesIn "/s/docs"
        = [["a.md".toList], ["g".toList, "ü: 1%.MDX".toList], ["up.md".toList]] :=
      List.mergeSort_of_pairwise (by decide)
    exact siteDocuments_of_files hdir (by decide) hfiles rfl
  have hids : catalog.docs.Pairwise (·.id < ·.id) := by
    have hlist : catalog.docs.map (·.id) = ["a", "g/ü: 1%", "up"] := rfl
    rw [← List.pairwise_map, hlist]
    decide
  have hsidebars : (siteSidebars oddDisk site).result = .ok {} := by
    have hpath : site.settings.docs.sidebar = "sidebars.toml" := rfl
    have hnone : oddDisk.holds (Path.join "/s" "sidebars.toml") = false := by decide
    rw [siteSidebars, hjoin, hpath, hnone]
    rfl
  have hpages : pageRoutes oddDisk site = [] := by
    have hpath : site.settings.theme.pages = "src/pages" := rfl
    have hnone : sourcesIn oddDisk (Path.join "/s" "src/pages") = [] := by rfl
    rw [pageRoutes, hjoin, hpath, hnone]
    rfl
  have hstatic : staticRoutes oddDisk site = catalog.otherRoutes := by
    have hdirs : site.settings.theme.staticDirs = ["static"] := rfl
    have hdir : Path.join "/s" "static" = "/s/static" := by decide
    have hfiles : oddDisk.filesIn "/s/static" = [["i.png".toList]] :=
      List.mergeSort_of_pairwise (by decide)
    rw [staticRoutes, hdirs, List.flatMap_singleton, hjoin, hdir, hfiles]
    rfl
  rw [load_of_documents hdocs hids hsidebars, hpages, hstatic]
  rfl

end DocAtlas.Catalog
