-- SUMMARY: Relative links lead from the directory of their document, unless their decoded path starts with a slash.
import DocAtlas.Proofs.Audit.Verdicts

/-! # Targets of relative links

A relative link is accepted for the document or the file that its decoded path
leads to, piece by piece, and for no other. The way starts in the directory of
the document. A path that has its first slash from an escape starts at the root
of the disk instead, although the link is not one from a root. -/

namespace DocAtlas

open Text

/-! ## Where a path leads -/

/-- The names that the path of a link leads to, seen from a document. -/
structure Document.Consults (doc : Document) (path : String) (names : Place) : Prop where
  /-- The document has a directory. -/
  steps_ne_nil : Path.steps doc.path ≠ []
  leads : Path.Leads []
    ((if Path.isAbsolute path then [] else (Path.steps doc.path).dropLast) ++ splitOn '/' path.toList)
    names

namespace Surroundings

variable {s : Surroundings} {doc : Document} {path : String}

/-- The file that is looked at is the one that the path leads to. -/
theorem fileFrom_eq_some_iff (hdoc : Path.isAbsolute doc.path = true) {target : String} :
    fileFrom doc path = some target ↔ ∃ names, doc.Consults path names ∧ target = Place.path names := by
  rw [fileFrom]
  obtain ⟨hparent, hsteps⟩ | ⟨dir, hparent, hsteps, hdir, hinner⟩ := Path.parent?_of_isAbsolute hdoc
  · rw [hparent, Option.bind_none]
    constructor
    · intro h
      cases h
    · rintro ⟨names, hconsults, -⟩
      exact absurd hsteps hconsults.steps_ne_nil
  · have hslash : ∀ piece ∈ (if Path.isAbsolute path then [] else (Path.steps doc.path).dropLast)
        ++ splitOn '/' path.toList, '/' ∉ piece := by
      intro piece hpiece
      rcases List.mem_append.1 hpiece with hpiece | hpiece
      · split at hpiece
        next => cases hpiece
        next => exact not_mem_of_mem_splitOn (List.mem_of_mem_filter (List.dropLast_subset _ hpiece))
      · exact not_mem_of_mem_splitOn hpiece
    rw [hparent, Option.bind_some,
      Path.clean_eq_some_iff hslash (Path.components_join_of_isAbsolute hdir hinner)]
    constructor
    · rintro ⟨names, hleads, htarget⟩
      exact ⟨names, ⟨hsteps, hleads⟩, htarget⟩
    · rintro ⟨names, hconsults, htarget⟩
      exact ⟨names, hconsults.leads, htarget⟩

theorem exists_fileFrom_iff (hdoc : Path.isAbsolute doc.path = true) {P : String → Prop} :
    (∃ target, fileFrom doc path = some target ∧ P target) ↔
      ∃ names, doc.Consults path names ∧ P (Place.path names) := by
  simp only [fileFrom_eq_some_iff hdoc]
  constructor
  · rintro ⟨_, ⟨names, hconsults, rfl⟩, h⟩
    exact ⟨names, hconsults, h⟩
  · rintro ⟨names, hconsults, h⟩
    exact ⟨_, ⟨names, hconsults, rfl⟩, h⟩

end Surroundings

/-! ## What a link is accepted for -/

namespace Reference

variable {s : Surroundings} {doc : Document} {dest path : String}

/-- A relative link is looked up where its path leads and nowhere else: one to a Markdown file is
accepted for a document there, any other for a file there or, where it is no image, for the route
that it names. -/
theorem relative_link_consults (hdoc : Path.isAbsolute doc.path = true)
    (hpath : Percent.decode (Link.path dest) = path) (hne : path ≠ "") (image : Bool) (line : Nat) :
    (∀ target, Surroundings.fileFrom doc path = some target ↔
        ∃ names, doc.Consults path names ∧ target = Place.path names) ∧
      (Link.kind dest = .markdownFile →
        ((document doc ⟨dest, image, line⟩).verdict? s = none ↔
          ∃ names, doc.Consults path names ∧
            ∃ d ∈ s.catalog.docs, Path.components d.path = Path.components (Place.path names))) ∧
      (Link.kind dest = .relative →
        ((document doc ⟨dest, image, line⟩).verdict? s = none ↔
          image = false ∧ s.Served (Route.join doc.route path) ∨
            ∃ names, doc.Consults path names ∧ s.disk.isFile (Place.path names) = true)) := by
  refine ⟨fun target => Surroundings.fileFrom_eq_some_iff hdoc, ?_, ?_⟩
  · intro hkind
    rw [verdict?_of_markdownFile doc image hkind hpath hne, Option.map_eq_none_iff,
      Surroundings.markdownFault?_eq_none_iff]
    exact Surroundings.exists_fileFrom_iff hdoc
  · intro hkind
    rw [verdict?_of_relative doc image hkind hpath hne, Option.map_eq_none_iff,
      Surroundings.relativeFault?_eq_none_iff]
    exact or_congr_right (Surroundings.exists_fileFrom_iff hdoc)

/-- An escaped `..` leads up like any other. -/
theorem relative_link_consults_climbing :
    Path.isAbsolute (Surroundings.oddDoc "/").path = true ∧
      Percent.decode (Link.path "g/%2E./up.md") = "g/../up.md" ∧
      (Surroundings.oddDoc "/").Consults "g/../up.md" ["s".toList, "docs".toList, "up.md".toList] ∧
      (document (Surroundings.oddDoc "/") ⟨"g/%2E./up.md", true, 1⟩).verdict?
        (Surroundings.odd "/") = none := by
  have hdoc : Path.isAbsolute (Surroundings.oddDoc "/").path = true := by decide
  have hpath : Percent.decode (Link.path "g/%2E./up.md") = "g/../up.md" :=
    Percent.decode_eq_of_bytes (by decide)
  have hleads : Path.Leads [] ["s".toList, "docs".toList, "g".toList, ['.', '.'], "up.md".toList]
      ["s".toList, "docs".toList, "up.md".toList] :=
    .down (by decide) (.down (by decide) (.down (by decide) (.up (.down (by decide) .here))))
  have hconsults : (Surroundings.oddDoc "/").Consults "g/../up.md"
      ["s".toList, "docs".toList, "up.md".toList] := by
    refine ⟨by decide, ?_⟩
    have hpieces : (if Path.isAbsolute "g/../up.md" then []
          else (Path.steps (Surroundings.oddDoc "/").path).dropLast) ++ splitOn '/' "g/../up.md".toList
        = ["s".toList, "docs".toList, "g".toList, ['.', '.'], "up.md".toList] := by decide
    rw [hpieces]
    exact hleads
  obtain ⟨-, hmarkdown, -⟩ := @relative_link_consults (Surroundings.odd "/") _ _ _ hdoc hpath
    (by decide) true 1
  refine ⟨hdoc, hpath, hconsults, (hmarkdown (by decide)).2 ⟨_, hconsults, ?_⟩⟩
  exact ⟨_, List.mem_cons_of_mem _ (List.mem_cons_of_mem _ List.mem_cons_self), by decide⟩

/-- With its slash escaped, a path is taken from the root of the disk: the link is accepted, although
below the directory of the document the path leads to no document. -/
theorem escaped_slash_accepted :
    (Catalog.load Catalog.oddDisk (Catalog.oddSite "/")).result = .ok (Catalog.oddCatalog "/") ∧
      Link.kind "%2Fs/docs/up.md" = .markdownFile ∧
      Percent.decode (Link.path "%2Fs/docs/up.md") = "/s/docs/up.md" ∧
      Path.Leads []
        ((Path.steps (Surroundings.oddDoc "/").path).dropLast ++ splitOn '/' "/s/docs/up.md".toList)
        ["s".toList, "docs".toList, "s".toList, "docs".toList, "up.md".toList] ∧
      (Catalog.oddCatalog "/").docAt? "/s/docs/s/docs/up.md" = none ∧
      (document (Surroundings.oddDoc "/") ⟨"%2Fs/docs/up.md", false, 1⟩).verdict?
        (Surroundings.odd "/") = none := by
  have hkind : Link.kind "%2Fs/docs/up.md" = .markdownFile := by decide
  have hpath : Percent.decode (Link.path "%2Fs/docs/up.md") = "/s/docs/up.md" :=
    Percent.decode_eq_of_bytes (by decide)
  have hpieces : (Path.steps (Surroundings.oddDoc "/").path).dropLast
        ++ splitOn '/' "/s/docs/up.md".toList
      = ["s".toList, "docs".toList, [], "s".toList, "docs".toList, "up.md".toList] := by decide
  have hfault : (Surroundings.odd "/").markdownFault? (Surroundings.oddDoc "/") "/s/docs/up.md"
      = none := by decide
  refine ⟨Catalog.load_odd "/", hkind, hpath, ?_, by decide, ?_⟩
  · rw [hpieces]
    exact .down (by decide) (.down (by decide) (.stay (.inl rfl) (.down (by decide)
      (.down (by decide) (.down (by decide) .here)))))
  · rw [verdict?_of_markdownFile _ _ hkind hpath (by decide), hfault]
    rfl

end Reference

end DocAtlas
