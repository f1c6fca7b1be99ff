-- SUMMARY: A second build does nothing, wherever the output of the first one lies.
import DocAtlas.Proofs.Audit.Monotone
import DocAtlas.Proofs.Build.Frame
import DocAtlas.Proofs.Catalog.Growth
import DocAtlas.Proofs.Catalog.Sources
import DocAtlas.Proofs.Json.Layout
import DocAtlas.Proofs.Settings.UnknownKeys
import DocAtlas.Site.Load

/-! # Building again

The manifest of a build may lie among the documents, pages or static files of its
site, where the next build finds it and the directories that were made for it.
It is no document, so that the next build has the same manifest to write; what it
adds to the routes and files can only mend links, so that the next check passes. -/

namespace DocAtlas

namespace Site

variable {disk disk' : Disk} {site : Site} {lenient : Bool} {catalog catalog' : Catalog}
  {dir path : String} {output : Option String}

/-! ## Loaded sites -/

theorem read_eq_ok (h : (read disk path).result = .ok site) :
    ∃ p source, disk.find path = .ok (p, .file (.text source)) ∧
      Settings.resolve source = .ok site.settings ∧
      site.root = (Path.parent? (disk.normalize "/" path)).getD "" := by
  unfold read at h
  split at h
  next => cases h
  next source hread =>
    obtain ⟨p, hfind⟩ := Disk.readText_eq_ok_iff.1 hread
    split at h
    next => cases h
    next settings hsettings =>
      cases h
      exact ⟨p, source, hfind, hsettings, rfl⟩

/-- A site that is read from a disk has settings that break no rule. -/
theorem findings_of_read (h : (read disk path).result = .ok site) :
    site.settings.findings = [] := by
  obtain ⟨p, source, -, hsettings, -⟩ := read_eq_ok h
  exact Settings.findings_of_resolve hsettings

/-- It has its root there too, around the settings file. -/
theorem isSettled_of_read (h : (read disk path).result = .ok site) : site.IsSettled disk := by
  obtain ⟨p, source, hfind, -, hroot⟩ := read_eq_ok h
  obtain ⟨-, hreached, hget⟩ := Disk.reached_of_find hfind
  have hp : p ≠ [] := fun e => by rw [e] at hget; cases hget
  have hpath : path ≠ "" := by
    rintro rfl
    cases hfind
  have hshorter : p.dropLast ≠ p := by
    intro e
    have hlength := congrArg List.length e
    have hpos := List.length_pos_of_ne_nil hp
    rw [List.length_dropLast] at hlength
    omega
  have hparent := hreached.of_prefix (List.dropLast_prefix p)
  have hdir := hreached.around _ (List.dropLast_prefix p) hshorter
  left
  rw [hroot, Disk.normalize_of_find hpath hfind, Place.parent?_path hreached.plain hp,
    Option.getD_some]
  exact Disk.isDirectory_iff.2 ⟨_, hparent.find_path hdir⟩

/-! ## The place of the manifest -/

theorem pieces_manifest (dir : String) :
    Disk.pieces (Path.join dir manifestFile) = Disk.pieces dir ++ ["site.json".toList] :=
  Disk.pieces_join plain_manifestFile.isAbsolute

theorem ofPath_manifest (dir : String) :
    Place.ofPath (Path.join dir manifestFile) = Place.ofPath dir ++ ["site.json".toList] :=
  plain_manifestFile.ofPath_join dir

theorem way_subset_manifest (dir : String) :
    Place.way dir ⊆ Place.way (Path.join dir manifestFile) := by
  refine Place.way_subset ?_
  rw [pieces_manifest]
  exact List.prefix_append _ _

/-- The manifest has not the extension of a document. -/
theorem source_ne_manifest (p rel : Place) (h : Catalog.IsSource Catalog.docExtensions rel) :
    p ++ rel ≠ Place.ofPath (Path.join dir manifestFile) := by
  intro hsame
  obtain ⟨-, stem, ext, hlast, hext⟩ := h
  have hdot : '.' ∉ ext := Path.dot_not_mem_of_lower_mem (by decide) hext
  have hname : stem ++ '.' :: ext = "site".toList ++ '.' :: "json".toList := by
    have hlast' := congrArg List.getLast? hsame
    rw [ofPath_manifest, List.getLast?_append, hlast, List.getLast?_concat] at hlast'
    exact Option.some.inj hlast'
  have hrev := congrArg (fun name => name.reverse.takeWhile (· ≠ '.')) hname
  simp only [Path.takeWhile_reverse_dot hdot] at hrev
  rw [Path.takeWhile_reverse_dot (by decide), List.reverse_inj] at hrev
  rw [hrev] at hext
  revert hext
  decide

/-! ## Writing the manifest again -/

theorem wellFormed_emit (hdisk : disk.WellFormed) : (site.emit disk catalog dir).1.WellFormed := by
  obtain ⟨e, hadds, -⟩ | ⟨d, target, hadds, -, hplace, -, hset, -⟩ :=
    emit_cases disk site catalog dir
  · exact hadds.wellFormed hdisk
  · rw [hset]
    exact (hadds.wellFormed hdisk).set (Disk.reached_of_place hplace).plain

/-- A manifest that is written over itself leaves the disk as it is. -/
theorem emit_emit (h : (site.emit disk catalog dir).2.result = .ok path)
    (hsame : Manifest.ofCatalog site catalog' = Manifest.ofCatalog site catalog) :
    (site.emit (site.emit disk catalog dir).1 catalog' dir).1 = (site.emit disk catalog dir).1 ∧
      (site.emit (site.emit disk catalog dir).1 catalog' dir).2.result = .ok path := by
  obtain ⟨e, -, herror⟩ | ⟨d, target, -, ⟨p, hfind⟩, hplace, hget, hset, hresult⟩ :=
    emit_cases disk site catalog dir
  · rw [herror] at h
    cases h
  · rw [hresult] at h
    obtain rfl := Except.ok.inj h
    rw [hset]
    have hmade (n : Node) := Disk.makeDirectories_of_find
      ((Disk.keepsWays_set (n := n) hget).find_directory hfind)
    unfold emit
    rw [hmade]
    dsimp only
    rw [hsame, Disk.write_set hplace hget]
    exact ⟨rfl, rfl⟩

/-! ## Checking again -/

theorem check_of_publishes {text : String} {target : Place}
    (h : disk.Publishes disk' dir path target text)
    (htree : disk.IsTree) (hdisk' : disk'.WellFormed) (hroot : site.IsSettled disk)
    (hsettings : site.settings.findings = [])
    (hname : ∀ p rel, Catalog.IsSource Catalog.docExtensions rel → p ++ rel ≠ target)
    (hdir : Place.way dir ⊆ Place.way path)
    (hother : Place.ofPath (site.join site.settings.docs.sidebar) ∉ Place.way path)
    (hcheck : (site.check disk lenient).result = .ok catalog) :
    ∃ catalog', (site.check disk' lenient).result = .ok catalog' ∧
      Manifest.ofCatalog site catalog' = Manifest.ofCatalog site catalog := by
  obtain ⟨hload, hpasses⟩ := check_eq_ok_iff.1 hcheck
  obtain ⟨catalog', hload', hdocs, hsidebars, hroutes⟩ :=
    Catalog.load_of_publishes h htree hdisk' hroot hsettings hname hdir hother hload
  have hextends : (Surroundings.mk site catalog disk).Extends ⟨site, catalog', disk'⟩ := by
    refine ⟨rfl, hdocs, hsidebars, ?_, fun file => h.isFile⟩
    intro route hroute
    unfold Catalog.routes at hroute ⊢
    rw [List.mem_append] at hroute ⊢
    rw [hdocs]
    exact hroute.imp_right fun hr => hroutes hr
  refine ⟨catalog', check_eq_ok_iff.2 ⟨hload', fun hfails => hpasses (hextends.fails hfails)⟩, ?_⟩
  unfold Manifest.ofCatalog
  rw [hdocs, hsidebars]

theorem check_emit (htree : disk.IsTree) (hsettings : site.settings.findings = [])
    (hroot : site.IsSettled disk)
    (hsidebar : Place.ofPath (site.join site.settings.docs.sidebar) ∉
      Place.way (Path.join dir manifestFile))
    (hcheck : (site.check disk lenient).result = .ok catalog)
    (hemit : (site.emit disk catalog dir).2.result = .ok path) :
    ∃ catalog', (site.check (site.emit disk catalog dir).1 lenient).result = .ok catalog' ∧
      Manifest.ofCatalog site catalog' = Manifest.ofCatalog site catalog := by
  obtain ⟨-, target, hpublishes⟩ := publishes_emit hemit
  have htarget := Disk.Linkless.place_eq_ofPath (hpublishes.links.trans htree.linkless)
    hpublishes.place
  refine check_of_publishes hpublishes htree (wellFormed_emit htree.toWellFormed) hroot hsettings
    (fun p rel hrel => ?_) (way_subset_manifest _) hsidebar hcheck
  rw [htarget]
  exact source_ne_manifest p rel hrel

/-! ## Building again -/

/-- Where the check passes again with the same manifest, building again changes nothing. -/
theorem build_twice (hbuild : (site.build disk lenient output).2.result = .ok path)
    (hcheck : ∀ catalog, (site.check disk lenient).result = .ok catalog →
      (site.emit disk catalog (site.join (output.getD defaultOutput))).2.result = .ok path →
      ∃ catalog', (site.check (site.emit disk catalog
          (site.join (output.getD defaultOutput))).1 lenient).result = .ok catalog' ∧
        Manifest.ofCatalog site catalog' = Manifest.ofCatalog site catalog) :
    (site.build (site.build disk lenient output).1 lenient output).1
        = (site.build disk lenient output).1 ∧
      (site.build (site.build disk lenient output).1 lenient output).2.result = .ok path := by
  cases hfirst : (site.check disk lenient).result with
  | error e =>
    rw [(build_of_check_error output hfirst).2] at hbuild
    cases hbuild
  | ok catalog =>
    obtain ⟨hdisk, hresult⟩ := build_of_check_ok output hfirst
    rw [hresult] at hbuild
    obtain ⟨catalog', hsecond, hsame⟩ := hcheck catalog hfirst hbuild
    rw [hdisk]
    obtain ⟨hdisk', hresult'⟩ := build_of_check_ok output hsecond
    rw [hdisk', hresult']
    exact emit_emit hbuild hsame

/-- A site that is read from its settings file has accepted settings and a root that is there. -/
theorem rebuild_of_read {file : String} (htree : disk.IsTree)
    (hread : (read disk file).result = .ok site)
    (hsidebar : Place.ofPath (site.join site.settings.docs.sidebar) ∉
      Place.way (Path.join (site.join (output.getD defaultOutput)) manifestFile))
    (hbuild : (site.build disk lenient output).2.result = .ok path) :
    (site.build (site.build disk lenient output).1 lenient output).1
        = (site.build disk lenient output).1 ∧
      (site.build (site.build disk lenient output).1 lenient output).2.result = .ok path :=
  build_twice hbuild fun _ =>
    check_emit htree (findings_of_read hread) (isSettled_of_read hread) hsidebar

/-- A document with a link to the file that the first build writes below it. -/
def linkedDisk : Disk where
  nodes := [(["s".toList], .directory), (["s".toList, "docs".toList], .directory),
    (["s".toList, "docs".toList, "a.md".toList], .file (.text "[m](out/site.json)"))]

theorem isTree_linkedDisk : linkedDisk.IsTree :=
  Disk.isTree_of_nodes ⟨by decide, by decide⟩ rfl (by decide)

theorem filesIn_linkedDisk : linkedDisk.filesIn "/s/docs" = [["a.md".toList]] :=
  List.mergeSort_of_pairwise (by decide)

open Catalog (sampleSite)

/-- The link is broken, but it does not count. -/
theorem check_linkedDisk :
    ∃ catalog, (sampleSite.check linkedDisk true).result = .ok catalog := by
  have hdocs : (Catalog.siteDocuments linkedDisk sampleSite).result
      = .ok [Catalog.documentOf sampleSite "/s/docs" "a.md" "[m](out/site.json)"] :=
    Catalog.siteDocuments_of_files (by decide) (by decide) filesIn_linkedDisk rfl
  have hsidebars : (Catalog.siteSidebars linkedDisk sampleSite).result = .ok {} := by rfl
  exact ⟨_, check_lenient_of_documents hdocs (List.pairwise_singleton _ _) hsidebars⟩

theorem build_linkedDisk :
    (sampleSite.build linkedDisk true (some "docs/out")).2.result
      = .ok "/s/docs/out/site.json" := by
  obtain ⟨catalog, hcheck⟩ := check_linkedDisk
  rw [(build_of_check_ok _ hcheck).2]
  rfl

theorem length_docs_of_text (h : (Manifest.ofCatalog site catalog').text
    = (Manifest.ofCatalog site catalog).text) : catalog'.docs.length = catalog.docs.length := by
  have hjson := Json.pretty_injective h
  simp only [Manifest.toJson, Manifest.ofCatalog, Json.obj.injEq, List.cons.injEq, Prod.mk.injEq,
    Json.arr.injEq, true_and] at hjson
  simpa using congrArg List.length hjson.1

/-- The disk after a build into the directory `build`, with what was made on a detour. -/
def builtDisk (detour : List (Place × Node)) (text : String) : Disk where
  nodes := (["s".toList, "build".toList, "site.json".toList], .file (.text text)) ::
    (["s".toList, "build".toList], .directory) :: detour ++ linkedDisk.nodes

/-- A site whose documents are found only on the disk that the first build leaves. -/
theorem build_differs
    (hdocs : (Catalog.siteDocuments linkedDisk site).result = .ok [])
    (hdocs' : ∀ text, ∃ d, (Catalog.siteDocuments (builtDisk [] text) site).result = .ok [d])
    (hsidebars : (Catalog.siteSidebars linkedDisk site).result = .ok {})
    (hsidebars' : ∀ text, (Catalog.siteSidebars (builtDisk [] text) site).result = .ok {})
    (hemit : ∀ catalog, (site.emit linkedDisk catalog (site.join defaultOutput)).1
        = builtDisk [] (Manifest.ofCatalog site catalog).text ∧
      (site.emit linkedDisk catalog (site.join defaultOutput)).2.result = .ok path)
    (hemit' : ∀ text catalog, (site.emit (builtDisk [] text) catalog (site.join defaultOutput)).1
      = builtDisk [] (Manifest.ofCatalog site catalog).text) :
    (site.build linkedDisk true none).2.result = .ok path ∧
      (site.build (site.build linkedDisk true none).1 true none).1
        ≠ (site.build linkedDisk true none).1 := by
  have hcheck := check_lenient_of_documents hdocs .nil hsidebars
  obtain ⟨hdisk, hresult⟩ := build_of_check_ok none hcheck
  obtain ⟨hmade, hpath⟩ := hemit ⟨[], {}, _⟩
  rw [hdisk.trans hmade, hresult.trans hpath]
  refine ⟨rfl, ?_⟩
  obtain ⟨d, hd⟩ := hdocs' (Manifest.ofCatalog site ⟨[], {}, _⟩).text
  have hcheck' := check_lenient_of_documents hd (List.pairwise_singleton _ d) (hsidebars' _)
  obtain ⟨hdisk', -⟩ := build_of_check_ok none hcheck'
  rw [hdisk'.trans (hemit' _ _)]
  intro hsame
  have hnode := congrArg (Disk.get? · ["s".toList, "build".toList, "site.json".toList]) hsame
  have htext := FileData.text.inj (Node.file.inj (Option.some.inj hnode))
  exact absurd (length_docs_of_text htext) (by simp)

theorem siteDocuments_builtDisk (text : String)
    (hdir : (builtDisk [] text).normalize "/" (site.join site.settings.docs.path) = "/s/docs") :
    (Catalog.siteDocuments (builtDisk [] text) site).result
      = .ok [Catalog.documentOf site "/s/docs" "a.md" "[m](out/site.json)"] := by
  have hfiles : (builtDisk [] text).filesIn "/s/docs" = [["a.md".toList]] :=
    List.mergeSort_of_pairwise (List.pairwise_singleton _ ["a.md".toList])
  exact Catalog.siteDocuments_of_files hdir rfl hfiles rfl

/-- Settings that are not accepted: the documents directory is behind the output directory. -/
def climbingSite : Site :=
  { sampleSite with settings := { sampleSite.settings with docs := { path := "build/../docs" } } }

/-- A root that is not there before the first build. -/
def floatingSite : Site := { sampleSite with root := "/s/build/.." }

/-- A site whose sidebar file is where the output directory is. -/
def shadowedSite : Site :=
  { sampleSite with settings := { sampleSite.settings with docs := { sidebar := "build" } } }

/-- The directory `x` of a detour. -/
def detour : List (Place × Node) := [(["s".toList, "x".toList], .directory)]

theorem load_shadowedSite (text : String) :
    ∃ e, (Catalog.load (builtDisk detour text) shadowedSite).result = .error e := by
  cases hload : (Catalog.load (builtDisk detour text) shadowedSite).result with
  | error e => exact ⟨e, rfl⟩
  | ok catalog =>
    obtain ⟨docs, sidebars, index, -, hsidebars, -⟩ := Catalog.load_eq_ok_iff.1 hload
    have herror : (Catalog.siteSidebars (builtDisk detour text) shadowedSite).result
        = .error (.sidebarsUnread "/s/build" .isDirectory) := by rfl
    rw [herror] at hsidebars
    cases hsidebars

theorem build_shadowedSite :
    ∃ text, (shadowedSite.build linkedDisk true (some "x/../build")).1 = builtDisk detour text ∧
      (shadowedSite.build linkedDisk true (some "x/../build")).2.result
        = .ok "/s/x/../build/site.json" := by
  have hdocs : (Catalog.siteDocuments linkedDisk shadowedSite).result
      = .ok [Catalog.documentOf shadowedSite "/s/docs" "a.md" "[m](out/site.json)"] :=
    Catalog.siteDocuments_of_files (by decide) (by decide) filesIn_linkedDisk rfl
  have hsidebars : (Catalog.siteSidebars linkedDisk shadowedSite).result = .ok {} := by rfl
  have hcheck := check_lenient_of_documents hdocs (List.pairwise_singleton _ _) hsidebars
  obtain ⟨hdisk, hresult⟩ := build_of_check_ok (some "x/../build") hcheck
  exact ⟨_, hdisk.trans rfl, hresult.trans rfl⟩

end Site

end DocAtlas
