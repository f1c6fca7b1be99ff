-- SUMMARY: A build changes the disk by its manifest and the directories around it, and only after a passing check.
import DocAtlas.Build
import DocAtlas.Proofs.Audit.Check
import DocAtlas.Proofs.Catalog.Load
import DocAtlas.Proofs.Disk.Writing

/-! # What a build writes

A failed check leaves the disk alone. After a passing one, directories are added
on the way to the output directory, and the manifest is written there. Where a
link is met, both go on at its target. -/

namespace DocAtlas

namespace Site

variable {disk : Disk} {site : Site} {lenient : Bool} {catalog : Catalog} {dir : String}
  {output : Option String}

theorem plain_manifestFile : Path.Plain manifestFile := by decide

/-- The two ways in which a manifest is written or not. -/
theorem emit_cases (disk : Disk) (site : Site) (catalog : Catalog) (dir : String) :
    (∃ e, disk.Adds (site.emit disk catalog dir).1 dir ∧
      (site.emit disk catalog dir).2.result = .error e) ∨
    ∃ d target, disk.Adds d dir ∧ (∃ p, d.find dir = .ok (p, .directory)) ∧
      d.place (Path.join dir manifestFile) = .ok target ∧ d.get? target ≠ some .directory ∧
      (site.emit disk catalog dir).1
        = d.set target (.file (.text (Manifest.ofCatalog site catalog).text)) ∧
      (site.emit disk catalog dir).2.result = .ok (Path.join dir manifestFile) := by
  have hadds := disk.makeDirectories_adds dir
  have hfind := @Disk.find_makeDirectories disk dir
  unfold emit
  split
  next d fault hmade =>
    rw [hmade] at hadds
    exact .inl ⟨_, hadds, rfl⟩
  next d hmade =>
    rw [hmade] at hadds hfind
    dsimp only
    split
    next fault hwrite => exact .inl ⟨_, hadds, rfl⟩
    next d' hwrite =>
      obtain ⟨target, hplace, hget, rfl⟩ := Disk.write_eq_ok_iff.1 hwrite
      exact .inr ⟨d, target, hadds, hfind rfl, hplace, hget, rfl, rfl⟩

/-- What is on the disk before stays, apart from a file that the path of the manifest leads to. -/
theorem get?_emit {q : Place} {node : Node} (h : disk.get? q = some node)
    (hq : (site.emit disk catalog dir).1.place (Path.join dir manifestFile) ≠ .ok q) :
    (site.emit disk catalog dir).1.get? q = some node := by
  obtain ⟨e, hadds, -⟩ | ⟨d, target, hadds, -, hplace, hget, hset, -⟩ :=
    emit_cases disk site catalog dir
  · exact hadds.get?_eq_some h
  · rw [hset] at hq ⊢
    have hother : q ≠ target := by
      rintro rfl
      exact hq ((Disk.keepsWays_set hget).place hplace)
    rw [Disk.get?_set_of_ne hother]
    exact hadds.get?_eq_some h

theorem links_emit :
    (site.emit disk catalog dir).1.links = disk.links ∧
      (site.emit disk catalog dir).1.closed = disk.closed := by
  obtain ⟨e, hadds, -⟩ | ⟨d, target, hadds, -, -, -, hset, -⟩ := emit_cases disk site catalog dir
  · exact ⟨hadds.links, hadds.closed⟩
  · rw [hset]
    exact ⟨hadds.links, hadds.closed⟩

theorem publishes_emit {written : String}
    (h : (site.emit disk catalog dir).2.result = .ok written) :
    written = Path.join dir manifestFile ∧
      ∃ target, disk.Publishes (site.emit disk catalog dir).1 dir (Path.join dir manifestFile) target
        (Manifest.ofCatalog site catalog).text := by
  obtain ⟨e, -, herror⟩ | ⟨d, target, hadds, ⟨p, hfind⟩, hplace, hget, hset, hresult⟩ :=
    emit_cases disk site catalog dir
  · rw [herror] at h
    cases h
  · rw [hresult] at h
    refine ⟨(Except.ok.inj h).symm, target, ?_⟩
    rw [hset]
    have hne : target ≠ [] := fun e => hget (by rw [e]; rfl)
    have hkeeps : d.KeepsWays
        (d.set target (.file (.text (Manifest.ofCatalog site catalog).text))) :=
      Disk.keepsWays_set hget
    have hfile := Disk.find_eq_ok_iff.2 ⟨hkeeps.place hplace, Disk.get?_set_self hne,
      fun e => absurd e (by simp [plain_manifestFile.endsAsDirectory_join])⟩
    have hbefore : disk.get? target ≠ some .directory :=
      fun hdir => hget (hadds.get?_eq_some hdir)
    refine ⟨hkeeps.place hplace, hbefore, Disk.get?_set_self hne, ?_, ?_, ?_, hadds.links,
      hadds.closed⟩
    · exact Disk.readText_eq_ok_iff.2 ⟨target, hfile⟩
    · exact fun front => Disk.exists_directory_of_find (hkeeps.find_directory hfind)
    · intro q hq
      rw [Disk.get?_set_of_ne hq]
      exact (hadds.get? q).imp_right fun ⟨hnone, hdir, hpasses⟩ =>
        ⟨hnone, hdir, hkeeps.passes hpasses⟩

/-- Where broken links do not count, a site is checked once it is loaded. -/
theorem check_lenient_of_documents {docs : List Document} {sidebars : Sidebars}
    (hdocs : (Catalog.siteDocuments disk site).result = .ok docs)
    (hids : docs.Pairwise (·.id < ·.id))
    (hsidebars : (Catalog.siteSidebars disk site).result = .ok sidebars) :
    (site.check disk true).result
      = .ok ⟨docs, sidebars, Catalog.pageRoutes disk site ++ Catalog.staticRoutes disk site⟩ :=
  check_eq_ok_iff.2
    ⟨Catalog.load_of_documents hdocs hids hsidebars, Report.not_fails_softened _ _⟩

theorem build_of_check_error (output : Option String) {e : Failure}
    (h : (site.check disk lenient).result = .error e) :
    (site.build disk lenient output).1 = disk ∧
      (site.build disk lenient output).2.result = .error e := by
  unfold build
  generalize site.check disk lenient = checked at h
  simp only [h, and_self]

theorem build_of_check_ok (output : Option String)
    (h : (site.check disk lenient).result = .ok catalog) :
    (site.build disk lenient output).1
        = (site.emit disk catalog (site.join (output.getD defaultOutput))).1 ∧
      (site.build disk lenient output).2.result
        = (site.emit disk catalog (site.join (output.getD defaultOutput))).2.result := by
  unfold build
  generalize site.check disk lenient = checked at h
  simp only [h, and_self]

/-- The two ways in which a build goes on from its check. -/
theorem build_cases (disk : Disk) (site : Site) (lenient : Bool) (output : Option String) :
    (∃ e, (site.build disk lenient output).1 = disk ∧
      (site.build disk lenient output).2.result = .error e) ∨
    ∃ catalog, (Catalog.load disk site).result = .ok catalog ∧
      (site.build disk lenient output).1
        = (site.emit disk catalog (site.join (output.getD defaultOutput))).1 ∧
      (site.build disk lenient output).2.result
        = (site.emit disk catalog (site.join (output.getD defaultOutput))).2.result := by
  cases hcheck : (site.check disk lenient).result with
  | error e => exact .inl ⟨e, build_of_check_error output hcheck⟩
  | ok catalog =>
    exact .inr ⟨catalog, (check_eq_ok_iff.1 hcheck).1, build_of_check_ok output hcheck⟩

/-- A build that succeeds where broken links count does the same where they do not. -/
theorem build_lenient {output : Option String} {written : String}
    (h : (site.build disk false output).2.result = .ok written) :
    (site.build disk true output).1 = (site.build disk false output).1 ∧
      (site.build disk true output).2.result = .ok written := by
  cases hcheck : (site.check disk false).result with
  | error e =>
    rw [(build_of_check_error output hcheck).2] at h
    cases h
  | ok catalog =>
    obtain ⟨hload, -⟩ := check_eq_ok_iff.1 hcheck
    have hlenient : (site.check disk true).result = .ok catalog :=
      check_eq_ok_iff.2 ⟨hload, Report.not_fails_softened _ _⟩
    obtain ⟨hdisk, hresult⟩ := build_of_check_ok output hcheck
    obtain ⟨hdisk', hresult'⟩ := build_of_check_ok output hlenient
    rw [hdisk', hdisk, hresult', ← hresult]
    exact ⟨rfl, h⟩

/-- A build whose check fails gives that failure and leaves the disk alone. In every outcome all that
is on the disk stays, apart from the file that the path of the manifest leads to. When the build
succeeds, this file has the manifest of the loaded catalogue, the directories that the path of the
output directory passes are there, and nothing else is new; without links the file is at the place
that the path names. Where broken links do not count, the build is the same. -/
theorem build_frame (disk : Disk) (site : Site) (lenient : Bool) (output : Option String) :
    let dir := site.join (output.getD defaultOutput)
    let path := Path.join dir manifestFile
    let after := site.build disk lenient output
    (∀ e, (Catalog.load disk site).result = .error e →
      (site.check disk lenient).result = .error e) ∧
    (∀ catalog, (Catalog.load disk site).result = .ok catalog →
      ((∃ e, (site.check disk lenient).result = .error e) ↔
        (Surroundings.mk site catalog disk).report.Fails (site.policies lenient))) ∧
    (∀ e, (site.check disk lenient).result = .error e →
      after.1 = disk ∧ after.2.result = .error e) ∧
    (∀ q node, disk.get? q = some node → after.1.place path ≠ .ok q →
      after.1.get? q = some node) ∧
    (after.1.links = disk.links ∧ after.1.closed = disk.closed) ∧
    (∀ written, after.2.result = .ok written → written = path ∧
      ∃ catalog target, (Catalog.load disk site).result = .ok catalog ∧
        disk.Publishes after.1 dir path target (Manifest.ofCatalog site catalog).text ∧
        (disk.Linkless → target = Place.ofPath path)) ∧
    ∀ written, (site.build disk false output).2.result = .ok written →
      (site.build disk true output).1 = (site.build disk false output).1 ∧
        (site.build disk true output).2.result = .ok written := by
  refine ⟨fun e => check_of_load_error, fun catalog => check_error_iff_fails,
    fun e => build_of_check_error output, ?_, ?_, ?_, fun written => build_lenient⟩
  · intro q node hq hother
    obtain ⟨e, hdisk, -⟩ | ⟨catalog, -, hdisk, -⟩ := build_cases disk site lenient output
    · rw [hdisk, hq]
    · rw [hdisk] at hother ⊢
      exact get?_emit hq hother
  · obtain ⟨e, hdisk, -⟩ | ⟨catalog, -, hdisk, -⟩ := build_cases disk site lenient output
    · rw [hdisk]
      exact ⟨rfl, rfl⟩
    · rw [hdisk]
      exact links_emit
  · intro written hwritten
    obtain ⟨e, -, hresult⟩ | ⟨catalog, hload, hdisk, hresult⟩ :=
      build_cases disk site lenient output
    · rw [hresult] at hwritten
      cases hwritten
    · rw [hresult] at hwritten
      obtain ⟨hpath, target, hpublishes⟩ := publishes_emit hwritten
      rw [hdisk]
      refine ⟨hpath, catalog, target, hload, hpublishes, fun hlinks => ?_⟩
      exact Disk.Linkless.place_eq_ofPath (hpublishes.links.trans hlinks) hpublishes.place

theorem head?_manifest (site : Site) (catalog : Catalog) :
    (Manifest.ofCatalog site catalog).text.toList.head? = some '\x7b' := by
  rw [Manifest.text, Json.pretty, String.toList_ofList, Manifest.toJson, Json.prettyChars]
  rfl

/-- A document, and a link to it where the manifest is written. -/
def redirectedDisk : Disk where
  nodes := [(["s".toList], .directory), (["s".toList, "docs".toList], .directory),
    (["s".toList, "docs".toList, "a.md".toList], .file (.text "a")),
    (["s".toList, "build".toList], .directory)]
  links := [(["s".toList, "build".toList, "site.json".toList], "../docs/a.md")]

open Catalog (sampleSite)

theorem check_redirectedDisk :
    ∃ catalog, (sampleSite.check redirectedDisk true).result = .ok catalog := by
  have hdocs : (Catalog.siteDocuments redirectedDisk sampleSite).result
      = .ok [Catalog.documentOf sampleSite "/s/docs" "a.md" "a"] := by
    have hfiles : redirectedDisk.filesIn "/s/docs" = [["a.md".toList]] :=
      List.mergeSort_of_pairwise (by decide)
    exact Catalog.siteDocuments_of_files (by decide) (by decide) hfiles rfl
  have hsidebars : (Catalog.siteSidebars redirectedDisk sampleSite).result = .ok {} := by rfl
  exact ⟨_, check_lenient_of_documents hdocs (List.pairwise_singleton _ _) hsidebars⟩

/-- A build can write its manifest over a document, through a link. By a detour it can make a
directory that is not around its manifest. -/
theorem build_beside_manifest :
    (let after := sampleSite.build redirectedDisk true none
      let document : Place := ["s".toList, "docs".toList, "a.md".toList]
      after.2.result = .ok "/s/build/site.json" ∧
        document ≠ Place.ofPath "/s/build/site.json" ∧
        redirectedDisk.get? document = some (.file (.text "a")) ∧
        after.1.get? document ≠ some (.file (.text "a"))) ∧
    let after := sampleSite.build redirectedDisk true (some "x/../out")
    let made : Place := ["s".toList, "x".toList]
    after.2.result = .ok "/s/x/../out/site.json" ∧
      ¬ made <+: Place.ofPath "/s/x/../out/site.json" ∧
      redirectedDisk.get? made = none ∧ after.1.get? made = some .directory := by
  obtain ⟨catalog, hcheck⟩ := check_redirectedDisk
  obtain ⟨hdisk, hresult⟩ := build_of_check_ok none hcheck
  obtain ⟨hdisk', hresult'⟩ := build_of_check_ok (some "x/../out") hcheck
  constructor
  · have hwritten : (sampleSite.emit redirectedDisk catalog (sampleSite.join defaultOutput)).1.get?
        ["s".toList, "docs".toList, "a.md".toList]
          = some (.file (.text (Manifest.ofCatalog sampleSite catalog).text)) := by rfl
    refine ⟨hresult.trans rfl, by decide, by decide, fun hkept => ?_⟩
    rw [hdisk] at hkept
    have htext := FileData.text.inj (Node.file.inj (Option.some.inj (hwritten.symm.trans hkept)))
    have hbrace := head?_manifest sampleSite catalog
    rw [htext] at hbrace
    exact absurd hbrace (by decide)
  · refine ⟨hresult'.trans rfl, by decide, by decide, ?_⟩
    rw [hdisk']
    rfl

end Site

end DocAtlas
