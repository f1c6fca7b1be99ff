-- SUMMARY: A file that is written beside the documents of a site changes neither its documents nor its sidebars.
import DocAtlas.Proofs.Catalog.Load
import DocAtlas.Proofs.Disk.Writing

/-! # Catalogues of growing disks

A file is written and directories are made for it, perhaps among the documents,
pages or static files of a site. Where the file is no document itself, and the
sidebar file is neither it nor a directory on its way, the site has the same
documents and sidebars as before, and at least the same routes. -/

namespace DocAtlas

open Text

namespace Disk

variable {d d' : Disk} {p q target : Place} {dir path text : String}

/-! ## Trees -/

/-- Everything on the disk lies in a directory that is there, and there are no links. -/
structure IsTree (d : Disk) : Prop extends d.WellFormed where
  around : ∀ p n, d.get? p = some n → ∀ q, q <+: p → q ≠ p → d.get? q = some .directory
  linkless : d.Linkless

theorem isTree_of_nodes (hd : d.WellFormed) (hlinks : d.Linkless)
    (h : ∀ e ∈ d.nodes, ∀ q ∈ e.1.inits, q ≠ e.1 → d.get? q = some .directory) : d.IsTree := by
  refine ⟨hd, fun p n hn q hq hne => ?_, hlinks⟩
  have hp : p ≠ [] := by
    rintro rfl
    exact hne (List.prefix_nil.1 hq)
  rw [get?, if_neg hp] at hn
  obtain ⟨e, he, -⟩ := Option.map_eq_some_iff.1 hn
  obtain rfl : e.1 = p := by simpa using List.find?_some he
  exact h e (List.mem_of_find?_eq_some he) q ((List.mem_inits _ _).2 hq) hne

/-- A path without `..` can be followed on any disk that has the directories down to its end. -/
theorem follow_of_follow {path : List FileName} (hd : d.Linkless) (hd' : d'.Linkless)
    (hup : ['.', '.'] ∉ path) (h : d'.follow p path = .ok q)
    (hdirs : ∀ r, r <+: q → d'.get? r = some .directory → d.get? r = some .directory) :
    d.follow p path = .ok q := by
  induction path generalizing p with
  | nil =>
    rw [follow_nil] at h ⊢
    exact h
  | cons piece rest ih =>
    obtain ⟨next, hstep, hrest⟩ := hd'.follow_cons.1 h
    rw [List.mem_cons, not_or] at hup
    refine hd.follow_cons.2 ⟨next, ?_, ih hup.2 hrest⟩
    have hq := hd'.eq_append_of_follow (List.not_mem_cons_of_ne_of_not_mem hup.1 hup.2) h
    have hdir := (step_cases hstep).1
    have hdir' := hdirs p (hq ▸ List.prefix_append p _) hdir
    unfold step at hstep ⊢
    rw [hdir] at hstep
    rw [hdir']
    exact hstep

/-! ## A published file -/

namespace Publishes

variable (h : d.Publishes d' dir path target text)

include h

theorem get?_eq (hq : q ≠ target) (hsome : d.get? q ≠ none) : d'.get? q = d.get? q :=
  (h.others q hq).resolve_right fun hnew => hsome hnew.1

theorem keepsWays : d.KeepsWays d' where
  directories := by
    intro q hq
    rw [h.get?_eq (fun e => h.before (e ▸ hq)) (by simp [hq]), hq]
  links := h.links

theorem exists_file {data : FileData} (hq : d.get? q = some (.file data)) :
    ∃ data', d'.get? q = some (.file data') := by
  by_cases hplace : q = target
  · exact ⟨_, hplace ▸ h.file⟩
  · exact ⟨data, (h.get?_eq hplace (by simp [hq])).trans hq⟩

theorem isFile {file : String} (hfile : d.isFile file = true) : d'.isFile file = true := by
  unfold Disk.isFile at hfile
  split at hfile
  next q data hfind =>
    obtain ⟨hplace, hget, hends⟩ := find_eq_ok_iff.1 hfind
    obtain ⟨data', hdata'⟩ := h.exists_file hget
    have hfind' : d'.find file = .ok (q, .file data') :=
      find_eq_ok_iff.2 ⟨h.keepsWays.place hplace, hdata', fun e => nomatch hends e⟩
    simp [Disk.isFile, hfind']
  next => cases hfile

/-- Texts in other files are read as before. -/
theorem readText {file source : String} (hother : d.place file ≠ .ok target)
    (hread : d.readText file = .ok source) : d'.readText file = .ok source := by
  obtain ⟨q, hfind⟩ := readText_eq_ok_iff.1 hread
  obtain ⟨hplace, hget, hends⟩ := find_eq_ok_iff.1 hfind
  have hq : q ≠ target := fun e => hother (e ▸ hplace)
  have hget' : d'.get? q = some (.file (.text source)) :=
    (h.get?_eq hq (by simp [hget])).trans hget
  exact readText_eq_ok_iff.2
    ⟨_, find_eq_ok_iff.2 ⟨h.keepsWays.place hplace, hget', hends⟩⟩

theorem isOpen_eq (p rel : Place) : d'.isOpen p rel = d.isOpen p rel := by
  rw [Bool.eq_iff_iff, isOpen_iff, isOpen_iff, h.closed]

theorem hasFile {base : String} {rel : Place} (hfile : d.HasFile base rel) :
    d'.HasFile base rel := by
  obtain ⟨p, data, hfind, hget, hopen⟩ := hfile
  obtain ⟨data', hdata'⟩ := h.exists_file hget
  exact ⟨p, data', h.keepsWays.find_directory hfind, hdata', h.isOpen_eq p rel ▸ hopen⟩

/-- The files apart from the published one are those from before. -/
theorem get?_eq_file_iff {data : FileData} (hq : q ≠ target) :
    d'.get? q = some (.file data) ↔ d.get? q = some (.file data) := by
  rcases h.others q hq with hsame | ⟨hnone, hdir, -⟩
  · rw [hsame]
  · simp [hnone, hdir]

end Publishes

/-! ## Listing in order -/

theorem pairwise_filesIn (d : Disk) (dir : String) :
    (d.filesIn dir).Pairwise fun a b => ¬ b < a := by
  unfold filesIn
  split
  next p _ =>
    refine (List.pairwise_mergeSort ?_ ?_ _).imp fun hab => by simpa using hab
    · intro a b c hab hbc
      simp only [Bool.not_eq_true', decide_eq_false_iff_not] at hab hbc ⊢
      exact List.le_trans hab hbc
    · intro a b
      simp only [Bool.or_eq_true, Bool.not_eq_true', decide_eq_false_iff_not]
      exact List.le_total a b
  next => exact List.Pairwise.nil

end Disk

/-! ## Paths of a site -/

/-- The root of the site is there, or it lies where it does whatever is made on the disk. -/
def Site.IsSettled (site : Site) (disk : Disk) : Prop :=
  disk.isDirectory site.root = true ∨ ['.', '.'] ∉ Disk.pieces site.root

theorem Demand.StaysBelow.dots_not_mem {path : String} (h : StaysBelow path) :
    ['.', '.'] ∉ Disk.pieces path := by
  intro hmem
  exact h.2.2 (Path.parent_mem_components_iff.2 (List.mem_of_mem_filter hmem))

/-- What a path of the site leads to afterwards it led to before, if it was there. -/
theorem Disk.Publishes.find_of_find {d d' : Disk} {dir path text rel : String} {site : Site}
    {q target : Place} {n : Node} (h : d.Publishes d' dir path target text) (htree : d.IsTree)
    (hroot : site.IsSettled d) (hrel : Demand.StaysBelow rel)
    (hfind : d'.find (site.join rel) = .ok (q, n)) (hq : d.get? q = some n) :
    d.find (site.join rel) = .ok (q, n) := by
  obtain ⟨hplace, hget, hends⟩ := Disk.find_eq_ok_iff.1 hfind
  refine Disk.find_eq_ok_iff.2 ⟨?_, hq, hends⟩
  have hdirs : ∀ r, r <+: q → d'.get? r = some .directory → d.get? r = some .directory := by
    intro r hr hdir
    by_cases heq : r = q
    · rw [heq, hget] at hdir
      rw [heq, hq, hdir]
    · exact htree.around q n hq r hr heq
  have hlinks' := h.keepsWays.linkless htree.linkless
  rw [Disk.place, Site.join, Disk.pieces_join hrel.2.1] at hplace ⊢
  rcases hroot with hroot | hroot
  · obtain ⟨r, hr⟩ := Disk.isDirectory_iff.1 hroot
    obtain ⟨hplace_root, -, -⟩ := Disk.find_eq_ok_iff.1 hr
    obtain ⟨m, hm, hrest⟩ := hlinks'.follow_append.1 hplace
    obtain rfl := Except.ok.inj (hm.symm.trans (h.keepsWays.place hplace_root))
    refine htree.linkless.follow_append.2 ⟨m, hplace_root, ?_⟩
    exact Disk.follow_of_follow htree.linkless hlinks' hrel.dots_not_mem hrest hdirs
  · refine Disk.follow_of_follow htree.linkless hlinks' ?_ hplace hdirs
    rw [List.mem_append, not_or]
    exact ⟨hroot, hrel.dots_not_mem⟩

/-! ## Documents -/

namespace Catalog

variable {disk disk' : Disk} {site : Site} {dir path text base : String} {target : Place}

/-- Sources are listed alike where they are the same. -/
theorem listedSources_eq (hd : disk.WellFormed) (hd' : disk'.WellFormed) {extensions : List String}
    (hext : ∀ e ∈ extensions, '.' ∉ e.toList)
    (h : ∀ rel, IsSource extensions rel → (disk'.HasFile base rel ↔ disk.HasFile base rel)) :
    listedSources disk' base extensions = listedSources disk base extensions := by
  have hantisymm (a b : Place) (hab : ¬ b < a) (hba : ¬ a < b) : a = b :=
    List.le_antisymm hab hba
  refine List.Perm.eq_of_pairwise (fun a b _ _ => hantisymm a b)
    ((disk'.pairwise_filesIn base).filter _) ((disk.pairwise_filesIn base).filter _) ?_
  rw [List.perm_ext_iff_of_nodup (nodup_listedSources hd' _ _) (nodup_listedSources hd _ _)]
  intro rel
  rw [mem_listedSources hd' hext, mem_listedSources hd hext]
  constructor
  · rintro ⟨hfile, hsource⟩
    exact ⟨(h rel hsource).1 hfile, hsource⟩
  · rintro ⟨hfile, hsource⟩
    exact ⟨(h rel hsource).2 hfile, hsource⟩

/-- Documents below a directory are read as before, where the published file is none. -/
theorem documents_eq (h : disk.Publishes disk' dir path target text) (hd : disk.WellFormed)
    (hlinks : disk.Linkless) (hd' : disk'.WellFormed) {p : Place}
    (hfind : disk.find p.path = .ok (p, .directory))
    (hname : ∀ rel, IsSource docExtensions rel → p ++ rel ≠ target)
    {docs : List Document} (hdocs : documents disk site p.path = .ok docs) :
    documents disk' site p.path = .ok docs := by
  have hfind' := h.keepsWays.find_directory hfind
  have hsame :
      listedSources disk' p.path docExtensions = listedSources disk p.path docExtensions := by
    refine listedSources_eq hd hd' (by decide) fun rel hrel => ⟨?_, h.hasFile⟩
    rintro ⟨p', data, hp', hget, hopen⟩
    obtain ⟨rfl, -⟩ := Prod.mk.inj (Except.ok.inj (hfind'.symm.trans hp'))
    exact ⟨p, data, hfind, (h.get?_eq_file_iff (hname rel hrel)).1 hget,
      h.isOpen_eq p rel ▸ hopen⟩
  rw [documents, filter_sourcesIn, mapM_eq_ok_iff, List.forall₂_map_left_iff] at hdocs ⊢
  rw [hsame]
  have hmem : ∀ rel ∈ listedSources disk p.path docExtensions, disk.HasFile p.path rel ∧
      IsSource docExtensions rel := fun rel => (mem_listedSources hd (by decide)).1
  refine ((List.forall₂_and_left _ _).2 ⟨hmem, hdocs⟩).imp ?_
  intro rel d hrel
  obtain ⟨⟨hfile, hsource⟩, hread⟩ := hrel
  have hplain := hfile.isPlain_append hd hfind fun name hn => (hsource.1 name hn).1
  unfold readDocument at hread ⊢
  dsimp only at hread ⊢
  split at hread
  next => cases hread
  next source hsourceText =>
    have hother : disk.place (Path.join p.path (Disk.relativePath rel)) ≠ .ok target := by
      intro hplace
      have htarget := hlinks.place_eq_ofPath hplace
      rw [Disk.relativePath, Place.join_path hplain hfile.ne_nil, Place.ofPath_path hplain] at htarget
      exact hname rel hsource htarget.symm
    rw [h.readText hother hsourceText]
    exact hread

theorem siteDocuments_eq (h : disk.Publishes disk' dir path target text) (htree : disk.IsTree)
    (hd' : disk'.WellFormed) (hroot : site.IsSettled disk)
    (hdocs : Demand.StaysBelow site.settings.docs.path)
    (hname : ∀ p rel, IsSource docExtensions rel → p ++ rel ≠ target)
    {docs : List Document} (hload : (siteDocuments disk site).result = .ok docs) :
    (siteDocuments disk' site).result = .ok docs := by
  have hpath : site.join site.settings.docs.path ≠ "" := Path.join_ne_empty hdocs.1
  simp only [siteDocuments, Disk.isDirectory_normalize hpath] at hload ⊢
  split at hload
  next hdir =>
    obtain ⟨p, hfind⟩ := Disk.isDirectory_iff.1 hdir
    have hfind' := h.keepsWays.find_directory hfind
    rw [if_pos (Disk.isDirectory_iff.2 ⟨p, hfind'⟩), Disk.normalize_of_find hpath hfind',
      Told.result_ofExcept]
    rw [Disk.normalize_of_find hpath hfind, Told.result_ofExcept] at hload
    obtain ⟨-, hreached, hget⟩ := Disk.reached_of_find hfind
    exact documents_eq h htree.toWellFormed htree.linkless hd' (hreached.find_path hget) (hname p) hload
  next hdir =>
    obtain ⟨_, -, hnil⟩ := Told.result_bind_eq_ok.1 hload
    obtain rfl := Except.ok.inj hnil
    split
    next hdir' =>
      -- the directory is new, so that no file but the published one lies below it
      obtain ⟨p, hfind'⟩ := Disk.isDirectory_iff.1 hdir'
      obtain ⟨-, hreached, hget⟩ := Disk.reached_of_find hfind'
      have hnone : listedSources disk' p.path docExtensions = [] := by
        refine List.eq_nil_iff_forall_not_mem.2 fun rel hrel => ?_
        obtain ⟨hfile, hsource⟩ := (mem_listedSources hd' (by decide)).1 hrel
        have hne := hfile.ne_nil
        obtain ⟨p', data, hp', hdata, -⟩ := hfile
        obtain ⟨rfl, -⟩ := Prod.mk.inj (Except.ok.inj ((hreached.find_path hget).symm.trans hp'))
        have hbefore := (h.get?_eq_file_iff (hname p rel hsource)).1 hdata
        have hp := htree.around _ _ hbefore p (List.prefix_append p rel) (by simpa using hne)
        exact hdir (Disk.isDirectory_iff.2 ⟨p, h.find_of_find htree hroot hdocs hfind' hp⟩)
      rw [Disk.normalize_of_find hpath hfind', Told.result_ofExcept, documents, filter_sourcesIn,
        hnone]
      rfl
    next => rfl

/-! ## Sidebars and routes -/

theorem siteSidebars_eq (h : disk.Publishes disk' dir path target text) (htree : disk.IsTree)
    (hroot : site.IsSettled disk) (hsidebar : Demand.StaysBelow site.settings.docs.sidebar)
    (hdir : Place.way dir ⊆ Place.way path)
    (hother : Place.ofPath (site.join site.settings.docs.sidebar) ∉ Place.way path)
    {sidebars : Sidebars} (hload : (siteSidebars disk site).result = .ok sidebars) :
    (siteSidebars disk' site).result = .ok sidebars := by
  have hlinks' := h.keepsWays.linkless htree.linkless
  have hne : Place.ofPath (site.join site.settings.docs.sidebar) ≠ target := by
    intro e
    rw [hlinks'.place_eq_ofPath h.place] at e
    exact hother (e ▸ Place.ofPath_mem_way path)
  unfold siteSidebars at hload ⊢
  dsimp only at hload ⊢
  by_cases hholds : disk.holds (site.join site.settings.docs.sidebar) = true
  · simp only [hholds, Bool.not_true, Bool.false_eq_true, if_false] at hload
    cases hread : disk.readText (site.join site.settings.docs.sidebar) with
    | error fault => rw [hread] at hload; cases hload
    | ok source =>
      have hread' := h.readText
        (fun hplace => hne (htree.linkless.place_eq_ofPath hplace).symm) hread
      obtain ⟨q, hfind'⟩ := Disk.readText_eq_ok_iff.1 hread'
      have hholds' : disk'.holds (site.join site.settings.docs.sidebar) = true := by
        rw [Disk.holds, hfind']
        rfl
      rw [hread] at hload
      simp only [hholds', hread', Bool.not_true, Bool.false_eq_true, if_false]
      exact hload
  · have hholds' : disk'.holds (site.join site.settings.docs.sidebar) = false := by
      cases hfind' : disk'.find (site.join site.settings.docs.sidebar) with
      | error fault => rw [Disk.holds, hfind']; rfl
      | ok found =>
        obtain ⟨q, n⟩ := found
        obtain ⟨hplace, hget, -⟩ := Disk.find_eq_ok_iff.1 hfind'
        obtain rfl := hlinks'.place_eq_ofPath hplace
        -- the place is not new, so that the file was there before
        have hsame := (h.others _ hne).resolve_right fun hnew =>
          hother (hdir (hlinks'.mem_way_of_passes hnew.2.2))
        have hfind := h.find_of_find htree hroot hsidebar hfind' (hsame ▸ hget)
        exact absurd (by rw [Disk.holds, hfind]; rfl) hholds
    simp only [hholds, hholds', Bool.not_false, if_true] at hload ⊢
    exact hload

theorem pageRoutes_subset (h : disk.Publishes disk' dir path target text) (hd : disk.WellFormed)
    (hd' : disk'.WellFormed) : pageRoutes disk site ⊆ pageRoutes disk' site := by
  intro route hroute
  obtain ⟨rel, hfile, hsource, rfl⟩ := (mem_pageRoutes hd).1 hroute
  exact (mem_pageRoutes hd').2 ⟨rel, h.hasFile hfile, hsource, rfl⟩

theorem staticRoutes_subset (h : disk.Publishes disk' dir path target text) (hd : disk.WellFormed)
    (hd' : disk'.WellFormed) : staticRoutes disk site ⊆ staticRoutes disk' site := by
  intro route hroute
  obtain ⟨base, hbase, rel, hfile, hlisted, rfl⟩ := (mem_staticRoutes hd).1 hroute
  exact (mem_staticRoutes hd').2 ⟨base, hbase, rel, h.hasFile hfile, hlisted, rfl⟩

/-! ## Catalogues -/

theorem load_eq_ok_iff {c : Catalog} :
    (load disk site).result = .ok c ↔
      ∃ docs sidebars index, (siteDocuments disk site).result = .ok docs ∧
        (siteSidebars disk site).result = .ok sidebars ∧ ofDocuments docs sidebars = .ok index ∧
        index.addRoutes (pageRoutes disk site ++ staticRoutes disk site) = c := by
  have hindex {docs sidebars index} :
      (Told.ofExcept ((ofDocuments docs sidebars).mapError Failure.duplicate)).result = .ok index ↔
        ofDocuments docs sidebars = .ok index := by
    rw [Told.result_ofExcept]
    cases ofDocuments docs sidebars <;> simp [Except.mapError]
  unfold load
  simp only [Told.result_bind_eq_ok, hindex]
  constructor
  · rintro ⟨docs, hdocs, sidebars, hsidebars, index, hindex, _, -, hc⟩
    exact ⟨docs, sidebars, index, hdocs, hsidebars, hindex, Except.ok.inj hc⟩
  · rintro ⟨docs, sidebars, index, hdocs, hsidebars, hindex, rfl⟩
    exact ⟨docs, hdocs, sidebars, hsidebars, index, hindex, (), rfl, rfl⟩

/-- The catalogue has the same documents and sidebars as before, and at least the same routes. -/
theorem load_of_publishes (h : disk.Publishes disk' dir path target text) (htree : disk.IsTree)
    (hd' : disk'.WellFormed) (hroot : site.IsSettled disk) (hsettings : site.settings.findings = [])
    (hname : ∀ p rel, IsSource docExtensions rel → p ++ rel ≠ target)
    (hdir : Place.way dir ⊆ Place.way path)
    (hother : Place.ofPath (site.join site.settings.docs.sidebar) ∉ Place.way path)
    {c : Catalog} (hload : (load disk site).result = .ok c) :
    ∃ c', (load disk' site).result = .ok c' ∧ c'.docs = c.docs ∧ c'.sidebars = c.sidebars ∧
      c.otherRoutes ⊆ c'.otherRoutes := by
  have hdemands := Settings.docs_demands_met hsettings
  have hdocsPath : Demand.StaysBelow site.settings.docs.path := hdemands _ List.mem_cons_self
  have hsidebarPath : Demand.StaysBelow site.settings.docs.sidebar :=
    hdemands ⟨⟨"docs.sidebar"⟩, _⟩ (.tail _ (.head _))
  obtain ⟨docs, sidebars, index, hdocs, hsidebars, hindex, rfl⟩ := load_eq_ok_iff.1 hload
  have hdocs' := siteDocuments_eq h htree hd' hroot hdocsPath hname hdocs
  have hsidebars' := siteSidebars_eq h htree hroot hsidebarPath hdir hother hsidebars
  refine ⟨_, load_eq_ok_iff.2 ⟨docs, sidebars, index, hdocs', hsidebars', hindex, rfl⟩, ?_⟩
  simp only [addRoutes, true_and]
  intro route hroute
  rw [List.mem_append, List.mem_append] at hroute ⊢
  exact hroute.imp_right (Or.imp (fun hr => pageRoutes_subset h htree.toWellFormed hd' hr)
    fun hr => staticRoutes_subset h htree.toWellFormed hd' hr)

end Catalog

end DocAtlas
