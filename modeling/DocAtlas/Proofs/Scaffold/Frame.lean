-- SUMMARY: Making a site changes nothing that is there, and a failure leaves the settings file unwritten, so that it can be made again.
import DocAtlas.Proofs.Catalog.Growth
import DocAtlas.Proofs.Scaffold.Starter
import DocAtlas.Site.Load

/-! # What making a site changes

Every step fills places that are free and leaves the others alone. The settings
file is not among the places of the steps before it, so it is missing until its
own step; the one step after that cannot fail any more. -/

namespace DocAtlas

open Text

/-! ## Places of a site -/

/-- A name at the root of a site is on the way of a path there only as its first piece. -/
theorem Place.isPrefix_of_mem_way {root path : String} {name : FileName}
    (hup : ['.', '.'] ∉ Disk.pieces root) (hpath : Path.Plain path)
    (h : ofPath root ++ [name] ∈ way (Path.join root path)) : [name] <+: Disk.pieces path := by
  obtain ⟨front, hfront, hplace⟩ := mem_way.1 h
  rw [Disk.pieces_join hpath.isAbsolute] at hfront
  rcases List.prefix_or_prefix_of_prefix hfront (List.prefix_append _ _) with hroot | ⟨rest, rfl⟩
  · -- on the way to the root the places are too short
    have hnone : ['.', '.'] ∉ front := fun hmem => hup (hroot.subset hmem)
    rw [ofPath, foldl_advance_of_no_parent hup, foldl_advance_of_no_parent hnone] at hplace
    have hlength := congrArg List.length hplace
    have hshort := (hroot.filter (· ≠ ['.'])).length_le
    simp only [List.nil_append, List.length_append, List.length_singleton] at hlength
    omega
  · rw [List.prefix_append_right_inj] at hfront
    have hrest : ∀ name ∈ rest, IsPlain name := fun name hn =>
      hpath.isPlain_of_mem_pieces name (hfront.subset hn)
    rw [List.foldl_append, foldl_advance_of_isPlain hrest] at hplace
    exact List.append_cancel_left hplace ▸ hfront

namespace Disk

variable {d d' d'' : Disk} {p : Place} {n : Node} {path text : String} {places places' : List Place}

/-! ## New nodes -/

/-- The second disk is the first with new nodes at some of the places. -/
structure Gains (d d' : Disk) (places : List Place) : Prop where
  get? : ∀ q, d'.get? q = d.get? q ∨ d.get? q = none ∧ q ∈ places
  links : d'.links = d.links

theorem Adds.gains (hd : d.Linkless) (h : d.Adds d' path) : d.Gains d' (Place.way path) where
  get? := fun q => (h.get? q).imp_right fun hnew =>
    ⟨hnew.1, (h.keepsWays.linkless hd).mem_way_of_passes hnew.2.2⟩
  links := h.links

theorem gains_set (h : d.get? p = none) : d.Gains (d.set p n) [p] := by
  refine ⟨fun q => ?_, rfl⟩
  by_cases hq : q = p
  · exact .inr ⟨hq ▸ h, List.mem_singleton.2 hq⟩
  · exact .inl (get?_set_of_ne hq)

namespace Gains

theorem refl (d : Disk) (places : List Place) : d.Gains d places := ⟨fun _ => .inl rfl, rfl⟩

theorem mono (h : d.Gains d' places) (hsub : places ⊆ places') : d.Gains d' places' :=
  ⟨fun q => (h.get? q).imp_right fun hnew => ⟨hnew.1, hsub hnew.2⟩, h.links⟩

theorem trans (h : d.Gains d' places) (h' : d'.Gains d'' places') :
    d.Gains d'' (places ++ places') := by
  refine ⟨fun q => ?_, h'.links.trans h.links⟩
  rcases h'.get? q with hsame | ⟨hnone, hq⟩
  · rw [hsame]
    exact (h.mono (List.subset_append_left _ _)).get? q
  · rcases h.get? q with hsame | ⟨hnone', hq'⟩
    · exact .inr ⟨hsame ▸ hnone, List.mem_append_right _ hq⟩
    · exact .inr ⟨hnone', List.mem_append_left _ hq'⟩

theorem get?_eq_some (h : d.Gains d' places) (hp : d.get? p = some n) : d'.get? p = some n := by
  rcases h.get? p with hsame | ⟨hnone, -⟩
  · rw [hsame, hp]
  · rw [hp] at hnone
    cases hnone

theorem keepsWays (h : d.Gains d' places) : d.KeepsWays d' := ⟨fun _ => h.get?_eq_some, h.links⟩

theorem find (h : d.Gains d' places) (hfind : d.find path = .ok (p, n)) :
    d'.find path = .ok (p, n) := by
  obtain ⟨hplace, hget, hends⟩ := find_eq_ok_iff.1 hfind
  exact find_eq_ok_iff.2 ⟨h.keepsWays.place hplace, h.get?_eq_some hget, hends⟩

/-- What a path leads to afterwards, and is not new, it led to before. -/
theorem find_of_find (h : d.Gains d' places) (htree : d.IsTree) (hup : ['.', '.'] ∉ pieces path)
    (hold : Place.ofPath path ∉ places) (hfind : d'.find path = .ok (p, n)) :
    d.find path = .ok (p, n) := by
  obtain ⟨hplace, hget, hends⟩ := find_eq_ok_iff.1 hfind
  have hlinks' := h.keepsWays.linkless htree.linkless
  have hsame : d'.get? p = d.get? p :=
    (h.get? p).resolve_right fun hnew => hold (hlinks'.place_eq_ofPath hplace ▸ hnew.2)
  rw [hsame] at hget
  refine find_eq_ok_iff.2 ⟨?_, hget, hends⟩
  refine follow_of_follow htree.linkless hlinks' hup hplace fun r hr hdir => ?_
  by_cases hrp : r = p
  · rw [hrp, ← hsame, ← hrp, hdir]
  · exact htree.around p n hget r hr hrp

end Gains

theorem holds_iff : d.holds path = true ↔ ∃ p n, d.find path = .ok (p, n) := by
  unfold holds
  cases d.find path with
  | error fault => simp [Except.isOk, Except.toBool]
  | ok found => exact ⟨fun _ => ⟨found.1, found.2, rfl⟩, fun _ => rfl⟩

/-- A file that is missing has a free place. -/
theorem get?_eq_none_of_not_holds (hplace : d.place path = .ok p)
    (hends : endsAsDirectory path = false) (h : ¬ d.holds path = true) : d.get? p = none := by
  by_contra hsome
  obtain ⟨n, hn⟩ := Option.ne_none_iff_exists'.1 hsome
  exact h (holds_iff.2 ⟨p, n, find_eq_ok_iff.2 ⟨hplace, hn, fun e => by rw [hends] at e; cases e⟩⟩)

/-- A file that is written at a free place is new there. -/
theorem gains_write (hd : d.Linkless) (hfree : ∀ p, d.place path = .ok p → d.get? p = none)
    (hends : endsAsDirectory path = false) (h : d.write path text = .ok d') :
    d.Gains d' [Place.ofPath path] ∧
      d'.find path = .ok (Place.ofPath path, .file (.text text)) := by
  obtain ⟨p, hplace, -, rfl⟩ := write_eq_ok_iff.1 h
  have hnone := hfree p hplace
  have hp : p ≠ [] := fun e => by
    rw [e] at hnone
    cases hnone
  obtain rfl := hd.place_eq_ofPath hplace
  have hgains := gains_set (n := .file (.text text)) hnone
  refine ⟨hgains, find_eq_ok_iff.2 ⟨hgains.keepsWays.place hplace, get?_set_self hp, ?_⟩⟩
  intro hdirectory
  rw [hends] at hdirectory
  cases hdirectory

/-- Beside a file whose place is known there is one for every other short name. -/
theorem place_join_of_place {root path path' : String} {name name' : FileName} (hd : d.Linkless)
    (h : Path.Plain path) (hname : pieces path = [name]) (h' : Path.Plain path')
    (hname' : pieces path' = [name']) (hshort : (Utf8.encode name').length ≤ nameLimit)
    (hplace : d.place (Path.join root path) = .ok p) :
    ∃ q, d.place (Path.join root path') = .ok q := by
  have hplain : IsPlain name' := h'.isPlain_of_mem_pieces name' (by simp [hname'])
  rw [place, pieces_join h.isAbsolute, hname] at hplace
  obtain ⟨m, hroot, hrest⟩ := hd.follow_append.1 hplace
  obtain ⟨next, hstep, -⟩ := hd.follow_cons.1 hrest
  have hstep' : d.step m name' = .ok (m ++ [name']) := by
    rw [step, (step_cases hstep).1]
    simp [hplain.ne_dot, hplain.ne_dots, Nat.not_lt.2 hshort]
  refine ⟨m ++ [name'], ?_⟩
  rw [place, pieces_join h'.isAbsolute, hname']
  exact hd.follow_append.2 ⟨m, hroot, hd.follow_cons.2 ⟨_, hstep', follow_nil⟩⟩

end Disk

namespace Scaffold

variable {disk : Disk} {root : String}

/-! ## Steps -/

/-- The places that a step may fill. -/
def Step.reach : Step → List Place
  | directory path => Place.way path
  | file path _ | settings path _ => [Place.ofPath path]

/-- A step that looks whether there is something already, at a path that can be that of a file. -/
def Step.IsCareful : Step → Prop
  | directory _ => True
  | file path _ => Disk.endsAsDirectory path = false
  | settings _ _ => False

theorem Step.gains_run {s : Step} (hlinks : disk.Linkless) (h : s.IsCareful) :
    disk.Gains (s.run disk).1 s.reach := by
  cases s with
  | directory path => exact (disk.makeDirectories_adds path).gains hlinks
  | file path text =>
    simp only [Step.run, Step.reach]
    split
    next => exact .refl disk _
    next hmissing =>
      split
      next d hwrite =>
        have hfree (p : Place) (hplace : disk.place path = .ok p) : disk.get? p = none :=
          Disk.get?_eq_none_of_not_holds hplace h hmissing
        exact (Disk.gains_write hlinks hfree h hwrite).1
      next => exact .refl disk _
  | settings path text => exact h.elim

/-- A run of careful steps fills places of these steps only. -/
theorem gains_runAll {steps : List Step} (hlinks : disk.Linkless) (h : ∀ s ∈ steps, s.IsCareful) :
    disk.Gains (runAll disk steps).1 (steps.flatMap Step.reach) := by
  induction steps generalizing disk with
  | nil => exact .refl disk _
  | cons s rest ih =>
    have hstep := Step.gains_run hlinks (h s List.mem_cons_self)
    rw [runAll, List.flatMap_cons]
    split
    next d hrun =>
      rw [hrun] at hstep
      exact hstep.trans
        (ih (hstep.keepsWays.linkless hlinks) fun s hs => h s (List.mem_cons_of_mem _ hs))
    next d e hrun =>
      rw [hrun] at hstep
      exact hstep.mono (List.subset_append_left _ _)

theorem runAll_append (disk : Disk) (front rest : List Step) :
    runAll disk (front ++ rest) = match runAll disk front with
      | (d, .ok ()) => runAll d rest
      | (d, .error e) => (d, .error e) := by
  induction front generalizing disk with
  | nil => rfl
  | cons s front ih =>
    rw [List.cons_append, runAll, runAll]
    split
    next d hrun => exact ih d
    next d e hrun => rfl

/-- A file whose place is known is there already or can be written. -/
theorem run_file_ok {path text : String} {p : Place} (hplace : disk.place path = .ok p)
    (hends : Disk.endsAsDirectory path = false) : ((Step.file path text).run disk).2 = .ok () := by
  simp only [Step.run]
  split
  next => rfl
  next hmissing =>
    have hnone := Disk.get?_eq_none_of_not_holds hplace hends hmissing
    have hwrite : disk.write path text = .ok (disk.set p (.file (.text text))) :=
      Disk.write_eq_ok_iff.2 ⟨p, hplace, by simp [hnone], rfl⟩
    rw [hwrite]

/-! ## Making a site -/

/-- The steps before the settings file. -/
def preparations (root : String) : List Step :=
  directories.map (fun dir => .directory (Path.join root dir))
    ++ starterFiles.map fun (path, text) => .file (Path.join root path) text

theorem steps_eq (root : String) :
    steps root = preparations root
      ++ [.settings (Path.join root Site.defaultFile) settingsText,
          .file (Path.join root ".gitignore") ignoreText] := rfl

theorem plain_directories : ∀ dir ∈ directories, Path.Plain dir := by decide

theorem plain_starterFiles : ∀ file ∈ starterFiles, Path.Plain file.1 := by decide

theorem plain_defaultFile : Path.Plain Site.defaultFile := by decide

theorem plain_ignoreFile : Path.Plain ".gitignore" := by decide

theorem isCareful_of_mem_preparations : ∀ s ∈ preparations root, s.IsCareful := by
  intro s hs
  rcases List.mem_append.1 hs with hs | hs
  · obtain ⟨dir, -, rfl⟩ := List.mem_map.1 hs
    exact trivial
  · obtain ⟨file, hfile, rfl⟩ := List.mem_map.1 hs
    exact (plain_starterFiles file hfile).endsAsDirectory_join root

/-- The settings file is at none of the places of the steps before it. -/
theorem defaultFile_not_reached (hup : ['.', '.'] ∉ Disk.pieces root) :
    Place.ofPath (Path.join root Site.defaultFile) ∉ (preparations root).flatMap Step.reach := by
  intro hmem
  obtain ⟨s, hs, hreach⟩ := List.mem_flatMap.1 hmem
  have hname : Disk.pieces Site.defaultFile = ["site.toml".toList] := by decide
  rw [plain_defaultFile.ofPath_join, hname] at hreach
  rcases List.mem_append.1 hs with hs | hs
  · obtain ⟨dir, hdir, rfl⟩ := List.mem_map.1 hs
    have hfirst : ∀ dir ∈ directories, ¬ ["site.toml".toList] <+: Disk.pieces dir := by decide
    exact hfirst dir hdir (Place.isPrefix_of_mem_way hup (plain_directories dir hdir) hreach)
  · obtain ⟨file, hfile, rfl⟩ := List.mem_map.1 hs
    have hother : ∀ file ∈ starterFiles, ["site.toml".toList] ≠ Disk.pieces file.1 := by decide
    rw [Step.reach, List.mem_singleton, (plain_starterFiles file hfile).ofPath_join] at hreach
    exact hother file hfile (List.append_cancel_left hreach)

/-- The steps before it do not bring the settings file about. -/
theorem holds_of_gains {d : Disk} (htree : disk.IsTree) (hup : ['.', '.'] ∉ Disk.pieces root)
    (h : disk.Gains d ((preparations root).flatMap Step.reach))
    (hholds : d.holds (Path.join root Site.defaultFile) = true) :
    disk.holds (Path.join root Site.defaultFile) = true := by
  have hpieces : ['.', '.'] ∉ Disk.pieces (Path.join root Site.defaultFile) := by
    rw [Disk.pieces_join plain_defaultFile.isAbsolute, List.mem_append]
    rintro (hmem | hmem)
    · exact hup hmem
    · exact (plain_defaultFile.isPlain_of_mem_pieces _ hmem).ne_dots rfl
  obtain ⟨p, n, hfind⟩ := Disk.holds_iff.1 hholds
  exact Disk.holds_iff.2 ⟨p, n, h.find_of_find htree hpieces (defaultFile_not_reached hup) hfind⟩

/-- The last two steps, where nothing is at the place of the settings file: that file cannot be
written, or all goes well. -/
theorem runAll_settings_cases {d : Disk} (hlinks : d.Linkless)
    (hfree : ∀ p, d.place (Path.join root Site.defaultFile) = .ok p → d.get? p = none) :
    let file := Path.join root Site.defaultFile
    let last : List Step := [.settings file settingsText, .file (Path.join root ".gitignore") ignoreText]
    (∃ e, runAll d last = (d, .error e)) ∨
    ∃ d' p, runAll d last = (d', .ok ()) ∧ d.Gains d' (last.flatMap Step.reach) ∧
      d'.find file = .ok (p, .file (.text settingsText)) := by
  intro file last
  cases hwrite : d.write file settingsText with
  | error fault =>
    have hsettings : (Step.settings file settingsText).run d
        = (d, .error (.settingsUnwritten file fault)) := by simp only [Step.run, hwrite]
    refine .inl ⟨.settingsUnwritten file fault, ?_⟩
    simp only [last, runAll, hsettings]
  | ok written =>
    have hsettings : (Step.settings file settingsText).run d = (written, .ok ()) := by
      simp only [Step.run, hwrite]
    obtain ⟨hgains, hfind⟩ :=
      Disk.gains_write hlinks hfree (plain_defaultFile.endsAsDirectory_join root) hwrite
    have hlinks' := hgains.keepsWays.linkless hlinks
    -- the directory that has the settings file has a place for the other file too
    obtain ⟨q, hq⟩ : ∃ q, written.place (Path.join root ".gitignore") = .ok q :=
      Disk.place_join_of_place hlinks' plain_defaultFile rfl plain_ignoreFile rfl (by decide)
        (Disk.find_eq_ok_iff.1 hfind).1
    have hends := plain_ignoreFile.endsAsDirectory_join root
    have hignore := @run_file_ok written _ ignoreText q hq hends
    have hgains' :=
      Step.gains_run (s := .file (Path.join root ".gitignore") ignoreText) hlinks' hends
    refine .inr ⟨_, _, ?_, hgains.trans hgains', hgains'.find hfind⟩
    simp only [last, runAll, hsettings]
    generalize (Step.file (Path.join root ".gitignore") ignoreText).run written = ran at hignore
    obtain ⟨d', r⟩ := ran
    cases hignore
    rfl

/-- The two ways in which the making of a site ends. -/
theorem runAll_steps_cases (htree : disk.IsTree) (hup : ['.', '.'] ∉ Disk.pieces root)
    (hmissing : ¬ disk.holds (Path.join root Site.defaultFile) = true) :
    (∃ d e, runAll disk (steps root) = (d, .error e) ∧
      disk.Gains d ((preparations root).flatMap Step.reach)) ∨
    ∃ d p, runAll disk (steps root) = (d, .ok ()) ∧
      disk.Gains d ((steps root).flatMap Step.reach) ∧
      d.find (Path.join root Site.defaultFile) = .ok (p, .file (.text settingsText)) := by
  have hgains := gains_runAll htree.linkless (@isCareful_of_mem_preparations root)
  rw [steps_eq, runAll_append]
  generalize runAll disk (preparations root) = prepared at hgains
  obtain ⟨d, e | _⟩ := prepared
  · exact .inl ⟨d, e, rfl, hgains⟩
  · have hfree (p : Place) (hplace : d.place (Path.join root Site.defaultFile) = .ok p) :
        d.get? p = none := by
      refine Disk.get?_eq_none_of_not_holds hplace (plain_defaultFile.endsAsDirectory_join root) ?_
      exact hmissing ∘ holds_of_gains htree hup hgains
    have hlinks : d.Linkless := hgains.keepsWays.linkless htree.linkless
    obtain ⟨e, hlast⟩ | ⟨d', p, hlast, hgains', hfind⟩ := runAll_settings_cases hlinks hfree
    · exact .inl ⟨d, e, hlast, hgains⟩
    · refine .inr ⟨d', p, hlast, ?_, hfind⟩
      rw [List.flatMap_append]
      exact hgains.trans hgains'

/-- A settings file with a text that gives settings is that of a site. -/
theorem exists_read {file source : String} {settings : Settings} (h : disk.readText file = .ok source)
    (hsettings : Settings.resolve source = .ok settings) :
    ∃ site, (Site.read disk file).result = .ok site ∧ site.settings = settings := by
  unfold Site.read
  rw [h]
  simp only [hsettings]
  exact ⟨_, rfl, rfl⟩

theorem create_of_holds (h : disk.holds (Path.join root Site.defaultFile) = true) :
    create disk root false = (disk, .fail (.settingsExist (Path.join root Site.defaultFile))) := by
  simp [create, h]

theorem create_of_runAll {d : Disk} {r : Except Failure Unit}
    (h : ¬ disk.holds (Path.join root Site.defaultFile) = true)
    (hrun : runAll disk (steps root) = (d, r)) :
    (create disk root false).1 = d ∧ (create disk root false).2.result = r := by
  cases r <;> simp [create, h, hrun, Told.fail, Told.tell]

/-- Making a site keeps all that is on the disk. It leaves the disk alone on a dry run and where
there is a settings file. A failure does not bring a settings file about, so that the site can be
made again; a success leaves one with valid settings, and then the site is not made again. -/
theorem create_frame (htree : disk.IsTree) (hup : .parent ∉ Path.components root) (dry : Bool) :
    let file := Path.join root Site.defaultFile
    let after := create disk root dry
    (∀ q node, disk.get? q = some node → after.1.get? q = some node) ∧
    (dry = true ∨ disk.holds file = true → after.1 = disk) ∧
    (∀ e, after.2.result = .error e → disk.holds file = false → after.1.holds file = false) ∧
    (dry = false → after.2.result = .ok () →
      (∃ site, (Site.read after.1 file).result = .ok site ∧ site.settings = starter ∧
        site.settings.findings = []) ∧
      (create after.1 root false).1 = after.1 ∧
      ∃ e, (create after.1 root false).2.result = .error e) := by
  have hpieces : ['.', '.'] ∉ Disk.pieces root := fun hmem =>
    hup (Path.parent_mem_components_iff.2 (List.mem_of_mem_filter hmem))
  intro file after
  cases dry with
  | true => exact ⟨fun _ _ h => h, fun _ => rfl, fun _ _ h => h, nofun⟩
  | false =>
    by_cases hholds : disk.holds file = true
    · have hafter : after = (disk, .fail (.settingsExist file)) := create_of_holds hholds
      rw [hafter]
      exact ⟨fun _ _ h => h, fun _ => rfl, fun _ _ h => h, nofun⟩
    · have hkept : ¬ (false = true ∨ disk.holds file = true) := by simp [hholds]
      obtain ⟨d, e, hrun, hgains⟩ | ⟨d, p, hrun, hgains, hfind⟩ :=
        runAll_steps_cases htree hpieces hholds
      · obtain ⟨hdisk, hresult⟩ := create_of_runAll hholds hrun
        rw [show after.1 = d from hdisk, show after.2.result = .error e from hresult]
        refine ⟨fun _ _ => hgains.get?_eq_some, fun h => absurd h hkept, fun _ _ _ => ?_, nofun⟩
        exact Bool.eq_false_iff.2 fun h => hholds (holds_of_gains htree hpieces hgains h)
      · obtain ⟨hdisk, hresult⟩ := create_of_runAll hholds hrun
        rw [show after.1 = d from hdisk, show after.2.result = .ok () from hresult]
        refine ⟨fun _ _ => hgains.get?_eq_some, fun h => absurd h hkept, nofun, fun _ _ => ⟨?_, ?_⟩⟩
        · have hread : d.readText file = .ok settingsText := Disk.readText_eq_ok_iff.2 ⟨p, hfind⟩
          obtain ⟨site, hsite, hsettings⟩ := exists_read hread resolve_settingsText
          exact ⟨site, hsite, hsettings, hsettings ▸ findings_starter⟩
        · rw [create_of_holds (Disk.holds_iff.2 ⟨p, _, hfind⟩)]
          exact ⟨rfl, _, rfl⟩

/-- A directory with a document where a starter file would be. -/
def ownDisk : Disk where
  nodes := [(["s".toList], .directory), (["s".toList, "docs".toList], .directory),
    (["s".toList, "docs".toList, "index.md".toList], .file (.text "mine"))]

theorem create_ownDisk : (create ownDisk "/s/." false).2.result = .ok () := rfl

theorem create_frame_ownDisk :
    ownDisk.IsTree ∧ .parent ∉ Path.components "/s/." ∧
      let after := create ownDisk "/s/." false
      after.1.get? ["s".toList, "docs".toList, "index.md".toList] = some (.file (.text "mine")) ∧
        after.2.result = .ok () ∧
        (∃ site, (Site.read after.1 (Path.join "/s/." Site.defaultFile)).result = .ok site ∧
          site.settings = starter ∧ site.settings.findings = []) ∧
        (create after.1 "/s/." false).1 = after.1 ∧
        ∃ e, (create after.1 "/s/." false).2.result = .error e := by
  have htree : ownDisk.IsTree := Disk.isTree_of_nodes ⟨by decide, by decide⟩ rfl (by decide)
  have hup : .parent ∉ Path.components "/s/." := by decide
  obtain ⟨hkept, -, -, hmade⟩ := create_frame htree hup false
  exact ⟨htree, hup, hkept _ _ (by decide), create_ownDisk, hmade rfl create_ownDisk⟩

end Scaffold

end DocAtlas
