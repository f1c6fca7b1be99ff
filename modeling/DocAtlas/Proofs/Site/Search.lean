-- SUMMARY: The search for the settings file takes the file in the nearest directory, and finds nothing only where no directory has one.
import DocAtlas.Proofs.Disk.Writing
import DocAtlas.Site.Load

/-! # The nearest settings file

The search goes from a directory to its parent until the root and takes the
first file that it meets. The directories around a path are said here by
components: each has the first components of the path. Whether there is a file
below a directory does not depend on how the directory is spelled
(`isFile_join_congr`), so the one spelling that the search tries for each depth
stands for all of them. -/

namespace DocAtlas

open Text

/-! ## Directories around a path -/

namespace Path

/-- The directory that a path from the root names, or one around it. -/
structure Around (dir path : String) : Prop where
  absolute : isAbsolute dir = true
  front : components dir <+: components path

/-- What stands for a component between separators. -/
def Component.spelled : Component → List Char
  | .root => []
  | .here => ['.']
  | .parent => ['.', '.']
  | .name text => text

theorem spelled_of_piece? {piece : List Char} {comp : Component} (h : piece? piece = some comp) :
    comp.spelled = piece := by
  unfold piece? at h
  split at h
  next => cases h
  next =>
    split at h
    next hdots =>
      cases h
      exact hdots.symm
    next =>
      cases h
      rfl

theorem inner_eq_filterMap_steps (path : String) :
    inner path.toList = (steps path).filterMap piece? :=
  (filterMap_piece?_filter_isStep _).symm

theorem steps_eq_map (path : String) : steps path = (inner path.toList).map Component.spelled := by
  have hself : ∀ piece ∈ steps path, (piece? piece).map Component.spelled = some piece := by
    intro piece hpiece
    obtain ⟨comp, hcomp⟩ := exists_piece?_of_isStep (List.mem_filter.1 hpiece).2
    rw [hcomp, Option.map_some, spelled_of_piece? hcomp]
  rw [inner_eq_filterMap_steps, List.map_filterMap, List.filterMap_congr hself,
    List.filterMap_some]

/-- Two spellings of one path from the root differ in empty pieces and `.` only. -/
theorem steps_congr {path path' : String} (hpath : isAbsolute path = true)
    (hpath' : isAbsolute path' = true) (h : components path = components path') :
    steps path = steps path' := by
  rw [components_of_isAbsolute hpath, components_of_isAbsolute hpath'] at h
  rw [steps_eq_map, steps_eq_map, (List.cons.inj h).2]

/-- The parent of a path from the root lacks its last component; the root alone has none. -/
theorem components_of_parent? {path : String} (h : isAbsolute path = true) :
    parent? path = none ∧ components path = [.root] ∨
      ∃ dir last, parent? path = some dir ∧ isAbsolute dir = true ∧
        components path = components dir ++ [last] := by
  rw [components_of_isAbsolute h, inner_eq_filterMap_steps]
  obtain ⟨hnone, hsteps⟩ | ⟨dir, hsome, hsteps, hdir, hinner⟩ := parent?_of_isAbsolute h
  · left
    rw [hsteps]
    exact ⟨hnone, rfl⟩
  · right
    obtain ⟨comp, hcomp⟩ :=
      exists_piece?_of_isStep (List.mem_filter.1 (List.getLast_mem hsteps)).2
    refine ⟨dir, comp, hsome, hdir, ?_⟩
    rw [components_of_isAbsolute hdir, hinner, List.cons_append]
    congr 1
    conv => lhs; rw [← List.dropLast_concat_getLast hsteps]
    rw [List.filterMap_append, List.filterMap_cons_some hcomp, List.filterMap_nil]

namespace Around

variable {dir up path : String}

theorem refl (h : isAbsolute path = true) : Around path path where
  absolute := h
  front := List.prefix_rfl

/-- Around a path are the path itself, in every spelling, and what is around its parent. -/
theorem cases_parent {last : Component} (hup : components path = components up ++ [last])
    (h : Around dir path) : components dir = components path ∨ Around dir up := by
  obtain heq | hfront := List.prefix_concat_iff.1 (hup ▸ h.front)
  · exact .inl (heq.trans hup.symm)
  · exact .inr ⟨h.absolute, hfront⟩

theorem of_parent {last : Component} (hup : components path = components up ++ [last])
    (h : Around dir up) : Around dir path where
  absolute := h.absolute
  front := h.front.trans (hup ▸ List.prefix_append _ _)

theorem eq_root (hroot : components path = [.root]) (h : Around dir path) :
    components dir = components path := by
  have hfront := h.front
  rw [components_of_isAbsolute h.absolute, hroot] at hfront ⊢
  rw [List.prefix_nil.1 (List.cons_prefix_cons.1 hfront).2]

end Around

end Path

/-! ## Files below a directory -/

namespace Disk

variable {d : Disk} {p q : Place}

theorem step_dot (h : d.step p ['.'] = .ok q) : q = p := by
  obtain ⟨-, ⟨-, hq⟩ | ⟨hdots, -⟩ | ⟨hdot, -⟩⟩ := step_cases h
  · exact hq
  · cases hdots
  · exact absurd rfl hdot

/-- The second path is the first without some of the `.` before its end. -/
inductive DropsDots : List FileName → List FileName → Prop
  | nil : DropsDots [] []
  | keep {path path' : List FileName} (piece : FileName) (h : DropsDots path path') :
      DropsDots (piece :: path) (piece :: path')
  | drop {path path' : List FileName} (hpath : path ≠ []) (h : DropsDots path path') :
      DropsDots (['.'] :: path) path'

namespace DropsDots

theorem refl (path : List FileName) : DropsDots path path := by
  induction path with
  | nil => exact .nil
  | cons piece path ih => exact .keep piece ih

theorem append_left {path path' : List FileName} (front : List FileName) (h : DropsDots path path') :
    DropsDots (front ++ path) (front ++ path') := by
  induction front with
  | nil => exact h
  | cons piece front ih => exact .keep piece ih

theorem filter_append {rest : List FileName} (path : List FileName) (hrest : rest ≠ []) :
    DropsDots (path ++ rest) (path.filter (· ≠ ['.']) ++ rest) := by
  induction path with
  | nil => exact .refl rest
  | cons piece path ih =>
    by_cases hdot : piece = ['.']
    · rw [List.filter_cons_of_neg (by simpa using hdot), hdot]
      exact .drop (List.append_ne_nil_of_right_ne_nil path hrest) ih
    · rw [List.filter_cons_of_pos (by simpa using hdot)]
      exact .keep piece ih

theorem eq_nil {path path' : List FileName} (h : DropsDots path path') (hnil : path' = []) :
    path = [] := by
  induction h with
  | nil => rfl
  | keep => cases hnil
  | drop hpath _ ih => exact absurd (ih hnil) hpath

theorem leads {n : Nat} {path path' : List FileName} (h : DropsDots path path')
    (hp : d.Unlinked p) (hleads : d.Leads n p path q) : d.Leads n p path' q := by
  induction hleads generalizing path' with
  | done => cases h; exact .done
  | step hstep hnone _ ih =>
    cases h with
    | keep piece h => exact .step hstep hnone (ih h (hp.step hstep hnone))
    | drop _ h =>
      rw [step_dot hstep] at ih
      exact ih h hp
  | link hstep hlink _ ih =>
    have hbase := hp.linkBase_prefix hstep hlink
    cases h with
    | keep piece h => exact .link hstep hlink (ih (h.append_left _) (hp.of_prefix hbase))
    | drop =>
      rw [step_dot hstep, hp _ List.prefix_rfl] at hlink
      cases hlink

/-- What the path leads to from each list that keeps its first piece, it leads to with `.` before that
piece too. -/
theorem leads_of_keep {n : Nat} {piece : FileName} {path rest : List FileName}
    (h : DropsDots path (piece :: rest)) (hp : d.Unlinked p)
    (hkeep : ∀ path, DropsDots path rest → d.Leads n p (piece :: path) q) :
    d.Leads n p path q := by
  generalize hpath : piece :: rest = path' at h
  induction h with
  | nil => cases hpath
  | keep _ h =>
    cases hpath
    exact hkeep _ h
  | @drop path _ hne _ ih =>
    obtain ⟨next, others, rfl⟩ := List.exists_cons_of_ne_nil hne
    have hleads := ih hpath
    have hstay : d.step p ['.'] = .ok p := by simp [step, hleads.directory]
    exact .step hstay (hp p List.prefix_rfl) hleads

theorem leads_back {n : Nat} {path path' : List FileName} (h : DropsDots path path')
    (hp : d.Unlinked p) (hleads : d.Leads n p path' q) : d.Leads n p path q := by
  induction hleads generalizing path with
  | done => rw [h.eq_nil rfl]; exact .done
  | step hstep hnone _ ih =>
    exact h.leads_of_keep hp fun _ h => .step hstep hnone (ih h (hp.step hstep hnone))
  | link hstep hlink _ ih =>
    have hbase := hp.of_prefix (hp.linkBase_prefix hstep hlink)
    exact h.leads_of_keep hp fun _ h => .link hstep hlink (ih (h.append_left _) hbase)

/-- The `.` before the end of a path make no difference. -/
theorem follow_iff {path path' : List FileName} (h : DropsDots path path') (hp : d.Unlinked p) :
    d.follow p path = .ok q ↔ d.follow p path' = .ok q := by
  simp only [follow_eq_ok_iff]
  exact exists_congr fun _ => and_congr_right fun _ => ⟨h.leads hp, h.leads_back hp⟩

end DropsDots

theorem filter_dot_pieces (path : String) : (pieces path).filter (· ≠ ['.']) = Path.steps path := by
  rw [pieces, List.filter_filter, Path.steps]
  congr 1
  funext piece
  simp [Path.isStep, Bool.and_comm]

theorem isFile_of_endsAsDirectory {path : String} (h : endsAsDirectory path = true) :
    d.isFile path = false := by
  unfold isFile find
  cases d.place path with
  | error fault => rfl
  | ok p =>
    simp only [bind, Except.bind, h, if_true]
    cases d.get? p with
    | none => rfl
    | some node => cases node <;> rfl

theorem endsAsDirectory_of_pieces {path : String} (h : pieces path = []) :
    endsAsDirectory path = true := by
  unfold endsAsDirectory
  cases hlast : (splitOn '/' path.toList).getLast? with
  | none => rfl
  | some last =>
    have hblank := List.filter_eq_nil_iff.1 h last (List.mem_of_getLast? hlast)
    simp_all

theorem isFile_iff {path : String} :
    d.isFile path = true ↔ ∃ p data, d.find path = .ok (p, .file data) := by
  unfold isFile
  split
  next p data hfind => exact ⟨fun _ => ⟨p, data, hfind⟩, fun _ => rfl⟩
  next hfind =>
    simp only [Bool.false_eq_true, false_iff, not_exists]
    exact hfind

theorem isFile_congr {path path' : String}
    (hplace : ∀ p, d.place path = .ok p ↔ d.place path' = .ok p)
    (hends : endsAsDirectory path = endsAsDirectory path') : d.isFile path = d.isFile path' := by
  rw [Bool.eq_iff_iff, isFile_iff, isFile_iff]
  simp only [find_eq_ok_iff, hplace, hends]

/-- The spelling of a directory makes no difference to the files below it. -/
theorem isFile_join_congr {dir dir' name : String} (hdir : Path.isAbsolute dir = true)
    (hdir' : Path.isAbsolute dir' = true) (hname : Path.isAbsolute name = false)
    (h : Path.components dir = Path.components dir') :
    d.isFile (Path.join dir name) = d.isFile (Path.join dir' name) := by
  have hends : endsAsDirectory (Path.join dir name) = endsAsDirectory (Path.join dir' name) := by
    rw [Path.endsAsDirectory_join_of_relative dir hname,
      Path.endsAsDirectory_join_of_relative dir' hname]
  cases hpieces : pieces name with
  | nil =>
    -- Nothing comes behind the directory then, and a `.` at its end cannot be left out.
    have hdirectory : endsAsDirectory (Path.join dir name) = true := by
      rw [Path.endsAsDirectory_join_of_relative dir hname]
      exact endsAsDirectory_of_pieces hpieces
    rw [isFile_of_endsAsDirectory hdirectory, isFile_of_endsAsDirectory (hends ▸ hdirectory)]
  | cons piece rest =>
    refine isFile_congr (fun p => ?_) hends
    have hsteps (dir : String) : d.follow [] (pieces dir ++ piece :: rest) = .ok p ↔
        d.follow [] (Path.steps dir ++ piece :: rest) = .ok p := by
      rw [← filter_dot_pieces]
      exact (DropsDots.filter_append _ (List.cons_ne_nil piece rest)).follow_iff (.root d)
    rw [place, place, pieces_join hname, pieces_join hname, hpieces, hsteps, hsteps dir',
      Path.steps_congr hdir hdir' h]

end Disk

/-! ## The search -/

namespace Site

variable {disk : Disk} {start up name dir : String}

/-- Of the directories around `start`, `dir` is the nearest one below which `name` is a file. -/
structure Nearest (disk : Disk) (start name dir : String) : Prop where
  around : Path.Around dir start
  file : disk.isFile (Path.join dir name) = true
  no_nearer : ∀ other, Path.Around other start →
    (Path.components dir).length < (Path.components other).length →
    disk.isFile (Path.join other name) = false

theorem Nearest.self (hstart : Path.isAbsolute start = true)
    (hfile : disk.isFile (Path.join start name) = true) : Nearest disk start name start where
  around := .refl hstart
  file := hfile
  no_nearer _ hother hlonger := absurd hother.front.length_le (Nat.not_le.2 hlonger)

/-- What is nearest for the parent is nearest for a path that has no such file itself. -/
theorem Nearest.of_parent {last : Path.Component} (hstart : Path.isAbsolute start = true)
    (hname : Path.isAbsolute name = false)
    (hup : Path.components start = Path.components up ++ [last])
    (hfile : disk.isFile (Path.join start name) = false) (h : Nearest disk up name dir) :
    Nearest disk start name dir where
  around := h.around.of_parent hup
  file := h.file
  no_nearer other hother hlonger := by
    obtain hself | hother' := hother.cases_parent hup
    · rw [Disk.isFile_join_congr hother.absolute hstart hname hself, hfile]
    · exact h.no_nearer other hother' hlonger

theorem searchUp_of_isFile (hfile : disk.isFile (Path.join start name) = true) :
    searchUp disk start name = some (Path.join start name) := by
  rw [searchUp.eq_def, if_pos hfile]

theorem searchUp_of_parent (hfile : ¬ disk.isFile (Path.join start name) = true)
    (hup : Path.parent? start = some up) :
    searchUp disk start name = searchUp disk up name := by
  rw [searchUp.eq_def, if_neg hfile]
  split <;> simp_all

/-- The outcome of a search: the nearest file, or nothing where there is none. -/
theorem searchUp_cases (disk : Disk) (hstart : Path.isAbsolute start = true)
    (hname : Path.isAbsolute name = false) :
    (∃ dir, searchUp disk start name = some (Path.join dir name) ∧ Nearest disk start name dir) ∨
      searchUp disk start name = none ∧
        ∀ dir, Path.Around dir start → disk.isFile (Path.join dir name) = false := by
  -- The induction is on the search itself; the path stays one from the root on the way up.
  induction start using searchUp.induct disk name with
  | case1 start hfile =>
    exact .inl ⟨start, searchUp_of_isFile hfile, .self hstart hfile⟩
  | case2 start hfile hnone =>
    right
    have hmiss := Bool.eq_false_iff.2 hfile
    obtain ⟨-, hroot⟩ | ⟨dir, last, hsome, -⟩ := Path.components_of_parent? hstart
    · constructor
      · rw [searchUp.eq_def, if_neg hfile]
        split <;> simp_all
      · intro dir hdir
        rw [Disk.isFile_join_congr hdir.absolute hstart hname (hdir.eq_root hroot), hmiss]
    · rw [hnone] at hsome
      cases hsome
  | case3 start hfile up hsome ih =>
    have hmiss := Bool.eq_false_iff.2 hfile
    obtain ⟨hnone, -⟩ | ⟨dir, last, hdir, habs, hup⟩ := Path.components_of_parent? hstart
    · rw [hsome] at hnone
      cases hnone
    · obtain rfl : up = dir := Option.some.inj (hsome.symm.trans hdir)
      rw [searchUp_of_parent hfile hsome]
      obtain ⟨dir, hfound, hnearest⟩ | ⟨hnone, hmisses⟩ := ih habs
      · exact .inl ⟨dir, hfound, hnearest.of_parent hstart hname hup hmiss⟩
      · refine .inr ⟨hnone, ?_⟩
        intro dir hdir
        obtain hself | hdir' := hdir.cases_parent hup
        · rw [Disk.isFile_join_congr hdir.absolute hstart hname hself, hmiss]
        · exact hmisses dir hdir'

/-- From a directory given from the root, the search for a relative name ends with the file below
the nearest directory that has one, whatever else is nearer under that name; it ends with nothing
just where no directory up to the root has one. -/
theorem searchUp_nearest (disk : Disk) (hstart : Path.isAbsolute start = true)
    (hname : Path.isAbsolute name = false) :
    (∀ found, searchUp disk start name = some found →
      ∃ dir, found = Path.join dir name ∧ Nearest disk start name dir) ∧
    (searchUp disk start name = none ↔
      ∀ dir, Path.Around dir start → disk.isFile (Path.join dir name) = false) := by
  obtain ⟨dir, hsome, hnearest⟩ | ⟨hnone, hmisses⟩ := searchUp_cases disk hstart hname
  · rw [hsome]
    refine ⟨?_, ?_⟩
    · intro found hfound
      exact ⟨dir, (Option.some.inj hfound).symm, hnearest⟩
    · refine ⟨nofun, fun hmisses => ?_⟩
      have hmiss := hmisses dir hnearest.around
      rw [hnearest.file] at hmiss
      cases hmiss
  · rw [hnone]
    exact ⟨nofun, fun _ => hmisses, fun _ => rfl⟩

/-- A settings file, and nearer to the guide a directory under the name of the file. -/
def nestedDisk : Disk where
  nodes := [(["s".toList], .directory), (["s".toList, "docs".toList], .directory),
    (["s".toList, "docs".toList, "guide".toList], .directory),
    (["s".toList, "docs".toList, "site.toml".toList], .directory),
    (["s".toList, "site.toml".toList], .file (.text ""))]

theorem searchUp_nearest_nested :
    Path.isAbsolute "/s/docs/./guide//" = true ∧ Path.isAbsolute "../site.toml" = false ∧
      searchUp nestedDisk "/s/docs/./guide//" "../site.toml" = some "/s/docs/../site.toml" ∧
      ∃ dir, "/s/docs/../site.toml" = Path.join dir "../site.toml" ∧
        Nearest nestedDisk "/s/docs/./guide//" "../site.toml" dir := by
  have hstart : Path.isAbsolute "/s/docs/./guide//" = true := by decide
  have hname : Path.isAbsolute "../site.toml" = false := by decide
  have hguide : ¬ nestedDisk.isFile (Path.join "/s/docs/./guide//" "../site.toml") = true := by
    decide
  have hup : Path.parent? "/s/docs/./guide//" = some "/s/docs" := by decide
  have hdocs : nestedDisk.isFile (Path.join "/s/docs" "../site.toml") = true := by decide
  have hjoin : Path.join "/s/docs" "../site.toml" = "/s/docs/../site.toml" := by decide
  have hfound := (searchUp_of_parent hguide hup).trans (searchUp_of_isFile hdocs)
  rw [hjoin] at hfound
  exact ⟨hstart, hname, hfound, (searchUp_nearest nestedDisk hstart hname).1 _ hfound⟩

end Site

end DocAtlas
