-- SUMMARY: What writing a file and making directories changes on a disk, and what it leaves as it is.
import DocAtlas.Proofs.Disk
import Mathlib.Data.List.Infix

/-! # Writing on a disk

A path passes the places that its first pieces lead to. Making directories adds
directories that the path passes and changes nothing else, whether it succeeds
or not (`makeDirectories_adds`); once it has succeeded, all of the way is there.
On a disk without links these places can be said without the disk
(`Place.way`). -/

namespace DocAtlas

open Text

/-! ## The way of a path -/

namespace Place

/-- The place that one piece of a path leads to. -/
def advance (p : Place) (piece : FileName) : Place :=
  if piece = ['.'] then p else if piece = ['.', '.'] then p.dropLast else p ++ [piece]

/-- The place that a path names. -/
def ofPath (path : String) : Place := (Disk.pieces path).foldl advance []

/-- The places that a path leads through, the one that it names among them. -/
def way (path : String) : List Place := (Disk.pieces path).inits.map (·.foldl advance [])

theorem mem_way {path : String} {p : Place} :
    p ∈ way path ↔ ∃ front, front <+: Disk.pieces path ∧ front.foldl advance [] = p := by
  simp [way, List.mem_inits]

theorem ofPath_mem_way (path : String) : ofPath path ∈ way path :=
  mem_way.2 ⟨_, List.prefix_refl _, rfl⟩

theorem way_subset {path path' : String} (h : Disk.pieces path <+: Disk.pieces path') :
    way path ⊆ way path' := by
  intro p hp
  obtain ⟨front, hfront, rfl⟩ := mem_way.1 hp
  exact mem_way.2 ⟨front, hfront.trans h, rfl⟩

/-- Without `..`, what is not `.` is appended. -/
theorem foldl_advance_of_no_parent {p : Place} {path : List FileName} (h : ['.', '.'] ∉ path) :
    path.foldl advance p = p ++ path.filter (· ≠ ['.']) := by
  induction path generalizing p with
  | nil => simp
  | cons piece rest ih =>
    rw [List.mem_cons, not_or] at h
    rw [List.foldl_cons, ih h.2, advance]
    by_cases hdot : piece = ['.']
    · simp [hdot]
    · simp [hdot, Ne.symm h.1]

theorem foldl_advance_of_isPlain {p rel : Place} (h : ∀ name ∈ rel, IsPlain name) :
    rel.foldl advance p = p ++ rel := by
  rw [foldl_advance_of_no_parent fun hmem => (h _ hmem).ne_dots rfl,
    List.filter_eq_self.2 fun name hname => by simpa using (h name hname).ne_dot]

theorem ofPath_path {p : Place} (h : ∀ name ∈ p, IsPlain name) : ofPath p.path = p := by
  rw [ofPath, pieces_path h, foldl_advance_of_isPlain h, List.nil_append]

end Place

/-! ## Parents -/

namespace Path

/-- The pieces of a text that are not empty. -/
def solid (cs : List Char) : List (List Char) := (splitOn '/' cs).filter (· ≠ [])

theorem solid_slash (cs : List Char) : solid ('/' :: cs) = solid cs := by
  simp [solid, splitOn]

theorem solid_append (front rest : List Char) :
    solid (front ++ '/' :: rest) = solid front ++ solid rest := by
  simp [solid, splitOn_append]

/-- A text is cut at a separator or not at all. -/
inductive CutFrom (cs : List Char) : List Char → Prop
  | nothing : CutFrom cs []
  | all : CutFrom cs cs
  | before {front rest : List Char} (h : cs = front ++ '/' :: rest) : CutFrom cs front

theorem CutFrom.isPrefix_solid {cs front : List Char} (h : CutFrom cs front) :
    solid front <+: solid cs := by
  cases h with
  | nothing => exact List.nil_prefix
  | all => exact List.prefix_refl _
  | before h =>
    rw [h, solid_append]
    exact List.prefix_append _ _

theorem cutFrom_joinWith {cs : List Char} {front back : List (List Char)}
    (h : splitOn '/' cs = front ++ back) : CutFrom cs (joinWith '/' front) := by
  have hcs : cs = joinWith '/' (front ++ back) := by rw [← h, joinWith_splitOn]
  by_cases hfront : front = []
  · rw [hfront]
    exact .nothing
  by_cases hback : back = []
  · rw [hback, List.append_nil] at hcs
    exact hcs ▸ .all
  · exact .before (hcs.trans (joinWith_append '/' hfront hback))

theorem cutFrom_trimBack (cs : List Char) : CutFrom cs (trimBack cs) := by
  obtain ⟨back, hback⟩ := List.dropWhile_suffix (l := (splitOn '/' cs).reverse)
    fun piece => piece = [] || piece = ['.']
  have hsplit := congrArg List.reverse hback
  rw [List.reverse_append, List.reverse_reverse] at hsplit
  exact cutFrom_joinWith hsplit.symm

theorem isPrefix_solid_trimEndOf (cs : List Char) : solid (trimEndOf false cs) <+: solid cs := by
  unfold trimEndOf
  simp only [Bool.false_eq_true, if_false]
  split
  next rest =>
    rw [solid_slash, solid_slash]
    exact (cutFrom_trimBack rest).isPrefix_solid
  next rest =>
    split
    next hrest =>
      refine CutFrom.isPrefix_solid ?_
      generalize htrim : trimBack rest = trimmed
      cases htrim ▸ cutFrom_trimBack rest with
      | nothing =>
        rcases hrest with rfl | hslash
        · exact .all
        · obtain ⟨rest, rfl⟩ := List.head?_eq_some_iff.1 hslash
          exact .before (List.singleton_append (x := '.')).symm
      | all => exact .all
      | before h => exact .before (congrArg ('.' :: ·) h)
    next => exact (cutFrom_trimBack _).isPrefix_solid
  next => exact (cutFrom_trimBack _).isPrefix_solid

/-- What stands up to the last separator. -/
theorem isPrefix_solid_dropWhile (cs : List Char) :
    solid (cs.reverse.dropWhile (· ≠ '/')).reverse <+: solid cs := by
  have hcs := List.takeWhile_append_dropWhile (p := (· ≠ '/')) (l := cs.reverse)
  have hhead := List.head?_dropWhile_not (· ≠ '/') cs.reverse
  cases hrest : cs.reverse.dropWhile (· ≠ '/') with
  | nil => exact List.nil_prefix
  | cons c rest =>
    rw [hrest] at hcs hhead
    obtain rfl : c = '/' := by simpa using hhead
    have hback := congrArg List.reverse hcs
    simp only [List.reverse_append, List.reverse_cons, List.reverse_reverse, List.append_assoc,
      List.singleton_append] at hback
    rw [List.reverse_cons, ← hback, solid_append, solid_append]
    exact List.prefix_append_right_inj _ |>.2 List.nil_prefix

theorem isPrefix_pieces_parent? {path parent : String} (h : parent? path = some parent) :
    Disk.pieces parent <+: Disk.pieces path := by
  change solid parent.toList <+: solid path.toList
  unfold parent? at h
  split at h
  next => cases h
  next rest hpath =>
    rw [hpath]
    split at h
    next => cases h
    next =>
      cases h
      rw [String.toList_ofList, solid_slash, solid_slash]
      exact (cutFrom_trimBack _).isPrefix_solid.trans
        ((isPrefix_solid_dropWhile _).trans (cutFrom_trimBack rest).isPrefix_solid)
  next =>
    cases h
    rw [String.toList_ofList]
    exact (isPrefix_solid_trimEndOf _).trans
      ((isPrefix_solid_dropWhile _).trans (isPrefix_solid_trimEndOf _))

/-- A relative path stands at the end of what it is joined to. -/
theorem exists_splitOn_join (base : String) {path : String} (h : isAbsolute path = false) :
    ∃ front, splitOn '/' (join base path).toList = front ++ splitOn '/' path.toList := by
  rw [join, if_neg (by simp [h])]
  split
  next hbase =>
    rcases hbase with rfl | hslash
    · exact ⟨[], by simp⟩
    · obtain ⟨front, hfront⟩ := List.getLast?_eq_some_iff.1 hslash
      exact ⟨splitOn '/' front, by simp [hfront, splitOn_append]⟩
  next => exact ⟨splitOn '/' base.toList, by simp [splitOn_append]⟩

theorem endsAsDirectory_join_of_relative (base : String) {path : String}
    (h : isAbsolute path = false) :
    Disk.endsAsDirectory (join base path) = Disk.endsAsDirectory path := by
  obtain ⟨front, hfront⟩ := exists_splitOn_join base h
  rw [Disk.endsAsDirectory, Disk.endsAsDirectory, hfront,
    List.getLast?_append_of_ne_nil _ (splitOn_ne_nil '/' _)]

/-- A relative path that is written from plain names alone. -/
def Plain (path : String) : Prop := ∀ piece ∈ splitOn '/' path.toList, IsPlain piece

instance (path : String) : Decidable (Plain path) :=
  inferInstanceAs (Decidable (∀ piece ∈ splitOn '/' path.toList, IsPlain piece))

namespace Plain

variable {path : String} (h : Plain path)

include h

theorem isAbsolute : isAbsolute path = false := by
  refine decide_eq_false fun hslash => ?_
  obtain ⟨rest, hrest⟩ := List.head?_eq_some_iff.1 hslash
  exact (h [] (by simp [hrest, splitOn])).ne_nil rfl

theorem isPlain_of_mem_pieces : ∀ name ∈ Disk.pieces path, IsPlain name :=
  fun name hname => h name (List.mem_of_mem_filter hname)

theorem endsAsDirectory_join (base : String) : Disk.endsAsDirectory (join base path) = false := by
  rw [endsAsDirectory_join_of_relative base h.isAbsolute]
  obtain ⟨first, last, hlast⟩ :=
    (splitOn '/' path.toList).eq_nil_or_concat.resolve_left (splitOn_ne_nil '/' _)
  have hplain := h last (by simp [hlast])
  simp [Disk.endsAsDirectory, hlast, hplain.ne_nil, hplain.ne_dot]

/-- The names come behind the place that the path is taken from. -/
theorem ofPath_join (base : String) :
    Place.ofPath (join base path) = Place.ofPath base ++ Disk.pieces path := by
  rw [Place.ofPath, Disk.pieces_join h.isAbsolute, List.foldl_append,
    Place.foldl_advance_of_isPlain h.isPlain_of_mem_pieces, Place.ofPath]

end Plain

end Path

namespace Disk

variable {d d' d'' : Disk} {p q : Place} {path : String} {n n' : Node}

/-! ## Nodes -/

theorem get?_set_self (hp : p ≠ []) : (d.set p n).get? p = some n := by
  simp [get?, set, hp]

theorem get?_set_of_ne (h : q ≠ p) : (d.set p n).get? q = d.get? q := by
  unfold get? set
  split
  next => rfl
  next =>
    rw [List.find?_cons_of_neg (by simpa using h.symm), List.find?_filter]
    congr 2
    funext e
    by_cases he : e.1 = q <;> simp_all

/-- The node that was put last is the one that counts. -/
theorem set_set : (d.set p n).set p n' = d.set p n' := by
  simp [set, List.filter_filter]

theorem WellFormed.set (h : d.WellFormed) (hp : ∀ name ∈ p, IsPlain name) :
    (d.set p n).WellFormed where
  distinct := by
    refine List.nodup_cons.2 ⟨?_, h.distinct.sublist (List.filter_sublist.map _)⟩
    simp
  named := by
    intro e he
    rcases List.mem_cons.1 he with rfl | he
    · exact fun name hn => ⟨(hp name hn).ne_nil, (hp name hn).no_slash⟩
    · exact h.named e (List.mem_of_mem_filter he)

/-! ## Following paths -/

theorem step_eq_advance {piece : FileName} (h : d.step p piece = .ok q) : q = p.advance piece := by
  obtain ⟨-, ⟨rfl, rfl⟩ | ⟨rfl, rfl⟩ | ⟨hdot, hdots, -, rfl⟩⟩ := step_cases h
  · rfl
  · rfl
  · rw [Place.advance, if_neg hdot, if_neg hdots]

theorem Linkless.follow_eq_foldl {path : List FileName} (hd : d.Linkless)
    (h : d.follow p path = .ok q) : q = path.foldl Place.advance p := by
  induction path generalizing p with
  | nil =>
    rw [follow_nil] at h
    cases h
    rfl
  | cons piece rest ih =>
    obtain ⟨next, hstep, hrest⟩ := hd.follow_cons.1 h
    rw [List.foldl_cons, ← step_eq_advance hstep]
    exact ih hrest

theorem Linkless.place_eq_ofPath (hd : d.Linkless) (h : d.place path = .ok p) :
    p = Place.ofPath path :=
  hd.follow_eq_foldl h

theorem find_eq_ok_iff :
    d.find path = .ok (p, n) ↔
      d.place path = .ok p ∧ d.get? p = some n ∧ (endsAsDirectory path = true → n = .directory) := by
  unfold find
  cases hplace : d.place path with
  | error fault => simp [bind, Except.bind]
  | ok q =>
    simp only [bind, Except.bind, Except.ok.injEq]
    constructor
    · intro h
      split at h
      next => cases h
      next hget =>
        split at h
        next => cases h
        next hends => cases h; exact ⟨rfl, hget, fun e => absurd e hends⟩
      next hget => cases h; exact ⟨rfl, hget, fun _ => rfl⟩
    · rintro ⟨rfl, hget, hends⟩
      rw [hget]
      cases n with
      | directory => rfl
      | file data =>
        have : endsAsDirectory path = false := by
          by_contra h
          cases hends (by simpa using h)
        simp [this]

theorem readText_eq_ok_iff {text : String} :
    d.readText path = .ok text ↔ ∃ p, d.find path = .ok (p, .file (.text text)) := by
  unfold readText
  cases hfind : d.find path with
  | error fault => simp [bind, Except.bind]
  | ok found =>
    obtain ⟨p, n⟩ := found
    simp only [bind, Except.bind, Except.ok.injEq, Prod.mk.injEq, exists_eq_left']
    cases n with
    | directory => simp
    | file data => cases data <;> simp

/-- What the last piece of a path names is where the path leads, unless it is a link. -/
theorem place_of_entry (h : d.entry path = .ok p) (hnone : d.link? p = none) :
    d.place path = .ok p := by
  unfold entry at h
  split at h
  next hpieces =>
    cases h
    rw [place, List.getLast?_eq_none_iff.1 hpieces]
    rfl
  next last hlast =>
    cases hfront : d.follow [] (pieces path).dropLast with
    | error fault => rw [hfront] at h; cases h
    | ok front =>
      rw [hfront] at h
      obtain ⟨n, hn, hleads⟩ := follow_eq_ok_iff.1 hfront
      have hpieces := List.dropLast_append_getLast? last hlast
      refine follow_eq_ok_iff.2 ⟨n, hn, ?_⟩
      rw [← hpieces]
      exact leads_append.2 ⟨n, 0, front, rfl, hleads, .step h hnone .done⟩

/-! ## The places that a path passes -/

/-- The first pieces of a path, or all of them, lead to the place. -/
def Passes (d : Disk) (path : String) (p : Place) : Prop :=
  ∃ front, front <+: pieces path ∧ d.follow [] front = .ok p

theorem Passes.mono {path' : String} (hpath : pieces path <+: pieces path')
    (h : d.Passes path p) : d.Passes path' p := by
  obtain ⟨front, hfront, hfollow⟩ := h
  exact ⟨front, hfront.trans hpath, hfollow⟩

theorem passes_of_place (h : d.place path = .ok p) : d.Passes path p :=
  ⟨pieces path, List.prefix_rfl, h⟩

theorem Linkless.mem_way_of_passes (hd : d.Linkless) (h : d.Passes path p) : p ∈ Place.way path := by
  obtain ⟨front, hfront, hfollow⟩ := h
  exact Place.mem_way.2 ⟨front, hfront, (hd.follow_eq_foldl hfollow).symm⟩

theorem Leads.directory {k : Nat} {piece : FileName} {rest : List FileName}
    (h : d.Leads k p (piece :: rest) q) : d.get? p = some .directory := by
  cases h with
  | step hstep => exact (step_cases hstep).1
  | link hstep => exact (step_cases hstep).1

/-- All that is passed on the way to a directory are directories. -/
theorem exists_directory_of_find {front : List FileName} (h : d.find path = .ok (p, .directory))
    (hfront : front <+: pieces path) :
    ∃ q, d.follow [] front = .ok q ∧ d.get? q = some .directory := by
  obtain ⟨hplace, hget, -⟩ := find_eq_ok_iff.1 h
  obtain ⟨rest, hrest⟩ := hfront
  obtain ⟨n, hn, hleads⟩ := follow_eq_ok_iff.1 hplace
  rw [← hrest] at hleads
  obtain ⟨k, m, q, rfl, hfront, hback⟩ := leads_append.1 hleads
  refine ⟨q, follow_eq_ok_iff.2 ⟨k, Nat.le_of_add_right_le hn, hfront⟩, ?_⟩
  cases rest with
  | nil => cases hback; exact hget
  | cons piece rest => exact hback.directory

/-! ## More directories -/

/-- The second disk has all directories and the links of the first. -/
structure KeepsWays (d d' : Disk) : Prop where
  directories : ∀ q, d.get? q = some .directory → d'.get? q = some .directory
  links : d'.links = d.links

namespace KeepsWays

theorem link?_eq (hd : d.KeepsWays d') (q : Place) : d'.link? q = d.link? q := by
  rw [link?, link?, hd.links]

theorem linkless (hd : d.KeepsWays d') (h : d.Linkless) : d'.Linkless := hd.links.trans h

theorem step {piece : FileName} (hd : d.KeepsWays d') (h : d.step p piece = .ok q) :
    d'.step p piece = .ok q := by
  have hdir := (step_cases h).1
  unfold Disk.step at h ⊢
  rw [hdir] at h
  rw [hd.directories p hdir]
  exact h

theorem leads {k : Nat} {path : List FileName} (hd : d.KeepsWays d') (h : d.Leads k p path q) :
    d'.Leads k p path q := by
  induction h with
  | done => exact .done
  | step hstep hnone _ ih => exact .step (hd.step hstep) ((hd.link?_eq _).trans hnone) ih
  | link hstep hlink _ ih => exact .link (hd.step hstep) ((hd.link?_eq _).trans hlink) ih

theorem follow {path : List FileName} (hd : d.KeepsWays d') (h : d.follow p path = .ok q) :
    d'.follow p path = .ok q := by
  obtain ⟨k, hk, hleads⟩ := follow_eq_ok_iff.1 h
  exact follow_eq_ok_iff.2 ⟨k, hk, hd.leads hleads⟩

theorem place (hd : d.KeepsWays d') (h : d.place path = .ok p) : d'.place path = .ok p :=
  hd.follow h

theorem passes (hd : d.KeepsWays d') (h : d.Passes path p) : d'.Passes path p := by
  obtain ⟨front, hfront, hfollow⟩ := h
  exact ⟨front, hfront, hd.follow hfollow⟩

theorem find_directory (hd : d.KeepsWays d') (h : d.find path = .ok (p, .directory)) :
    d'.find path = .ok (p, .directory) := by
  obtain ⟨hplace, hget, -⟩ := find_eq_ok_iff.1 h
  exact find_eq_ok_iff.2 ⟨hd.place hplace, hd.directories p hget, fun _ => rfl⟩

end KeepsWays

theorem keepsWays_set (h : d.get? p ≠ some .directory) : d.KeepsWays (d.set p n) where
  directories := by
    intro q hq
    have hother : q ≠ p := fun e => h (e ▸ hq)
    rw [get?_set_of_ne hother, hq]
  links := rfl

/-- The second disk is the first with some directories more that a path passes. -/
structure Adds (d d' : Disk) (path : String) : Prop where
  get? : ∀ q, d'.get? q = d.get? q ∨
    d.get? q = none ∧ d'.get? q = some .directory ∧ d'.Passes path q
  links : d'.links = d.links
  closed : d'.closed = d.closed
  wellFormed : d.WellFormed → d'.WellFormed

namespace Adds

theorem refl (d : Disk) (path : String) : Adds d d path := ⟨fun _ => .inl rfl, rfl, rfl, id⟩

theorem mono {path' : String} (h : Adds d d' path) (hpath : pieces path <+: pieces path') :
    Adds d d' path' :=
  { h with
    get? := fun q =>
      (h.get? q).imp_right fun ⟨hnone, hdir, hq⟩ => ⟨hnone, hdir, hq.mono hpath⟩ }

theorem get?_eq_some (h : Adds d d' path) (hq : d.get? q = some n) : d'.get? q = some n := by
  rcases h.get? q with hsame | ⟨hnone, -, -⟩
  · rw [hsame, hq]
  · rw [hq] at hnone
    cases hnone

theorem keepsWays (h : Adds d d' path) : d.KeepsWays d' := ⟨fun _ => h.get?_eq_some, h.links⟩

theorem trans (h : Adds d d' path) (h' : Adds d' d'' path) : Adds d d'' path := by
  refine ⟨fun q => ?_, h'.links.trans h.links, h'.closed.trans h.closed,
    h'.wellFormed ∘ h.wellFormed⟩
  rcases h'.get? q with hsame | ⟨hnone, hdir, hq⟩
  · rw [hsame]
    exact (h.get? q).imp_right fun ⟨hnone, hdir, hq⟩ => ⟨hnone, hdir, h'.keepsWays.passes hq⟩
  · rcases h.get? q with hsame | ⟨-, hdir', -⟩
    · exact .inr ⟨hsame ▸ hnone, hdir, hq⟩
    · rw [hdir'] at hnone
      cases hnone

end Adds

/-! ## Making directories -/

theorem makeDirectory_eq_ok (h : d.makeDirectory path = .ok d') :
    ∃ p, d.place path = .ok p ∧ d.get? p = none ∧ d' = d.set p .directory := by
  unfold makeDirectory at h
  cases hentry : d.entry path with
  | error fault => rw [hentry] at h; cases h
  | ok p =>
    simp only [hentry, bind, Except.bind] at h
    split at h
    next => cases h
    next hfree =>
      cases h
      simp only [Bool.or_eq_true, not_or, Option.isSome_iff_ne_none, not_not] at hfree
      exact ⟨p, place_of_entry hentry hfree.2, hfree.1.2, rfl⟩

theorem makeDirectory_adds (h : d.makeDirectory path = .ok d') :
    Adds d d' path ∧ ∃ p, d'.find path = .ok (p, .directory) := by
  obtain ⟨p, hplace, hget, rfl⟩ := makeDirectory_eq_ok h
  have hp : p ≠ [] := fun e => by rw [e] at hget; cases hget
  have hplace' : (d.set p .directory).place path = .ok p :=
    (keepsWays_set (by simp [hget])).place hplace
  refine ⟨⟨fun q => ?_, rfl, rfl, fun hd => hd.set (reached_of_place hplace).plain⟩, p,
    find_eq_ok_iff.2 ⟨hplace', get?_set_self hp, fun _ => rfl⟩⟩
  by_cases hq : q = p
  · rw [hq]
    exact .inr ⟨hget, get?_set_self hp, passes_of_place hplace'⟩
  · exact .inl (get?_set_of_ne hq)

theorem ensureDirectory_adds (h : d.ensureDirectory path = .ok d') :
    Adds d d' path ∧ ∃ p, d'.find path = .ok (p, .directory) := by
  unfold ensureDirectory at h
  split at h
  next hmade =>
    cases h
    exact makeDirectory_adds hmade
  next =>
    split at h
    next hdir =>
      cases h
      exact ⟨.refl d _, isDirectory_iff.1 hdir⟩
    next => cases h

/-- Directories that the path passes are added, and nothing else is changed. -/
theorem makeDirectoriesUpTo_adds (fuel : Nat) (d : Disk) (path : String) :
    Adds d (makeDirectoriesUpTo fuel d path).1 path ∧
      ((makeDirectoriesUpTo fuel d path).2 = .ok () →
        ∃ p, (makeDirectoriesUpTo fuel d path).1.find path = .ok (p, .directory)) := by
  induction fuel generalizing d path with
  | zero => exact ⟨.refl d _, nofun⟩
  | succ fuel ih =>
    rw [makeDirectoriesUpTo]
    split
    next hempty => exact ⟨.refl d _, fun _ => ⟨[], by rw [hempty]; rfl⟩⟩
    next =>
      split
      next d' hmade =>
        obtain ⟨hadds, hfind⟩ := ensureDirectory_adds hmade
        exact ⟨hadds, fun _ => hfind⟩
      next =>
        split
        next => exact ⟨.refl d _, nofun⟩
        next parent hparent =>
          have hbefore := (ih d parent).1.mono (Path.isPrefix_pieces_parent? hparent)
          split
          next d₁ fault hrec =>
            rw [hrec] at hbefore
            exact ⟨hbefore, nofun⟩
          next d₁ hrec =>
            rw [hrec] at hbefore
            split
            next d₂ hmade =>
              obtain ⟨hadds, hfind⟩ := ensureDirectory_adds hmade
              exact ⟨hbefore.trans hadds, fun _ => hfind⟩
            next => exact ⟨hbefore, nofun⟩
      next => exact ⟨.refl d _, nofun⟩

theorem makeDirectories_adds (d : Disk) (path : String) :
    Adds d (d.makeDirectories path).1 path :=
  (makeDirectoriesUpTo_adds _ d path).1

theorem find_makeDirectories (h : (d.makeDirectories path).2 = .ok ()) :
    ∃ p, (d.makeDirectories path).1.find path = .ok (p, .directory) :=
  (makeDirectoriesUpTo_adds _ d path).2 h

/-- Directories that are there are not made again. -/
theorem makeDirectories_of_find (h : d.find path = .ok (p, .directory)) :
    d.makeDirectories path = (d, .ok ()) := by
  obtain ⟨hplace, hget, -⟩ := find_eq_ok_iff.1 h
  have hensure : d.ensureDirectory path = .ok d := by
    unfold ensureDirectory
    split
    next d' hmade =>
      obtain ⟨q, hplace', hget', -⟩ := makeDirectory_eq_ok hmade
      obtain rfl := Except.ok.inj (hplace.symm.trans hplace')
      rw [hget] at hget'
      cases hget'
    next => rw [if_pos (isDirectory_iff.2 ⟨p, h⟩)]
  rw [makeDirectories, makeDirectoriesUpTo, hensure]
  split <;> rfl

/-! ## Writing files -/

theorem write_eq_ok_iff {text : String} :
    d.write path text = .ok d' ↔ ∃ p, d.place path = .ok p ∧ d.get? p ≠ some .directory ∧
      d' = d.set p (.file (.text text)) := by
  unfold write
  cases hplace : d.place path with
  | error fault => simp [bind, Except.bind]
  | ok p =>
    simp only [bind, Except.bind, Except.ok.injEq, exists_eq_left']
    split
    next hdir => simp [hdir]
    next hdir =>
      rw [and_iff_right hdir, Except.ok.injEq]
      exact eq_comm

/-- A text that is written over itself leaves the disk as it is. -/
theorem write_set {text : String} (h : d.place path = .ok p) (hget : d.get? p ≠ some .directory) :
    (d.set p (.file (.text text))).write path text = .ok (d.set p (.file (.text text))) := by
  have hp : p ≠ [] := fun e => hget (by rw [e]; rfl)
  refine write_eq_ok_iff.2 ⟨p, (keepsWays_set hget).place h, ?_, set_set.symm⟩
  rw [get?_set_self hp]
  nofun

/-- The second disk is the first with a text in the file at `p`, to which `path` leads, and with the
directories that `dir` passes. -/
structure Publishes (d d' : Disk) (dir path : String) (p : Place) (text : String) : Prop where
  place : d'.place path = .ok p
  before : d.get? p ≠ some .directory
  file : d'.get? p = some (.file (.text text))
  read : d'.readText path = .ok text
  around : ∀ front, front <+: pieces dir →
    ∃ q, d'.follow [] front = .ok q ∧ d'.get? q = some .directory
  others : ∀ q, q ≠ p → d'.get? q = d.get? q ∨
    d.get? q = none ∧ d'.get? q = some .directory ∧ d'.Passes dir q
  links : d'.links = d.links
  closed : d'.closed = d.closed

end Disk

end DocAtlas
