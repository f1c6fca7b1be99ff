-- SUMMARY: Disks: the places that paths lead to, and the files that are listed below a place.
import DocAtlas.Disk
import DocAtlas.Proofs.List
import DocAtlas.Proofs.Path

/-! # Places on a disk

Where a path leads is said by a relation, with the number of links on the way
(`Leads`); a path is followed if there are few enough (`follow_eq_ok_iff`). A
path that leads somewhere leads to a place with plain names and directories all
the way, and the path of that place leads there again. On a well-formed disk the
files listed below a place are the files there whose names do not start with a
dot and whose directories can be listed, each listed once. -/

namespace DocAtlas

open Text

/-! ## Paths of places -/

namespace Place

variable {p : Place}

theorem names_path (h : ∀ name ∈ p, IsPlain name) : Path.names p.path = p :=
  Path.names_slash_joinWith h

theorem pieces_path (h : ∀ name ∈ p, IsPlain name) : Disk.pieces p.path = p := by
  have hread := filter_splitOn_joinWith fun name hn => ⟨(h name hn).ne_nil, (h name hn).no_slash⟩
  rw [Disk.pieces, path, String.toList_ofList, splitOn, if_pos rfl,
    List.filter_cons_of_neg (by simp), hread]

theorem getLast?_path_ne (hne : p ≠ []) (h : ∀ name ∈ p, IsPlain name) :
    p.path.toList.getLast? ≠ some '/' := by
  rw [path, String.toList_ofList]
  exact getLast?_slash_joinWith_ne hne h

/-- Names joined to the path of a place lead on from there. -/
theorem join_path {rel : Place} (h : ∀ name ∈ p ++ rel, IsPlain name) (hrel : rel ≠ []) :
    Path.join p.path (String.ofList (joinWith '/' rel)) = path (p ++ rel) := by
  obtain ⟨name, rest, rfl⟩ := List.exists_cons_of_ne_nil hrel
  have hname := h name (by simp)
  have habs : Path.isAbsolute (String.ofList (joinWith '/' (name :: rest))) = false := by
    obtain ⟨c, cs, rfl⟩ := List.exists_cons_of_ne_nil hname.ne_nil
    have hc : c ≠ '/' := fun e => hname.no_slash (by simp [e])
    simp [Path.isAbsolute, joinWith_cons, hc]
  rw [Path.join, if_neg (by simp [habs])]
  by_cases hp : p = []
  · simp [hp, path, joinWith]
  · have hend := getLast?_path_ne hp fun n hn => h n (List.mem_append_left _ hn)
    have hempty : p.path ≠ "" := by simp [path]
    rw [if_neg (not_or.2 ⟨hempty, hend⟩), path, path, joinWith_append '/' hp hrel]
    simp [String.append_assoc]

theorem parent?_path (h : ∀ name ∈ p, IsPlain name) (hne : p ≠ []) :
    Path.parent? p.path = some (path p.dropLast) := by
  have hp : p.dropLast ++ [p.getLast hne] = p := List.dropLast_append_getLast hne
  rw [← hp] at h
  have hparent := Path.parent?_slash_joinWith h
  rwa [hp] at hparent

theorem join_path_of_relative {rel : String} (h : ∀ name ∈ p, IsPlain name)
    (hrel : Path.isAbsolute rel = false) :
    Path.join p.path rel
      = String.ofList
        ('/' :: if p = [] then rel.toList else joinWith '/' p ++ '/' :: rel.toList) := by
  rw [Path.join, if_neg (by simp [hrel])]
  by_cases hp : p = []
  · simp [hp, path, joinWith, String.ofList_cons]
  · have hempty : p.path ≠ "" := by simp [path]
    rw [if_neg (not_or.2 ⟨hempty, getLast?_path_ne hp h⟩), if_neg hp, path]
    simp [String.append_assoc]

/-- A relative path that is taken from a place is cleaned to the place that it leads to. -/
theorem clean_join_path {target : Place} {rel : String} (hp : ∀ name ∈ p, IsPlain name)
    (hrel : Path.isAbsolute rel = false) (h : Path.Leads p (splitOn '/' rel.toList) target) :
    Path.clean (Path.join p.path rel) = some target.path := by
  rw [join_path_of_relative hp hrel]
  apply Path.clean_slash_of_leads
  split
  next hnil => exact hnil ▸ h
  next hne =>
    rw [splitOn_append, splitOn_joinWith hne fun n hn => (hp n hn).no_slash]
    exact h.names_append hp

end Place

namespace Disk

variable {d : Disk} {p q : Place}

/-! ## Following paths -/

theorem ne_nil_of_mem_pieces {path : String} {piece : FileName} (h : piece ∈ pieces path) :
    piece ≠ [] ∧ '/' ∉ piece := by
  obtain ⟨hmem, hne⟩ := List.mem_filter.1 h
  exact ⟨by simpa using hne, not_mem_of_mem_splitOn hmem⟩

theorem ne_nil_of_mem_linkPieces {target : String} {piece : FileName}
    (h : piece ∈ linkPieces target) : piece ≠ [] ∧ '/' ∉ piece := by
  rcases List.mem_append.1 h with h | h
  · exact ne_nil_of_mem_pieces h
  · split at h
    next => cases List.mem_singleton.1 h; decide
    next => cases h

theorem pieces_join {base path : String} (h : Path.isAbsolute path = false) :
    pieces (Path.join base path) = pieces base ++ pieces path := by
  rw [Path.join, if_neg (by simp [h])]
  split
  next hbase =>
    rcases hbase with rfl | hend
    · simp [pieces, splitOn]
    · obtain ⟨front, hfront⟩ := List.getLast?_eq_some_iff.1 hend
      simp [pieces, hfront, splitOn_append, splitOn]
  next => simp [pieces, splitOn_append]

/-- What one piece of a path can do. -/
theorem step_cases {piece : FileName} (h : d.step p piece = .ok q) :
    d.get? p = some .directory ∧
      (piece = ['.'] ∧ q = p ∨ piece = ['.', '.'] ∧ q = p.dropLast ∨
        piece ≠ ['.'] ∧ piece ≠ ['.', '.'] ∧ (Text.Utf8.encode piece).length ≤ nameLimit ∧
          q = p ++ [piece]) := by
  unfold step at h
  split at h
  next => cases h
  next => cases h
  next hdir =>
    refine ⟨hdir, ?_⟩
    split at h
    next hdot => cases h; exact .inl ⟨hdot, rfl⟩
    next hdot =>
      split at h
      next hdots => cases h; exact .inr (.inl ⟨hdots, rfl⟩)
      next hdots =>
        split at h
        next => cases h
        next hshort => cases h; exact .inr (.inr ⟨hdot, hdots, Nat.not_lt.1 hshort, rfl⟩)

/-- Following a path leads from `p` to `q`, through `n` links. -/
inductive Leads (d : Disk) : (n : Nat) → (p : Place) → (path : List FileName) → (q : Place) → Prop
  | done {p : Place} : Leads d 0 p [] p
  | step {n : Nat} {p q r : Place} {piece : FileName} {rest : List FileName}
      (hstep : d.step p piece = .ok q) (hnone : d.link? q = none) (hrest : Leads d n q rest r) :
      Leads d n p (piece :: rest) r
  | link {n : Nat} {p q r : Place} {piece : FileName} {rest : List FileName} {target : String}
      (hstep : d.step p piece = .ok q) (hlink : d.link? q = some target)
      (hrest : Leads d n (linkBase q target) (linkPieces target ++ rest) r) :
      Leads d (n + 1) p (piece :: rest) r

theorem stretch_cons {piece : FileName} {rest : List FileName} {s : Stretch} :
    d.stretch p (piece :: rest) = .ok s ↔ ∃ q, d.step p piece = .ok q ∧
      ((∃ target, d.link? q = some target ∧
        s = .upToLink (linkBase q target) (linkPieces target ++ rest)) ∨
      d.link? q = none ∧ d.stretch q rest = .ok s) := by
  rw [stretch]
  cases d.step p piece with
  | error fault => simp [bind, Except.bind]
  | ok q => cases hlink : d.link? q <;> simp [bind, Except.bind, hlink, eq_comm]

theorem leads_of_stretch {path : List FileName} (h : d.stretch p path = .ok (.whole q)) :
    d.Leads 0 p path q := by
  induction path generalizing p with
  | nil => cases h; exact .done
  | cons piece rest ih =>
    obtain ⟨next, hstep, ⟨target, -, hcase⟩ | ⟨hnone, hrest⟩⟩ := stretch_cons.1 h
    · cases hcase
    · exact .step hstep hnone (ih hrest)

theorem leads_succ_of_stretch {path rest : List FileName} {r : Place} {n : Nat}
    (h : d.stretch p path = .ok (.upToLink r rest)) (hrest : d.Leads n r rest q) :
    d.Leads (n + 1) p path q := by
  induction path generalizing p with
  | nil => cases h
  | cons piece path ih =>
    obtain ⟨next, hstep, ⟨target, hlink, hcase⟩ | ⟨hnone, hnext⟩⟩ := stretch_cons.1 h
    · cases hcase
      exact .link hstep hlink hrest
    · exact .step hstep hnone (ih hnext)

theorem followFor_succ {k : Nat} {path : List FileName} :
    d.followFor (k + 1) p path = .ok q ↔ d.stretch p path = .ok (.whole q) ∨
      ∃ r rest, d.stretch p path = .ok (.upToLink r rest) ∧ d.followFor k r rest = .ok q := by
  rw [followFor]
  cases d.stretch p path with
  | error fault => simp [bind, Except.bind]
  | ok s => cases s <;> simp [bind, Except.bind]

theorem followFor_eq_ok_iff {k : Nat} {path : List FileName} :
    d.followFor k p path = .ok q ↔ ∃ n < k, d.Leads n p path q := by
  constructor
  · intro h
    induction k generalizing p path with
    | zero => cases h
    | succ k ih =>
      obtain hwhole | ⟨r, rest, hstretch, hrest⟩ := followFor_succ.1 h
      · exact ⟨0, Nat.succ_pos k, leads_of_stretch hwhole⟩
      · obtain ⟨n, hn, hleads⟩ := ih hrest
        exact ⟨n + 1, Nat.succ_lt_succ hn, leads_succ_of_stretch hstretch hleads⟩
  · rintro ⟨n, hn, hleads⟩
    induction hleads generalizing k with
    | done =>
      obtain ⟨k, rfl⟩ := Nat.exists_eq_add_one_of_ne_zero (Nat.ne_zero_of_lt hn)
      exact followFor_succ.2 (.inl rfl)
    | step hstep hnone _ ih =>
      obtain ⟨k, rfl⟩ := Nat.exists_eq_add_one_of_ne_zero (Nat.ne_zero_of_lt hn)
      refine followFor_succ.2 ((followFor_succ.1 (ih hn)).imp ?_ ?_)
      · exact fun hwhole => stretch_cons.2 ⟨_, hstep, .inr ⟨hnone, hwhole⟩⟩
      · rintro ⟨r, rest, hstretch, hrest⟩
        exact ⟨r, rest, stretch_cons.2 ⟨_, hstep, .inr ⟨hnone, hstretch⟩⟩, hrest⟩
    | link hstep hlink _ ih =>
      obtain ⟨k, rfl⟩ := Nat.exists_eq_add_one_of_ne_zero (Nat.ne_zero_of_lt hn)
      refine followFor_succ.2 (.inr ⟨_, _, stretch_cons.2 ?_, ih (Nat.lt_of_succ_lt_succ hn)⟩)
      exact ⟨_, hstep, .inl ⟨_, hlink, rfl⟩⟩

/-- A path is followed where it leads through few enough links. -/
theorem follow_eq_ok_iff {path : List FileName} :
    d.follow p path = .ok q ↔ ∃ n ≤ linkLimit, d.Leads n p path q := by
  rw [follow, followFor_eq_ok_iff]
  simp only [Nat.lt_succ_iff]

theorem follow_nil : d.follow p [] = .ok p := rfl

theorem Leads.follow {path : List FileName} (h : d.Leads 0 p path q) : d.follow p path = .ok q :=
  follow_eq_ok_iff.2 ⟨0, Nat.zero_le _, h⟩

theorem leads_append {n : Nat} {front rest : List FileName} :
    d.Leads n p (front ++ rest) q ↔
      ∃ k m r, n = k + m ∧ d.Leads k p front r ∧ d.Leads m r rest q := by
  constructor
  · intro h
    generalize hpath : front ++ rest = path at h
    induction h generalizing front with
    | done =>
      obtain ⟨rfl, rfl⟩ := List.append_eq_nil_iff.1 hpath
      exact ⟨0, 0, _, rfl, .done, .done⟩
    | @step n p q r piece path hstep hnone hrest ih =>
      cases front with
      | nil =>
        obtain rfl : rest = piece :: path := hpath
        exact ⟨0, n, p, (Nat.zero_add n).symm, .done, .step hstep hnone hrest⟩
      | cons first front =>
        obtain ⟨rfl, rfl⟩ := List.cons.inj hpath
        obtain ⟨k, m, r, hn, hfront, hback⟩ := ih rfl
        exact ⟨k, m, r, hn, .step hstep hnone hfront, hback⟩
    | @link n p q r piece path target hstep hlink hrest ih =>
      cases front with
      | nil =>
        obtain rfl : rest = piece :: path := hpath
        exact ⟨0, n + 1, p, (Nat.zero_add _).symm, .done, .link hstep hlink hrest⟩
      | cons first front =>
        obtain ⟨rfl, rfl⟩ := List.cons.inj hpath
        obtain ⟨k, m, r, hn, hfront, hback⟩ := ih (List.append_assoc _ front rest)
        exact ⟨k + 1, m, r, by omega, .link hstep hlink hfront, hback⟩
  · rintro ⟨k, m, r, rfl, hfront, hback⟩
    induction hfront with
    | done => simpa using hback
    | step hstep hnone _ ih => exact .step hstep hnone (ih hback)
    | @link k _ _ _ _ _ _ hstep hlink _ ih =>
      rw [Nat.add_right_comm]
      exact .link hstep hlink (List.append_assoc _ _ _ ▸ ih hback)

/-! ## Disks without links -/

/-- There are no links on the disk. -/
def Linkless (d : Disk) : Prop := d.links = []

theorem Linkless.link?_eq_none (h : d.Linkless) (p : Place) : d.link? p = none := by
  unfold Linkless at h
  simp [link?, h]

theorem Linkless.eq_zero_of_leads {n : Nat} {path : List FileName} (h : d.Linkless)
    (hleads : d.Leads n p path q) : n = 0 := by
  induction hleads with
  | done => rfl
  | step _ _ _ ih => exact ih
  | link _ hlink =>
    rw [h.link?_eq_none] at hlink
    cases hlink

theorem Linkless.follow_iff {path : List FileName} (h : d.Linkless) :
    d.follow p path = .ok q ↔ d.Leads 0 p path q := by
  rw [follow_eq_ok_iff]
  constructor
  · rintro ⟨n, -, hleads⟩
    exact h.eq_zero_of_leads hleads ▸ hleads
  · exact fun hleads => ⟨0, Nat.zero_le _, hleads⟩

theorem Linkless.follow_cons {piece : FileName} {rest : List FileName} (h : d.Linkless) :
    d.follow p (piece :: rest) = .ok q ↔
      ∃ next, d.step p piece = .ok next ∧ d.follow next rest = .ok q := by
  simp only [h.follow_iff]
  constructor
  · intro hleads
    cases hleads with
    | step hstep _ hrest => exact ⟨_, hstep, hrest⟩
  · rintro ⟨next, hstep, hrest⟩
    exact .step hstep (h.link?_eq_none next) hrest

theorem Linkless.follow_append {front rest : List FileName} (h : d.Linkless) :
    d.follow p (front ++ rest) = .ok q ↔
      ∃ m, d.follow p front = .ok m ∧ d.follow m rest = .ok q := by
  simp only [h.follow_iff, leads_append]
  constructor
  · rintro ⟨k, m, r, hsum, hfront, hback⟩
    obtain ⟨rfl, rfl⟩ := Nat.eq_zero_of_add_eq_zero hsum.symm
    exact ⟨r, hfront, hback⟩
  · rintro ⟨r, hfront, hback⟩
    exact ⟨0, 0, r, rfl, hfront, hback⟩

/-- Without `..` a path leads down by its names. -/
theorem Linkless.eq_append_of_follow {path : List FileName} (hd : d.Linkless)
    (hup : ['.', '.'] ∉ path) (h : d.follow p path = .ok q) :
    q = p ++ path.filter (· ≠ ['.']) := by
  induction path generalizing p with
  | nil =>
    rw [follow_nil] at h
    cases h
    simp
  | cons piece rest ih =>
    obtain ⟨next, hstep, hrest⟩ := hd.follow_cons.1 h
    rw [List.mem_cons, not_or] at hup
    rw [ih hup.2 hrest]
    obtain ⟨-, ⟨hdot, rfl⟩ | ⟨hdots, -⟩ | ⟨hdot, -, -, rfl⟩⟩ := step_cases hstep
    · simp [hdot]
    · exact absurd hdots.symm hup.1
    · simp [hdot]

/-! ## Places that are reached -/

/-- There is no link at the place or around it. -/
def Unlinked (d : Disk) (p : Place) : Prop := ∀ q, q <+: p → d.link? q = none

namespace Unlinked

theorem root (d : Disk) : Unlinked d [] := by
  intro q hq
  rw [List.prefix_nil.1 hq]
  rfl

theorem of_prefix (h : Unlinked d p) (hq : q <+: p) : Unlinked d q :=
  fun r hr => h r (hr.trans hq)

theorem concat {name : FileName} (h : Unlinked d p) (hnone : d.link? (p ++ [name]) = none) :
    Unlinked d (p ++ [name]) := by
  intro q hq
  rcases List.prefix_concat_iff.1 hq with rfl | hq
  · exact hnone
  · exact h q hq

theorem step {piece : FileName} (h : Unlinked d p) (hstep : d.step p piece = .ok q)
    (hnone : d.link? q = none) : Unlinked d q := by
  obtain ⟨-, ⟨-, rfl⟩ | ⟨-, rfl⟩ | ⟨-, -, -, rfl⟩⟩ := step_cases hstep
  · exact h
  · exact h.of_prefix (List.dropLast_prefix p)
  · exact h.concat hnone

/-- A link that is met on the way is named by a piece, and its target is taken from before it. -/
theorem linkBase_prefix {piece : FileName} {target : String} (h : Unlinked d p)
    (hstep : d.step p piece = .ok q) (hlink : d.link? q = some target) :
    linkBase q target <+: p := by
  have hnone {r : Place} (hr : r <+: p) : d.link? r ≠ some target := by simp [h r hr]
  unfold linkBase
  split
  next => exact List.nil_prefix
  next =>
    obtain ⟨-, ⟨-, rfl⟩ | ⟨-, rfl⟩ | ⟨-, -, -, rfl⟩⟩ := step_cases hstep
    · exact absurd hlink (hnone List.prefix_rfl)
    · exact absurd hlink (hnone (List.dropLast_prefix p))
    · exact ⟨[], by simp⟩

end Unlinked

/-- A place that can be gone to from the root by its names. -/
structure Reached (d : Disk) (p : Place) : Prop where
  plain : ∀ name ∈ p, IsPlain name
  short : ∀ name ∈ p, (Text.Utf8.encode name).length ≤ nameLimit
  around : ∀ q, q <+: p → q ≠ p → d.get? q = some .directory
  unlinked : d.Unlinked p

namespace Reached

theorem root (d : Disk) : Reached d [] where
  plain := by simp
  short := by simp
  around := fun _ hq hne => absurd (List.prefix_nil.1 hq) hne
  unlinked := .root d

theorem of_prefix (h : Reached d p) (hq : q <+: p) : Reached d q where
  plain := fun name hn => h.plain name (hq.mem hn)
  short := fun name hn => h.short name (hq.mem hn)
  around := fun r hr hne =>
    h.around r (hr.trans hq) fun e => hne (hr.eq_of_length_le (e ▸ hq.length_le))
  unlinked := h.unlinked.of_prefix hq

theorem concat {name : FileName} (h : Reached d p) (hdir : d.get? p = some .directory)
    (hname : IsPlain name) (hshort : (Text.Utf8.encode name).length ≤ nameLimit)
    (hnone : d.link? (p ++ [name]) = none) : Reached d (p ++ [name]) := by
  refine ⟨?_, ?_, ?_, h.unlinked.concat hnone⟩
  · simpa [or_imp, forall_and] using ⟨h.plain, hname⟩
  · simpa [or_imp, forall_and] using ⟨h.short, hshort⟩
  · intro q hq hne
    rcases List.prefix_concat_iff.1 hq with rfl | hq
    · exact absurd rfl hne
    · by_cases hqp : q = p
      · exact hqp ▸ hdir
      · exact h.around q hq hqp

theorem step {piece : FileName} (h : Reached d p) (hpiece : piece ≠ [] ∧ '/' ∉ piece)
    (hstep : d.step p piece = .ok q) (hnone : d.link? q = none) : Reached d q := by
  obtain ⟨hdir, ⟨-, rfl⟩ | ⟨-, rfl⟩ | ⟨hdot, hdots, hshort, rfl⟩⟩ := step_cases hstep
  · exact h
  · exact h.of_prefix (List.dropLast_prefix p)
  · exact h.concat hdir ⟨hpiece.1, hdot, hdots, hpiece.2⟩ hshort hnone

theorem leads {n : Nat} {path : List FileName} (h : Reached d p)
    (hpath : ∀ piece ∈ path, piece ≠ [] ∧ '/' ∉ piece) (hleads : d.Leads n p path q) :
    Reached d q := by
  induction hleads with
  | done => exact h
  | step hstep hnone _ ih =>
    exact ih (h.step (hpath _ List.mem_cons_self) hstep hnone)
      fun r hr => hpath r (List.mem_cons_of_mem _ hr)
  | link hstep hlink _ ih =>
    refine ih (h.of_prefix (h.unlinked.linkBase_prefix hstep hlink)) fun r hr => ?_
    rcases List.mem_append.1 hr with hr | hr
    · exact ne_nil_of_mem_linkPieces hr
    · exact hpath r (List.mem_cons_of_mem _ hr)

theorem leads_self {rel : Place} (h : Reached d (p ++ rel)) : d.Leads 0 p rel (p ++ rel) := by
  induction rel generalizing p with
  | nil => simpa using Leads.done
  | cons name rel ih =>
    have hplain := h.plain name (by simp)
    have hshort := h.short name (by simp)
    have hdir := h.around p (List.prefix_append p _) (by simp)
    have hstep : d.step p name = .ok (p ++ [name]) := by
      simp [Disk.step, hdir, hplain.ne_dot, hplain.ne_dots, Nat.not_lt.2 hshort]
    rw [List.append_cons] at h ⊢
    exact .step hstep (h.unlinked _ (List.prefix_append _ _)) (ih h)

end Reached

theorem reached_of_place {path : String} (h : d.place path = .ok p) : Reached d p := by
  obtain ⟨n, -, hleads⟩ := follow_eq_ok_iff.1 h
  exact (Reached.root d).leads (fun _ => ne_nil_of_mem_pieces) hleads

theorem reached_of_find {path : String} {n : Node} (h : d.find path = .ok (p, n)) :
    d.place path = .ok p ∧ Reached d p ∧ d.get? p = some n := by
  unfold find at h
  cases hplace : d.place path with
  | error fault => rw [hplace] at h; cases h
  | ok place =>
    rw [hplace] at h
    dsimp only [bind, Except.bind] at h
    have hreached := reached_of_place hplace
    split at h
    next => cases h
    next hget =>
      split at h
      next => cases h
      next => cases h; exact ⟨rfl, hreached, hget⟩
    next hget => cases h; exact ⟨rfl, hreached, hget⟩

theorem Reached.place_path (h : Reached d p) : d.place p.path = .ok p := by
  rw [place, Place.pieces_path h.plain]
  exact (Reached.leads_self (p := []) h).follow

theorem Reached.find_path (h : Reached d p) (hdir : d.get? p = some .directory) :
    d.find p.path = .ok (p, .directory) := by
  rw [find, h.place_path]
  simp [bind, Except.bind, hdir]

/-- Paths are taken from the root anyway. -/
theorem find_join_root (d : Disk) (path : String) : d.find (Path.join "/" path) = d.find path := by
  by_cases habs : Path.isAbsolute path = true
  · rw [Path.join, if_pos habs]
  · have hsplit : splitOn '/' (Path.join "/" path).toList = [] :: splitOn '/' path.toList := by
      simp [Path.join, habs, splitOn]
    have hpieces : pieces (Path.join "/" path) = pieces path := by simp [pieces, hsplit]
    have hends : endsAsDirectory (Path.join "/" path) = endsAsDirectory path := by
      obtain ⟨first, rest, hcons⟩ := List.exists_cons_of_ne_nil (splitOn_ne_nil '/' path.toList)
      simp only [endsAsDirectory, hsplit, hcons, List.getLast?_cons_cons]
    simp only [find, place, hpieces, hends]

theorem isDirectory_iff {path : String} :
    d.isDirectory path = true ↔ ∃ p, d.find path = .ok (p, .directory) := by
  unfold isDirectory
  split
  next p hfind => exact ⟨fun _ => ⟨p, hfind⟩, fun _ => rfl⟩
  next hfind =>
    simp only [Bool.false_eq_true, false_iff, not_exists]
    exact hfind

theorem normalize_of_find {path : String} {n : Node} (hpath : path ≠ "")
    (h : d.find path = .ok (p, n)) : d.normalize "/" path = p.path := by
  simp [normalize, hpath, canonical?, find_join_root, h]

/-- The canonical form of a path leads to a directory if the path does. -/
theorem isDirectory_normalize {path : String} (hpath : path ≠ "") :
    d.isDirectory (d.normalize "/" path) = d.isDirectory path := by
  rw [Bool.eq_iff_iff, isDirectory_iff, isDirectory_iff]
  cases hfind : d.find path with
  | error fault => simp [normalize, hpath, canonical?, find_join_root, hfind]
  | ok found =>
    obtain ⟨p, n⟩ := found
    obtain ⟨-, hreached, hget⟩ := reached_of_find hfind
    rw [normalize_of_find hpath hfind]
    cases n with
    | directory => exact ⟨fun _ => ⟨p, rfl⟩, fun _ => ⟨p, hreached.find_path hget⟩⟩
    | file data =>
      constructor
      · rintro ⟨q, hq⟩
        obtain ⟨hplace, -, hdir⟩ := reached_of_find hq
        obtain rfl := Except.ok.inj (hplace.symm.trans hreached.place_path)
        rw [hget] at hdir
        cases hdir
      · rintro ⟨q, hq⟩
        cases hq

/-- A canonical form that leads to a directory is the path of that directory. -/
theorem normalize_eq_path {path : String} (h : d.find (d.normalize "/" path) = .ok (p, .directory)) :
    d.normalize "/" path = p.path ∧ d.find path = .ok (p, .directory) := by
  by_cases hpath : path = ""
  · subst hpath
    have hroot : d.normalize "/" "" = Place.path [] := rfl
    have hfind : d.find (Place.path []) = .ok ([], .directory) := rfl
    rw [hroot, hfind] at h
    cases h
    exact ⟨hroot, rfl⟩
  · have hdir : d.isDirectory path = true := by
      rw [← isDirectory_normalize hpath]
      exact isDirectory_iff.2 ⟨p, h⟩
    obtain ⟨q, hq⟩ := isDirectory_iff.1 hdir
    obtain ⟨-, hreached, hget⟩ := reached_of_find hq
    rw [normalize_of_find hpath hq] at h ⊢
    rw [hreached.find_path hget] at h
    cases h
    exact ⟨rfl, hq⟩

theorem isFile_empty (path : String) : isFile {} path = false := by
  unfold isFile find
  cases place {} path with
  | error => rfl
  | ok p =>
    by_cases hp : p = []
    · simp [get?, hp, bind, Except.bind]
    · simp [get?, hp, bind, Except.bind]

/-! ## Listing -/

/-- There is one node at a place, and names are neither empty nor several. -/
structure WellFormed (d : Disk) : Prop where
  distinct : (d.nodes.map (·.1)).Nodup
  named : ∀ e ∈ d.nodes, ∀ name ∈ e.1, name ≠ [] ∧ '/' ∉ name

theorem get?_eq_file_iff (hd : d.WellFormed) {data : FileData} :
    d.get? p = some (.file data) ↔ p ≠ [] ∧ (p, .file data) ∈ d.nodes := by
  unfold get?
  split
  next hp => simp [hp]
  next hp =>
    rw [Option.map_eq_some_iff]
    constructor
    · rintro ⟨⟨q, n⟩, hfind, rfl⟩
      obtain ⟨hmem, rfl⟩ := (find?_key_eq_some_iff hd.distinct).1 hfind
      exact ⟨hp, hmem⟩
    · rintro ⟨-, hmem⟩
      exact ⟨_, (find?_key_eq_some_iff hd.distinct).2 ⟨hmem, rfl⟩, rfl⟩

theorem below?_eq_some_iff {rel : Place} : below? p q = some rel ↔ q = p ++ rel := by
  induction p generalizing q with
  | nil => simp [below?, eq_comm]
  | cons name p ih =>
    cases q with
    | nil => simp [below?]
    | cons name' q =>
      by_cases h : name = name'
      · simp [below?, h, ih]
      · simp [below?, h, Ne.symm h]

theorem isOpen_iff {rel : Place} :
    d.isOpen p rel = true ↔ ∀ front, front <+: rel → front ≠ rel → p ++ front ∉ d.closed := by
  induction rel generalizing p with
  | nil => simp [isOpen]
  | cons name rel ih =>
    simp only [isOpen, Bool.and_eq_true, Bool.not_eq_true', List.contains_eq_mem,
      decide_eq_false_iff_not, ih]
    constructor
    · rintro ⟨hp, hrest⟩ front hfront hne
      rcases List.prefix_cons_iff.1 hfront with rfl | ⟨front, rfl, hbelow⟩
      · simpa using hp
      · simpa using hrest front hbelow fun e => hne (e ▸ rfl)
    · intro h
      refine ⟨by simpa using h [] List.nil_prefix (by simp), fun front hfront hne => ?_⟩
      have hopen := h (name :: front) (List.cons_prefix_cons.2 ⟨rfl, hfront⟩) (by simpa using hne)
      simpa using hopen

/-- The names from the place `p` to a listed file below it. -/
def listedBelow? (d : Disk) (p : Place) (e : Place × Node) : Option Place :=
  match e.2 with
  | .file _ => (below? p e.1).filter fun rel => rel ≠ [] && isListed rel && d.isOpen p rel
  | .directory => none

theorem listedBelow?_eq_some_iff {e : Place × Node} {rel : Place} :
    d.listedBelow? p e = some rel ↔ rel ≠ [] ∧ isListed rel = true ∧ d.isOpen p rel = true ∧
      ∃ data, e = (p ++ rel, .file data) := by
  obtain ⟨q, n⟩ := e
  cases n with
  | directory => simp [listedBelow?]
  | file data =>
    simp only [listedBelow?, Option.filter_eq_some_iff, below?_eq_some_iff, Bool.and_eq_true,
      decide_eq_true_eq, Prod.mk.injEq, Node.file.injEq, exists_and_left, exists_eq', and_true]
    tauto

theorem filesBelow_eq (d : Disk) (p : Place) :
    d.filesBelow p
      = (d.nodes.filterMap (d.listedBelow? p)).mergeSort fun a b => !decide (b < a) :=
  rfl

theorem mem_filesBelow (hd : d.WellFormed) {rel : Place} :
    rel ∈ d.filesBelow p ↔ rel ≠ [] ∧ isListed rel = true ∧ d.isOpen p rel = true ∧
      ∃ data, d.get? (p ++ rel) = some (.file data) := by
  simp only [filesBelow_eq, List.mem_mergeSort, List.mem_filterMap, listedBelow?_eq_some_iff,
    get?_eq_file_iff hd]
  constructor
  · rintro ⟨e, hmem, hne, hlisted, hopen, data, rfl⟩
    exact ⟨hne, hlisted, hopen, data, by simp [hne], hmem⟩
  · rintro ⟨hne, hlisted, hopen, data, -, hmem⟩
    exact ⟨_, hmem, hne, hlisted, hopen, data, rfl⟩

theorem nodup_filesBelow (hd : d.WellFormed) (p : Place) : (d.filesBelow p).Nodup := by
  rw [filesBelow_eq, (List.mergeSort_perm _ _).nodup_iff]
  refine List.pairwise_filterMap.2 ((List.pairwise_map.1 hd.distinct).imp ?_)
  rintro e e' hne rel hrel rel' hrel' rfl
  obtain ⟨-, -, -, data, rfl⟩ := listedBelow?_eq_some_iff.1 hrel
  obtain ⟨-, -, -, data', rfl⟩ := listedBelow?_eq_some_iff.1 hrel'
  exact hne rfl

end Disk

end DocAtlas
