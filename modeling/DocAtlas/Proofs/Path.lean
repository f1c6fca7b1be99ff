-- SUMMARY: Paths of plain names and other spellings: their components, what lies below a base, where relative paths lead, and extensions.
import DocAtlas.Path
import DocAtlas.Proofs.Text

/-! # Paths of plain names

A list of plain names joined by slashes, with a slash in front or without, is
the path that the other functions on paths read most easily: its components are
the names, and cutting off a base drops the names of the base. A relative path
leads from such a path to another one, piece by piece. Other spellings of a path
are followed through their components alone. -/

namespace DocAtlas.Path

open Text

variable {names : List (List Char)}

/-! ## Components -/

theorem piece?_of_isPlain {piece : List Char} (h : IsPlain piece) :
    piece? piece = some (.name piece) := by
  simp [piece?, h.ne_nil, h.ne_dot, h.ne_dots]

theorem exists_piece? {piece : List Char} (h : ¬ (piece = [] ∨ piece = ['.'])) :
    ∃ comp, piece? piece = some comp := by
  rw [piece?, if_neg h]
  split <;> exact ⟨_, rfl⟩

theorem filterMap_piece?_of_isPlain (h : ∀ name ∈ names, IsPlain name) :
    names.filterMap piece? = names.map .name := by
  rw [← List.filterMap_eq_map]
  exact List.filterMap_congr fun name hname => piece?_of_isPlain (h name hname)

theorem parent_mem_filterMap_iff {pieces : List (List Char)} :
    .parent ∈ pieces.filterMap piece? ↔ ['.', '.'] ∈ pieces := by
  rw [List.mem_filterMap]
  constructor
  · rintro ⟨piece, hmem, hpiece⟩
    unfold piece? at hpiece
    split at hpiece
    next => cases hpiece
    next =>
      split at hpiece
      next hdots => exact hdots ▸ hmem
      next => cases hpiece
  · exact fun hmem => ⟨_, hmem, rfl⟩

/-- Without `..`, what is neither empty nor `.` is a name. -/
theorem filterMap_piece?_of_no_parent {pieces : List (List Char)} (h : ['.', '.'] ∉ pieces) :
    pieces.filterMap piece? = ((pieces.filter (· ≠ [])).filter (· ≠ ['.'])).map .name := by
  induction pieces with
  | nil => rfl
  | cons piece pieces ih =>
    rw [List.mem_cons, not_or] at h
    have hrest := ih h.2
    by_cases hnil : piece = []
    · simp [hnil, hrest, piece?]
    · by_cases hdot : piece = ['.']
      · simp [hdot, hrest, piece?]
      · simp [hnil, hdot, hrest, piece?, Ne.symm h.1]

/-- The components of a text behind the start of a path. -/
def inner (cs : List Char) : List Component := (splitOn '/' cs).filterMap piece?

theorem inner_append_slash (front rest : List Char) :
    inner (front ++ '/' :: rest) = inner front ++ inner rest := by
  simp [inner, splitOn_append]

theorem inner_slash (cs : List Char) : inner ('/' :: cs) = inner cs := by
  rw [inner, splitOn, if_pos rfl, List.filterMap_cons_none rfl, inner]

theorem inner_joinWith {pieces : List (List Char)} (h : ∀ piece ∈ pieces, '/' ∉ piece) :
    inner (joinWith '/' pieces) = pieces.filterMap piece? := by
  cases pieces with
  | nil => rfl
  | cons piece pieces => rw [inner, splitOn_joinWith (List.cons_ne_nil piece pieces) h]

theorem inner_flatMap {pieces : List (List Char)} (h : ∀ piece ∈ pieces, '/' ∉ piece) :
    inner (pieces.flatMap ('/' :: ·)) = pieces.filterMap piece? := by
  cases pieces with
  | nil => rfl
  | cons piece pieces =>
    rw [List.flatMap_cons, List.cons_append, ← joinWith_cons, inner_slash, inner_joinWith h]

theorem filterMap_piece?_joinWith (h : ∀ name ∈ names, IsPlain name) :
    (splitOn '/' (joinWith '/' names)).filterMap piece? = names.map .name := by
  rw [← filterMap_piece?_of_isPlain h]
  exact inner_joinWith fun name hname => (h name hname).no_slash

/-- A text that starts neither at the root nor with a `.` has its inner components. -/
theorem parts_eq_inner {cs : List Char} (hslash : cs.head? ≠ some '/')
    (hdot : (splitOn '/' cs).head? ≠ some ['.']) : parts cs = inner cs := by
  unfold parts
  split
  next => exact absurd rfl hslash
  next =>
    split
    next pieces hpieces => exact absurd (by rw [hpieces]; rfl) hdot
    next => rfl

theorem parts_slash_joinWith (h : ∀ name ∈ names, IsPlain name) :
    parts ('/' :: joinWith '/' names) = .root :: names.map .name := by
  rw [parts, filterMap_piece?_joinWith h]

/-- A text whose first piece stands for a component has its inner components only. -/
theorem parts_joinWith_cons {piece : List Char} {pieces : List (List Char)} {comp : Component}
    (hslash : ∀ p ∈ piece :: pieces, '/' ∉ p) (hpiece : piece? piece = some comp) :
    parts (joinWith '/' (piece :: pieces)) = inner (joinWith '/' (piece :: pieces)) := by
  refine parts_eq_inner ?_ ?_
  · rw [joinWith_cons]
    cases piece with
    | nil => cases hpiece
    | cons c piece =>
      rw [List.cons_append, List.head?_cons]
      intro hc
      exact hslash _ List.mem_cons_self (Option.some.inj hc ▸ List.mem_cons_self)
  · rw [splitOn_joinWith (List.cons_ne_nil piece pieces) hslash, List.head?_cons]
    rintro ⟨⟩
    cases hpiece

theorem parts_joinWith (h : ∀ name ∈ names, IsPlain name) :
    parts (joinWith '/' names) = names.map .name := by
  cases names with
  | nil => rfl
  | cons name rest =>
    rw [parts_joinWith_cons (fun n hn => (h n hn).no_slash)
      (piece?_of_isPlain (h name List.mem_cons_self))]
    exact filterMap_piece?_joinWith h

theorem components_slash_joinWith (h : ∀ name ∈ names, IsPlain name) :
    components (String.ofList ('/' :: joinWith '/' names)) = .root :: names.map .name := by
  rw [components, String.toList_ofList, parts_slash_joinWith h]

theorem components_joinWith (h : ∀ name ∈ names, IsPlain name) :
    components (String.ofList (joinWith '/' names)) = names.map .name := by
  rw [components, String.toList_ofList, parts_joinWith h]

theorem names_slash_joinWith (h : ∀ name ∈ names, IsPlain name) :
    Path.names (String.ofList ('/' :: joinWith '/' names)) = names := by
  rw [Path.names, components_slash_joinWith h]
  simp [List.filterMap_map]

theorem names_joinWith (h : ∀ name ∈ names, IsPlain name) :
    Path.names (String.ofList (joinWith '/' names)) = names := by
  rw [Path.names, components_joinWith h]
  simp [List.filterMap_map]

theorem components_of_isAbsolute {path : String} (h : isAbsolute path = true) :
    components path = .root :: inner path.toList := by
  obtain ⟨rest, hpath⟩ := List.head?_eq_some_iff.1 (of_decide_eq_true h)
  rw [components, hpath, inner_slash]
  rfl

theorem components_of_relative {path : String} (h : isAbsolute path = false) :
    components path = inner path.toList ∨ components path = .here :: inner path.toList := by
  unfold components parts
  split
  next rest hpath => exact absurd (congrArg List.head? hpath) (of_decide_eq_false h)
  next =>
    split
    next pieces hpieces =>
      right
      rw [inner, hpieces, List.filterMap_cons_none rfl]
    next => exact .inl rfl

/-- The pieces of a path, and in front of them what only the start of a path can be. -/
theorem components_eq (path : String) :
    ∃ lead, (lead = [] ∨ lead = [.root] ∨ lead = [.here]) ∧
      components path = lead ++ (splitOn '/' path.toList).filterMap piece? := by
  cases h : isAbsolute path with
  | true => exact ⟨[.root], by simp, components_of_isAbsolute h⟩
  | false =>
    rcases components_of_relative h with hcomps | hcomps
    · exact ⟨[], by simp, hcomps⟩
    · exact ⟨[.here], by simp, hcomps⟩

theorem parent_mem_components_iff {path : String} :
    .parent ∈ components path ↔ ['.', '.'] ∈ splitOn '/' path.toList := by
  obtain ⟨lead, hlead, hcomps⟩ := components_eq path
  rw [hcomps, List.mem_append, parent_mem_filterMap_iff]
  rcases hlead with rfl | rfl | rfl <;> simp

/-- Without `..`, the components behind the start are the names. -/
theorem inner_eq_names {path : String} (h : .parent ∉ components path) :
    inner path.toList = (Path.names path).map .name := by
  obtain ⟨lead, hlead, hcomps⟩ := components_eq path
  have hinner := filterMap_piece?_of_no_parent (mt parent_mem_components_iff.2 h)
  have hnames : Path.names path
      = ((splitOn '/' path.toList).filter (· ≠ [])).filter (· ≠ ['.']) := by
    rw [Path.names, hcomps, hinner]
    rcases hlead with rfl | rfl | rfl <;> simp [List.filterMap_map]
  rw [hnames, inner, hinner]

/-- A path from the root that has names only. -/
theorem names_of_components {path : String} {front : List (List Char)}
    (h : components path = .root :: front.map .name) :
    ['.', '.'] ∉ splitOn '/' path.toList ∧
      ((splitOn '/' path.toList).filter (· ≠ [])).filter (· ≠ ['.']) = front := by
  have hup : ['.', '.'] ∉ splitOn '/' path.toList := by
    rw [← parent_mem_components_iff, h]
    simp
  refine ⟨hup, ?_⟩
  obtain ⟨lead, hlead, hcomps⟩ := components_eq path
  rw [hcomps, filterMap_piece?_of_no_parent hup] at h
  rcases hlead with rfl | rfl | rfl
  · simp [List.map_eq_cons_iff] at h
  · exact (List.map_inj_right fun _ _ => Component.name.inj).1 (List.cons.inj h).2
  · cases (List.cons.inj h).1

theorem isPlain_of_piece? {piece text : List Char} (hslash : '/' ∉ piece)
    (h : piece? piece = some (.name text)) : IsPlain text := by
  unfold piece? at h
  split at h
  next => cases h
  next hblank =>
    split at h
    next => cases h
    next hdots =>
      cases h
      rw [not_or] at hblank
      exact ⟨hblank.1, hblank.2, hdots, hslash⟩

theorem isPlain_of_name_mem_components {path : String} {text : List Char}
    (h : .name text ∈ components path) : IsPlain text := by
  obtain ⟨lead, hlead, hcomps⟩ := components_eq path
  rw [hcomps, List.mem_append] at h
  have hmem : .name text ∈ (splitOn '/' path.toList).filterMap piece? := by
    rcases hlead with rfl | rfl | rfl <;> simpa using h
  obtain ⟨piece, hpiece, htext⟩ := List.mem_filterMap.1 hmem
  exact isPlain_of_piece? (not_mem_of_mem_splitOn hpiece) htext

theorem dots_not_mem_toSlash (path : String) : ['.', '.'] ∉ splitOn '/' (toSlash path).toList := by
  rw [toSlash, String.toList_ofList]
  refine dots_not_mem_splitOn_joinWith fun name hname => ?_
  obtain ⟨comp, hcomp, hname⟩ := List.mem_filterMap.1 hname
  cases comp with
  | name text =>
    cases hname
    exact isPlain_of_name_mem_components hcomp
  | root | here | parent => cases hname

/-! ## Joining and cutting -/

theorem join_ne_empty {base path : String} (h : path ≠ "") : join base path ≠ "" := by
  unfold join
  split
  next => exact h
  next => split <;> simp [h]

theorem isAbsolute_join {base path : String} (hbase : isAbsolute base = true) :
    isAbsolute (join base path) = true := by
  obtain ⟨rest, hrest⟩ := List.head?_eq_some_iff.1 (of_decide_eq_true hbase)
  unfold join
  split
  next hpath => exact hpath
  next => split <;> simp [isAbsolute, hrest]

theorem inner_join {base path : String} (hpath : isAbsolute path = false) :
    inner (join base path).toList = inner base.toList ++ inner path.toList := by
  rw [join, if_neg (by simp [hpath])]
  split
  next hend =>
    rcases hend with rfl | hend
    · simp [inner, splitOn, piece?]
    · obtain ⟨front, hfront⟩ := List.getLast?_eq_some_iff.1 hend
      rw [String.toList_append, hfront, List.append_assoc, List.singleton_append, inner_append_slash,
        inner_append_slash]
      simp [inner, splitOn, piece?]
  next =>
    rw [String.toList_append, String.toList_append, List.append_assoc]
    exact inner_append_slash _ _

/-- A relative path puts its inner components behind those of an absolute one. -/
theorem components_join {base path : String} (hbase : isAbsolute base = true)
    (hpath : isAbsolute path = false) :
    components (join base path) = components base ++ inner path.toList := by
  rw [components_of_isAbsolute (isAbsolute_join hbase), inner_join hpath,
    components_of_isAbsolute hbase, List.cons_append]

/-- An absolute path takes the place of the base, and a relative one is put behind its pieces. -/
theorem components_join_of_isAbsolute {base path : String} {pieces : List (List Char)}
    (hbase : isAbsolute base = true) (hpieces : inner base.toList = pieces.filterMap piece?) :
    components (join base path) = .root ::
      ((if isAbsolute path then [] else pieces) ++ splitOn '/' path.toList).filterMap piece? := by
  rw [List.filterMap_append]
  cases hpath : isAbsolute path with
  | true =>
    rw [join, if_pos hpath, components_of_isAbsolute hpath]
    rfl
  | false =>
    rw [components_join hbase hpath, components_of_isAbsolute hbase, hpieces]
    rfl

/-! ## Trimming -/

theorem trimFront_slash (cs : List Char) : trimFront ('/' :: cs) = trimFront cs := by
  simp [trimFront, splitOn]

theorem filterMap_piece?_dropWhile (pieces : List (List Char)) :
    (pieces.dropWhile fun piece => piece = [] || piece = ['.']).filterMap piece?
      = pieces.filterMap piece? := by
  induction pieces with
  | nil => rfl
  | cons piece pieces ih =>
    by_cases hblank : piece = [] ∨ piece = ['.']
    · rw [List.dropWhile_cons_of_pos (by simpa using hblank), ih,
        List.filterMap_cons_none (by rw [piece?, if_pos hblank])]
    · rw [List.dropWhile_cons_of_neg (by simpa using hblank)]

/-- What remains in front: nothing, or pieces of which the first stands for a component. -/
theorem trimFront_cases (cs : List Char) :
    trimFront cs = [] ∧ inner cs = [] ∨
      ∃ piece pieces comp, trimFront cs = joinWith '/' (piece :: pieces) ∧
        (∀ p ∈ piece :: pieces, '/' ∉ p) ∧ piece? piece = some comp ∧
        inner cs = comp :: pieces.filterMap piece? := by
  have hinner := filterMap_piece?_dropWhile (splitOn '/' cs)
  unfold trimFront inner
  rw [← hinner]
  cases hpieces : (splitOn '/' cs).dropWhile fun piece => piece = [] || piece = ['.'] with
  | nil => exact .inl ⟨rfl, rfl⟩
  | cons piece pieces =>
    have hblank := List.head?_dropWhile_not (fun p => p = [] || p = ['.']) (splitOn '/' cs)
    rw [hpieces] at hblank
    obtain ⟨comp, hcomp⟩ := exists_piece? (show ¬ (piece = [] ∨ piece = ['.']) by simpa using hblank)
    refine .inr ⟨piece, pieces, comp, rfl, fun p hp => ?_, hcomp, List.filterMap_cons_some hcomp⟩
    exact not_mem_of_mem_splitOn ((List.dropWhile_suffix _).subset (hpieces ▸ hp))

theorem inner_trimBack (cs : List Char) : inner (trimBack cs) = inner cs := by
  have hslash : ∀ piece ∈ ((splitOn '/' cs).reverse.dropWhile
      fun piece => piece = [] || piece = ['.']).reverse, '/' ∉ piece := fun piece hpiece =>
    not_mem_of_mem_splitOn
      (List.mem_reverse.1 ((List.dropWhile_suffix _).subset (List.mem_reverse.1 hpiece)))
  rw [trimBack, inner_joinWith hslash, List.filterMap_reverse, filterMap_piece?_dropWhile,
    List.filterMap_reverse, List.reverse_reverse, inner]

/-- Trimmed at both ends, a text has its inner components only. -/
theorem parts_trimBack_trimFront (cs : List Char) :
    parts (trimBack (trimFront cs)) = inner cs := by
  obtain ⟨hcs, hinner⟩ | ⟨piece, pieces, comp, hcs, hslash, hpiece, hinner⟩ := trimFront_cases cs
  · rw [hcs, hinner]
    rfl
  · have hsplit := splitOn_joinWith (List.cons_ne_nil piece pieces) hslash
    have hback := inner_trimBack (trimFront cs)
    rw [hcs, inner_joinWith hslash, List.filterMap_cons_some hpiece] at hback
    rw [hinner, ← hback, hcs, trimBack, hsplit]
    set kept := ((piece :: pieces).reverse.dropWhile fun piece => piece = [] || piece = ['.']).reverse
      with hkept
    have hfront : kept <+: piece :: pieces := by
      rw [← List.reverse_suffix, hkept, List.reverse_reverse]
      exact List.dropWhile_suffix _
    rcases List.prefix_cons_iff.1 hfront with hnil | ⟨rest, hrest, -⟩
    · rw [hnil]
      rfl
    · have hpieces : ∀ p ∈ piece :: rest, '/' ∉ p := fun p hp => hslash p (hfront.subset (hrest ▸ hp))
      rw [hrest]
      exact parts_joinWith_cons hpieces hpiece

theorem trimFront_joinWith (h : ∀ name ∈ names, IsPlain name) :
    trimFront (joinWith '/' names) = joinWith '/' names := by
  cases names with
  | nil => rfl
  | cons name rest =>
    have hname := h name List.mem_cons_self
    rw [trimFront, splitOn_joinWith (List.cons_ne_nil name rest) fun n hn => (h n hn).no_slash,
      List.dropWhile_cons_of_neg (by simp [hname.ne_nil, hname.ne_dot])]

theorem trimBack_joinWith (h : ∀ name ∈ names, IsPlain name) :
    trimBack (joinWith '/' names) = joinWith '/' names := by
  rcases names.eq_nil_or_concat with rfl | ⟨front, name, rfl⟩
  · rfl
  · have hname := h name (by simp)
    rw [trimBack, splitOn_joinWith (by simp) fun n hn => (h n hn).no_slash]
    simp [hname.ne_nil, hname.ne_dot]

theorem uncons_slash (cs : List Char) : uncons false ('/' :: cs) = some (.root, cs) := rfl

theorem uncons_inside_nil {cs : List Char} (hcs : trimFront cs = []) : uncons true cs = none := by
  simp [uncons, hcs]

theorem uncons_inside {piece cs : List Char} {pieces : List (List Char)} {comp : Component}
    (hslash : '/' ∉ piece) (hpiece : piece? piece = some comp)
    (hcs : trimFront cs = joinWith '/' (piece :: pieces)) :
    uncons true cs = some (comp, pieces.flatMap ('/' :: ·)) := by
  have hstop (p : Char → Bool) (hp : p '/' = false) :
      (pieces.flatMap ('/' :: ·)).takeWhile p = [] ∧
      (pieces.flatMap ('/' :: ·)).dropWhile p = pieces.flatMap ('/' :: ·) := by
    cases pieces <;> simp [hp]
  have hplain : ∀ c ∈ piece, decide (c ≠ '/') = true := by
    intro c hc
    have : c ≠ '/' := fun e => hslash (e ▸ hc)
    simp [this]
  have hne : joinWith '/' (piece :: pieces) ≠ [] := by
    rw [joinWith_cons]
    rintro hnil
    rw [(List.append_eq_nil_iff.1 hnil).1] at hpiece
    cases hpiece
  obtain ⟨htake, hdrop⟩ := hstop (· ≠ '/') (by simp)
  unfold uncons
  rw [if_pos rfl, hcs]
  split
  next heq => exact absurd heq hne
  next =>
    rw [joinWith_cons, List.takeWhile_append_of_pos hplain, List.dropWhile_append_of_pos hplain,
      htake, hdrop, List.append_nil, hpiece]
    rfl

theorem uncons_inside_cons {name cs : List Char} (h : ∀ n ∈ name :: names, IsPlain n)
    (hcs : trimFront cs = joinWith '/' (name :: names)) :
    uncons true cs = some (.name name, names.flatMap ('/' :: ·)) :=
  have hname := h name List.mem_cons_self
  uncons_inside hname.no_slash (piece?_of_isPlain hname) hcs

theorem trimFront_flatMap (h : ∀ name ∈ names, IsPlain name) :
    trimFront (names.flatMap ('/' :: ·)) = joinWith '/' names := by
  cases names with
  | nil => rfl
  | cons name rest =>
    rw [List.flatMap_cons, List.cons_append, ← joinWith_cons, trimFront_slash, trimFront_joinWith h]

/-- Names in front of a path are cut off. -/
theorem after_names {front rest : List (List Char)} {cs : List Char}
    (h : ∀ name ∈ front ++ rest, IsPlain name)
    (hcs : trimFront cs = joinWith '/' (front ++ rest)) :
    ∃ cs', after true (front.map .name) cs = some (true, cs') ∧
      trimFront cs' = joinWith '/' rest := by
  induction front generalizing cs with
  | nil => exact ⟨cs, rfl, hcs⟩
  | cons name front ih =>
    simp only [List.cons_append] at h hcs
    have htail : ∀ n ∈ front ++ rest, IsPlain n := fun n hn => h n (List.mem_cons_of_mem _ hn)
    obtain ⟨cs', hafter, hcs'⟩ := ih htail (trimFront_flatMap htail)
    have huncons := uncons_inside_cons h hcs
    exact ⟨cs', by simp only [List.map_cons, after, huncons, if_true, hafter], hcs'⟩

/-- Components in front of a text are cut off, however they are written. -/
theorem after_inner {front rest : List Component} {cs : List Char} (h : inner cs = front ++ rest) :
    ∃ cs', after true front cs = some (true, cs') ∧ inner cs' = rest := by
  induction front generalizing cs with
  | nil => exact ⟨cs, rfl, h⟩
  | cons comp front ih =>
    obtain ⟨-, hinner⟩ | ⟨piece, pieces, first, hcs, hslash, hpiece, hinner⟩ := trimFront_cases cs
    · rw [h] at hinner
      cases hinner
    · rw [h, List.cons_append] at hinner
      obtain ⟨rfl, hpieces⟩ := List.cons.inj hinner
      have huncons := uncons_inside (hslash _ List.mem_cons_self) hpiece hcs
      have hrest := inner_flatMap fun p hp => hslash p (List.mem_cons_of_mem _ hp)
      obtain ⟨cs', hafter, hcs'⟩ := ih (hrest.trans hpieces.symm)
      exact ⟨cs', by simp only [after, huncons, if_true, hafter], hcs'⟩

/-- Nothing but names can be cut off. -/
theorem exists_names_of_after {comps : List Component} {cs : List Char} {r : Bool × List Char}
    (h : ∀ name ∈ names, IsPlain name) (hcs : trimFront cs = joinWith '/' names)
    (hafter : after true comps cs = some r) : ∃ front : List (List Char), comps = front.map .name := by
  induction comps generalizing names cs with
  | nil => exact ⟨[], rfl⟩
  | cons comp comps ih =>
    cases names with
    | nil => simp [after, uncons_inside_nil hcs] at hafter
    | cons name names =>
      have htail : ∀ n ∈ names, IsPlain n := fun n hn => h n (List.mem_cons_of_mem _ hn)
      simp only [after, uncons_inside_cons h hcs] at hafter
      split at hafter
      next heq =>
        obtain ⟨front, rfl⟩ := ih htail (trimFront_flatMap htail) hafter
        exact ⟨name :: front, by simp [heq]⟩
      next => cases hafter

theorem relativeTo_names {base : String} {front rest : List (List Char)}
    (h : ∀ name ∈ front ++ rest, IsPlain name)
    (hbase : components base = .root :: front.map .name) :
    relativeTo base (String.ofList ('/' :: joinWith '/' (front ++ rest)))
      = String.ofList (joinWith '/' rest) := by
  obtain ⟨cs, hafter, hcs⟩ := after_names h (trimFront_joinWith h)
  have hrest : ∀ name ∈ rest, IsPlain name := fun n hn => h n (List.mem_append_right _ hn)
  have hbelow : below? base (String.ofList ('/' :: joinWith '/' (front ++ rest)))
      = some (String.ofList (joinWith '/' rest)) := by
    simp [below?, hbase, after, uncons_slash, hafter, trimEndOf, hcs, trimBack_joinWith hrest]
  rw [relativeTo, hbelow]

/-- Below an absolute base, a path has the components behind those of the base. -/
theorem components_relativeTo {base path : String} {rest : List Component}
    (hbase : isAbsolute base = true) (hpath : isAbsolute path = true)
    (h : components path = components base ++ rest) : components (relativeTo base path) = rest := by
  obtain ⟨cs, hcs⟩ := List.head?_eq_some_iff.1 (of_decide_eq_true hpath)
  rw [components_of_isAbsolute hbase, components_of_isAbsolute hpath, List.cons_append, hcs,
    inner_slash] at h
  obtain ⟨cs', hafter, hcs'⟩ := after_inner (List.cons.inj h).2
  have hbelow : below? base path = some (String.ofList (trimBack (trimFront cs'))) := by
    simp [below?, components_of_isAbsolute hbase, hcs, after, uncons_slash, hafter, trimEndOf]
  rw [relativeTo, hbelow, components, String.toList_ofList, parts_trimBack_trimFront, hcs']

/-- A base with other components than names below the root has no plain path below it. -/
theorem relativeTo_of_not_names {base : String} (h : ∀ name ∈ names, IsPlain name)
    (hbase : ∀ front : List (List Char), components base ≠ .root :: front.map .name) :
    relativeTo base (String.ofList ('/' :: joinWith '/' names))
      = String.ofList ('/' :: joinWith '/' names) := by
  have hbelow : below? base (String.ofList ('/' :: joinWith '/' names)) = none ∨
      below? base (String.ofList ('/' :: joinWith '/' names))
        = some (String.ofList ('/' :: joinWith '/' names)) := by
    cases hcomps : components base with
    | nil => exact .inr (by simp [below?, hcomps, after, trimEndOf, trimBack_joinWith h])
    | cons comp comps =>
      refine .inl ?_
      simp only [below?, hcomps, after, uncons_slash, String.toList_ofList, Option.map_eq_none_iff]
      split
      next hroot =>
        rw [Option.eq_none_iff_forall_ne_some]
        intro r hafter
        obtain ⟨front, rfl⟩ := exists_names_of_after h (trimFront_joinWith h) hafter
        exact hbase front (hroot ▸ hcomps)
      next => rfl
  rcases hbelow with hbelow | hbelow <;> rw [relativeTo, hbelow]

/-! ## The directory of a file -/

theorem trimBack_slash (cs : List Char) : trimBack (cs ++ ['/']) = trimBack cs := by
  simp [trimBack, splitOn_append, splitOn]

theorem trimBack_flatMap (h : ∀ name ∈ names, IsPlain name) :
    trimBack (names.flatMap (· ++ ['/'])) = joinWith '/' names := by
  by_cases hne : names = []
  · simp [hne, trimBack, joinWith, splitOn]
  · have hslash : names.flatMap (· ++ ['/']) = joinWith '/' names ++ ['/'] := by
      have := joinWith_append '/' hne (List.cons_ne_nil ([] : List Char) [])
      simpa [joinWith_concat, joinWith] using this
    rw [hslash, trimBack_slash, trimBack_joinWith h]

/-- What stands before the last name of a path. -/
theorem dropWhile_reverse_joinWith {front : List (List Char)} {name : List Char} (h : '/' ∉ name) :
    ((joinWith '/' (front ++ [name])).reverse.dropWhile (· ≠ '/')).reverse
      = front.flatMap (· ++ ['/']) := by
  have hname : ∀ c ∈ name.reverse, decide (c ≠ '/') = true := by
    intro c hc
    have : c ≠ '/' := fun e => h (e ▸ List.mem_reverse.1 hc)
    simp [this]
  rw [joinWith_concat, List.reverse_append, List.dropWhile_append_of_pos hname]
  rcases front.eq_nil_or_concat with rfl | ⟨front, last, rfl⟩
  · rfl
  · simp

theorem parent?_slash_joinWith {front : List (List Char)} {name : List Char}
    (h : ∀ n ∈ front ++ [name], IsPlain n) :
    parent? (String.ofList ('/' :: joinWith '/' (front ++ [name])))
      = some (String.ofList ('/' :: joinWith '/' front)) := by
  have hname : IsPlain name := h name (by simp)
  have hfront : ∀ n ∈ front, IsPlain n := fun n hn => h n (List.mem_append_left _ hn)
  have hne : joinWith '/' (front ++ [name]) ≠ [] := by simp [joinWith_concat, hname.ne_nil]
  simp only [parent?, String.toList_ofList, trimBack_joinWith h]
  rw [dropWhile_reverse_joinWith hname.no_slash, trimBack_flatMap hfront]

/-- Whether a piece between separators stands for a component. -/
def isStep (piece : List Char) : Bool := piece ≠ [] && piece ≠ ['.']

/-- The pieces of a path that stand for a component. -/
def steps (path : String) : List (List Char) := (splitOn '/' path.toList).filter isStep

theorem exists_piece?_of_isStep {piece : List Char} (h : isStep piece = true) :
    ∃ comp, piece? piece = some comp := by
  apply exists_piece?
  simpa [isStep] using h

theorem filterMap_piece?_filter_isStep (pieces : List (List Char)) :
    (pieces.filter isStep).filterMap piece? = pieces.filterMap piece? := by
  rw [List.filterMap_filter]
  refine List.filterMap_congr fun piece _ => ?_
  by_cases hblank : piece = [] ∨ piece = ['.']
  · have hstep : isStep piece = false := by rcases hblank with rfl | rfl <;> rfl
    rw [hstep, piece?, if_pos hblank]
    rfl
  · have hstep : isStep piece = true := by simpa [isStep] using hblank
    rw [hstep, if_pos rfl]

theorem inner_flatMap_concat {pieces : List (List Char)} (h : ∀ piece ∈ pieces, '/' ∉ piece) :
    inner (pieces.flatMap (· ++ ['/'])) = pieces.filterMap piece? := by
  induction pieces with
  | nil => rfl
  | cons piece pieces ih =>
    have hpiece : inner piece = [piece].filterMap piece? :=
      @inner_joinWith [piece] (by simpa using h piece List.mem_cons_self)
    have hpieces := ih fun p hp => h p (List.mem_cons_of_mem _ hp)
    rw [List.flatMap_cons, List.append_assoc, List.singleton_append, inner_append_slash, hpiece,
      hpieces, ← List.filterMap_append, List.singleton_append]

/-- What trimming leaves ends with a piece that stands for a component. -/
theorem trimBack_cases (cs : List Char) :
    trimBack cs = [] ∧ (splitOn '/' cs).filter isStep = [] ∨
      ∃ front last, trimBack cs = joinWith '/' (front ++ [last]) ∧ last ≠ [] ∧
        (∀ piece ∈ front ++ [last], '/' ∉ piece) ∧
        (splitOn '/' cs).filter isStep = front.filter isStep ++ [last] := by
  have hcut := List.takeWhile_append_dropWhile (p := fun piece => piece = [] || piece = ['.'])
    (l := (splitOn '/' cs).reverse)
  have hlast := List.head?_dropWhile_not (fun piece => piece = [] || piece = ['.'])
    (splitOn '/' cs).reverse
  have hblank := List.all_takeWhile (p := fun piece => piece = [] || piece = ['.'])
    (l := (splitOn '/' cs).reverse)
  unfold trimBack
  generalize (splitOn '/' cs).reverse.takeWhile (fun piece => piece = [] || piece = ['.']) = blanks
    at hcut hblank
  generalize (splitOn '/' cs).reverse.dropWhile (fun piece => piece = [] || piece = ['.']) = kept
    at hcut hlast ⊢
  have hsplit : splitOn '/' cs = kept.reverse ++ blanks.reverse := by
    rw [← List.reverse_append, hcut, List.reverse_reverse]
  have hnone : blanks.reverse.filter isStep = [] := by
    rw [List.filter_eq_nil_iff]
    intro piece hpiece
    have := List.all_eq_true.1 hblank piece (List.mem_reverse.1 hpiece)
    simpa [isStep, or_iff_not_imp_left] using this
  rw [hsplit, List.filter_append, hnone, List.append_nil]
  cases kept with
  | nil => exact .inl ⟨rfl, rfl⟩
  | cons last kept =>
    have hstep : isStep last = true := by simpa [isStep] using hlast
    refine .inr ⟨kept.reverse, last, by rw [List.reverse_cons], ?_, ?_, ?_⟩
    · rintro rfl
      cases hstep
    · intro piece hpiece
      have hmem : piece ∈ splitOn '/' cs := by
        rw [hsplit, List.reverse_cons]
        exact List.mem_append_left _ hpiece
      exact not_mem_of_mem_splitOn hmem
    · rw [List.reverse_cons, List.filter_append, List.filter_cons_of_pos hstep, List.filter_nil]

/-- The directory of a path from the root has all of its components but the last one. -/
theorem parent?_of_isAbsolute {path : String} (h : isAbsolute path = true) :
    parent? path = none ∧ steps path = [] ∨
      ∃ dir, parent? path = some dir ∧ steps path ≠ [] ∧ isAbsolute dir = true ∧
        inner dir.toList = (steps path).dropLast.filterMap piece? := by
  obtain ⟨rest, hrest⟩ := List.head?_eq_some_iff.1 (of_decide_eq_true h)
  have hsteps : steps path = (splitOn '/' rest).filter isStep := by
    rw [steps, hrest, splitOn, if_pos rfl, List.filter_cons_of_neg (by decide)]
  rw [hsteps]
  obtain ⟨hnil, hblank⟩ | ⟨front, last, htrim, hne, hslash, hfilter⟩ := trimBack_cases rest
  · refine .inl ⟨?_, hblank⟩
    simp only [parent?, hrest, hnil]
  · have hcut : ((joinWith '/' (front ++ [last])).reverse.dropWhile (· ≠ '/')).reverse
        = front.flatMap (· ++ ['/']) := dropWhile_reverse_joinWith (hslash last (by simp))
    have hsome : joinWith '/' (front ++ [last]) ≠ [] := by simp [joinWith_concat, hne]
    refine .inr ⟨String.ofList ('/' :: trimBack (front.flatMap (· ++ ['/']))), ?_, ?_, ?_, ?_⟩
    · simp only [parent?, hrest, htrim]
      rw [hcut]
    · rw [hfilter]
      exact List.concat_ne_nil _ _
    · simp [isAbsolute]
    · rw [String.toList_ofList, inner_slash, inner_trimBack,
        inner_flatMap_concat fun p hp => hslash p (List.mem_append_left _ hp), hfilter,
        List.dropLast_concat, filterMap_piece?_filter_isStep]

/-! ## Relative paths -/

/-- From the directory with the names `dir`, the pieces of a path lead to the names `target`. There
is no way up from the root. -/
inductive Leads : (dir pieces target : List (List Char)) → Prop
  | here {dir} : Leads dir [] dir
  | stay {dir piece rest target} : piece = [] ∨ piece = ['.'] → Leads dir rest target →
      Leads dir (piece :: rest) target
  | up {dir name rest target} : Leads dir rest target →
      Leads (dir ++ [name]) (['.', '.'] :: rest) target
  | down {dir name rest target} : IsPlain name → Leads (dir ++ [name]) rest target →
      Leads dir (name :: rest) target

/-- Cleaning goes where the pieces lead; the names so far have the last one first. -/
theorem Leads.foldl_cleanStep {dir pieces target : List (List Char)} (h : Leads dir pieces target) :
    (pieces.filterMap piece?).foldl cleanStep (some (true, dir.reverse))
      = some (true, target.reverse) := by
  induction h with
  | here => rfl
  | stay hpiece _ ih => rw [List.filterMap_cons_none (by rw [piece?, if_pos hpiece]), ih]
  | up _ ih => simpa [piece?, cleanStep] using ih
  | down hname _ ih => simpa [piece?_of_isPlain hname, cleanStep] using ih

/-- Plain names lead straight down. -/
theorem Leads.names_append {dir rest target : List (List Char)} (hnames : ∀ n ∈ names, IsPlain n)
    (h : Leads (dir ++ names) rest target) : Leads dir (names ++ rest) target := by
  induction names generalizing dir with
  | nil => simpa using h
  | cons name names ih =>
    refine .down (hnames name List.mem_cons_self) ?_
    exact ih (fun n hn => hnames n (List.mem_cons_of_mem _ hn)) (by simpa using h)

theorem foldl_cleanStep_none (comps : List Component) : comps.foldl cleanStep none = none := by
  induction comps with
  | nil => rfl
  | cons comp comps ih => exact ih

/-- Cleaning goes nowhere but where the pieces lead. -/
theorem exists_leads_of_foldl {dir pieces : List (List Char)} {result : Bool × List (List Char)}
    (hslash : ∀ piece ∈ pieces, '/' ∉ piece)
    (h : (pieces.filterMap piece?).foldl cleanStep (some (true, dir.reverse)) = some result) :
    ∃ target, result = (true, target.reverse) ∧ Leads dir pieces target := by
  induction pieces generalizing dir with
  | nil => exact ⟨dir, (Option.some.inj h).symm, .here⟩
  | cons piece pieces ih =>
    have hpieces : ∀ p ∈ pieces, '/' ∉ p := fun p hp => hslash p (List.mem_cons_of_mem _ hp)
    by_cases hblank : piece = [] ∨ piece = ['.']
    · rw [List.filterMap_cons_none (by rw [piece?, if_pos hblank])] at h
      obtain ⟨target, hresult, hleads⟩ := ih hpieces h
      exact ⟨target, hresult, .stay hblank hleads⟩
    by_cases hdots : piece = ['.', '.']
    · subst hdots
      have hup : piece? ['.', '.'] = some .parent := rfl
      rw [List.filterMap_cons_some hup, List.foldl_cons] at h
      rcases dir.eq_nil_or_concat with rfl | ⟨front, last, rfl⟩
      · rw [List.reverse_nil, cleanStep, foldl_cleanStep_none] at h
        cases h
      · rw [List.concat_eq_append, List.reverse_append] at h
        obtain ⟨target, hresult, hleads⟩ := ih hpieces h
        exact ⟨target, hresult, List.concat_eq_append ▸ .up hleads⟩
    · obtain ⟨hnil, hdot⟩ := not_or.1 hblank
      have hplain : IsPlain piece := ⟨hnil, hdot, hdots, hslash piece List.mem_cons_self⟩
      rw [List.filterMap_cons_some (piece?_of_isPlain hplain), List.foldl_cons, cleanStep,
        ← List.reverse_concat] at h
      obtain ⟨target, hresult, hleads⟩ := ih hpieces h
      exact ⟨target, hresult, .down hplain (by simpa using hleads)⟩

/-- A path from the root is cleaned to where its pieces lead. -/
theorem clean_eq_some_iff {path target : String} {pieces : List (List Char)}
    (hslash : ∀ piece ∈ pieces, '/' ∉ piece) (h : components path = .root :: pieces.filterMap piece?) :
    clean path = some target ↔
      ∃ names, Leads [] pieces names ∧ target = String.ofList ('/' :: joinWith '/' names) := by
  rw [clean, h, cleanParts, List.foldl_cons, cleanStep, Option.map_eq_some_iff]
  constructor
  · rintro ⟨p, hp, rfl⟩
    obtain ⟨result, hfold, rfl⟩ := Option.map_eq_some_iff.1 hp
    obtain ⟨names, rfl, hleads⟩ := @exists_leads_of_foldl [] pieces result hslash hfold
    exact ⟨names, hleads, by simp [Clean.render]⟩
  · rintro ⟨names, hleads, rfl⟩
    have hfold := hleads.foldl_cleanStep
    rw [List.reverse_nil] at hfold
    exact ⟨⟨true, names⟩, by rw [hfold]; simp, by simp [Clean.render]⟩

theorem clean_slash_of_leads {cs : List Char} {target : List (List Char)}
    (h : Leads [] (splitOn '/' cs) target) :
    clean (String.ofList ('/' :: cs)) = some (String.ofList ('/' :: joinWith '/' target)) := by
  refine (clean_eq_some_iff (fun _ => not_mem_of_mem_splitOn) ?_).2 ⟨target, h, rfl⟩
  rw [components, String.toList_ofList, parts]

theorem foldl_cleanStep_names (rooted : Bool) (done names : List (List Char)) :
    (names.map .name).foldl cleanStep (some (rooted, done)) = some (rooted, names.reverse ++ done) := by
  induction names generalizing done with
  | nil => rfl
  | cons name names ih => simp [cleanStep, ih]

/-- Cleaning leaves a path that has names only as it is, but for its spelling. -/
theorem clean_of_names {path : String} (h : components path = .root :: names.map .name) :
    ∃ target, clean path = some target ∧ components target = components path := by
  have hplain : ∀ name ∈ names, IsPlain name := fun name hname =>
    @isPlain_of_name_mem_components path name (by rw [h]; simpa using hname)
  refine ⟨String.ofList ('/' :: joinWith '/' names), ?_, by rw [components_slash_joinWith hplain, h]⟩
  rw [clean, h, cleanParts, List.foldl_cons, cleanStep, foldl_cleanStep_names]
  simp [Clean.render]

/-! ## Extensions -/

theorem fileName?_slash_joinWith (h : ∀ name ∈ names, IsPlain name) :
    fileName? (String.ofList ('/' :: joinWith '/' names)) = names.getLast? := by
  rw [fileName?, components_slash_joinWith h]
  rcases names.eq_nil_or_concat with rfl | ⟨front, name, rfl⟩
  · rfl
  · rw [List.concat_eq_append, List.map_append, List.map_singleton, ← List.cons_append,
      List.getLast?_concat, List.getLast?_concat]

theorem fileName?_joinWith (h : ∀ name ∈ names, IsPlain name) :
    fileName? (String.ofList (joinWith '/' names)) = names.getLast? := by
  rw [fileName?, components_joinWith h, List.getLast?_map]
  cases names.getLast? <;> rfl

theorem cutExtension_fst_prefix (name : List Char) : (cutExtension name).1 <+: name := by
  unfold cutExtension
  dsimp only
  split
  next =>
    rw [← List.reverse_suffix, List.reverse_reverse]
    exact (List.drop_suffix 1 _).trans (List.dropWhile_suffix _)
  next => exact List.prefix_rfl

/-- The stem of a file without a dot in front does not climb. -/
theorem dots_not_mem_stem? {stem : List Char} (h : ∀ name ∈ names, IsPlain name)
    (hdot : ∀ name ∈ names, name.head? ≠ some '.')
    (hstem : stem? (String.ofList (joinWith '/' names)) = some stem) :
    ['.', '.'] ∉ splitOn '/' stem := by
  rw [stem?, fileName?_joinWith h] at hstem
  obtain ⟨name, hlast, rfl⟩ := Option.map_eq_some_iff.1 hstem
  have hname : name ∈ names := List.mem_of_getLast? hlast
  have hfront : (cutExtension name).1 <+: name := cutExtension_fst_prefix name
  have hslash : '/' ∉ (cutExtension name).1 := fun hmem => (h name hname).no_slash (hfront.subset hmem)
  have hsplit : splitOn '/' (cutExtension name).1 = [(cutExtension name).1] :=
    splitOn_joinWith (List.cons_ne_nil _ []) (by simpa using hslash)
  rw [hsplit, List.mem_singleton]
  intro hdots
  obtain ⟨rest, hrest⟩ := hdots ▸ hfront
  exact hdot name hname (by rw [← hrest]; rfl)

/-- What follows the last dot of a name. -/
theorem takeWhile_reverse_dot {stem ext : List Char} (hext : '.' ∉ ext) :
    (stem ++ '.' :: ext).reverse.takeWhile (· ≠ '.') = ext.reverse := by
  have hplain : ∀ c ∈ ext.reverse, decide (c ≠ '.') = true := by
    intro c hc
    have : c ≠ '.' := fun e => hext (e ▸ List.mem_reverse.1 hc)
    simp [this]
  rw [List.reverse_append, List.reverse_cons, List.append_assoc,
    List.takeWhile_append_of_pos hplain]
  simp

theorem cutExtension_append {stem ext : List Char} (hstem : stem ≠ []) (hext : '.' ∉ ext) :
    cutExtension (stem ++ '.' :: ext) = (stem, some ext) := by
  have htake : (stem ++ '.' :: ext).reverse.takeWhile (· ≠ '.') = ext.reverse :=
    takeWhile_reverse_dot hext
  have hsplit := List.takeWhile_append_dropWhile (p := (· ≠ '.')) (l := (stem ++ '.' :: ext).reverse)
  have hdrop : (stem ++ '.' :: ext).reverse.dropWhile (· ≠ '.') = '.' :: stem.reverse := by
    rw [htake] at hsplit
    simpa using hsplit
  simp only [cutExtension, htake, hdrop]
  simp [hstem]

theorem cutExtension_snd {stem ext : List Char} (hstem : stem ≠ []) (hext : '.' ∉ ext) :
    (cutExtension (stem ++ '.' :: ext)).2 = some ext := by
  rw [cutExtension_append hstem hext]

theorem eq_of_cutExtension {name ext : List Char} (h : (cutExtension name).2 = some ext) :
    ∃ stem, name = stem ++ '.' :: ext := by
  unfold cutExtension at h
  dsimp only at h
  split at h
  next hcut =>
    obtain ⟨tail, front, hrev, htail⟩ := List.eq_append_cons_of_mem (List.mem_reverse.2 hcut.1)
    obtain rfl : name = front.reverse ++ '.' :: tail.reverse := by
      rw [← List.reverse_reverse name, hrev]
      simp
    rw [takeWhile_reverse_dot (by simpa using htail), List.reverse_reverse] at h
    exact ⟨front.reverse, by rw [Option.some.inj h]⟩
  next => cases h

/-- The last name ends with a dot and one of the extensions, in any ASCII case. -/
def HasExtensionIn (extensions : List String) (names : List (List Char)) : Prop :=
  ∃ stem ext, names.getLast? = some (stem ++ '.' :: ext) ∧ String.ofList (lower ext) ∈ extensions

theorem dot_not_mem_of_lower_mem {extensions : List String} {ext : List Char}
    (hext : ∀ e ∈ extensions, '.' ∉ e.toList) (h : String.ofList (lower ext) ∈ extensions) :
    '.' ∉ ext := fun hmem =>
  hext _ h (by rw [String.toList_ofList]; exact List.mem_map.2 ⟨'.', hmem, rfl⟩)

theorem hasExtension_joinWith {extensions : List String} (h : ∀ name ∈ names, IsPlain name)
    (hdot : ∀ name ∈ names, name.head? ≠ some '.') (hext : ∀ e ∈ extensions, '.' ∉ e.toList) :
    hasExtension extensions (String.ofList (joinWith '/' names)) = true ↔
      HasExtensionIn extensions names := by
  rw [hasExtension, extension?, fileName?_joinWith h]
  constructor
  · intro hany
    split at hany
    next ext hcut =>
      obtain ⟨name, hlast, hcut⟩ := Option.bind_eq_some_iff.1 hcut
      obtain ⟨stem, rfl⟩ := eq_of_cutExtension hcut
      obtain ⟨e, he, hlower⟩ := List.any_eq_true.1 hany
      have hlower : e.toList = lower ext := by simpa using hlower
      exact ⟨stem, ext, hlast, by rw [← hlower, String.ofList_toList]; exact he⟩
    next => cases hany
  · rintro ⟨stem, ext, hlast, hmem⟩
    have hstem : stem ≠ [] := by
      rintro rfl
      exact hdot _ (List.mem_of_getLast? hlast) rfl
    rw [hlast, Option.bind_some, cutExtension_snd hstem (dot_not_mem_of_lower_mem hext hmem)]
    exact List.any_eq_true.2 ⟨_, hmem, by simp⟩

end DocAtlas.Path
