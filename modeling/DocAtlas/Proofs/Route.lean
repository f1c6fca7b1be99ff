-- SUMMARY: Canonical routes: their segments, the spellings that they stand for, and the routes that lie below a base.
import DocAtlas.Proofs.Text
import DocAtlas.Route

/-! # Canonical routes

The segments of a route are plain: none is empty, `.` or `..`. Plain segments
are written and read again without change, so that a canonical route is its own
canonical form. A respelling puts segments into a route that lead nowhere, and
keeps the canonical form. A reference that has at each point gone down at least
as often as up leads to a route below the one where it starts. -/

namespace DocAtlas.Route

open Text

/-! ## Segments -/

theorem step_of_isPlain {segment : List Char} (h : IsPlain segment) (stack : Segments) :
    step stack segment = segment :: stack := by
  simp [step, h.ne_nil, h.ne_dot, h.ne_dots]

theorem step_nil (stack : Segments) : step stack [] = stack := by simp [step]

theorem isPlain_of_mem_step {stack : Segments} {segment : List Char}
    (hstack : ∀ seg ∈ stack, IsPlain seg) (hslash : '/' ∉ segment) :
    ∀ seg ∈ step stack segment, IsPlain seg := by
  intro seg hseg
  unfold step at hseg
  split at hseg
  next => exact hstack seg hseg
  next hblank =>
    split at hseg
    next => exact hstack seg (List.mem_of_mem_tail hseg)
    next hdots =>
      rcases List.mem_cons.1 hseg with rfl | hseg
      · rw [not_or] at hblank
        exact ⟨hblank.1, hblank.2, hdots, hslash⟩
      · exact hstack seg hseg

theorem isPlain_of_mem_foldl_step {stack reference : Segments}
    (hstack : ∀ seg ∈ stack, IsPlain seg) (href : ∀ seg ∈ reference, '/' ∉ seg) :
    ∀ seg ∈ reference.foldl step stack, IsPlain seg := by
  induction reference generalizing stack with
  | nil => exact hstack
  | cons segment rest ih =>
    have hslash := href segment List.mem_cons_self
    exact ih (isPlain_of_mem_step hstack hslash) fun seg h => href seg (List.mem_cons_of_mem _ h)

theorem isPlain_of_mem_segments {route : List Char} {seg : List Char}
    (h : seg ∈ segments route) : IsPlain seg := by
  rw [segments, follow, List.mem_reverse] at h
  refine isPlain_of_mem_foldl_step (by simp) (fun _ hpiece => ?_) seg h
  exact not_mem_of_mem_splitOn hpiece

/-- Following a reference adds no segments but those of the reference. -/
theorem mem_of_mem_foldl_step {stack reference : Segments} {seg : List Char}
    (h : seg ∈ reference.foldl step stack) : seg ∈ stack ∨ seg ∈ reference := by
  induction reference generalizing stack with
  | nil => exact .inl h
  | cons segment rest ih =>
    rcases ih h with hstep | hrest
    · unfold step at hstep
      split at hstep
      next => exact .inl hstep
      next =>
        split at hstep
        next => exact .inl (List.mem_of_mem_tail hstep)
        next =>
          rcases List.mem_cons.1 hstep with rfl | hstack
          · exact .inr List.mem_cons_self
          · exact .inl hstack
    · exact .inr (List.mem_cons_of_mem _ hrest)

/-- A canonical route has no characters but slashes and those of the route. -/
theorem mem_of_mem_clean {c : Char} {route : String} (hc : c ≠ '/') (h : c ∈ (clean route).toList) :
    c ∈ route.toList := by
  rw [clean, render, String.toList_ofList, List.mem_cons, mem_joinWith_iff hc] at h
  obtain ⟨seg, hseg, hmem⟩ := h.resolve_left hc
  rw [segments, follow, List.mem_reverse] at hseg
  exact (mem_splitOn_iff hc).1 ⟨seg, (mem_of_mem_foldl_step hseg).resolve_left (by simp), hmem⟩

/-- Plain segments lead straight down. -/
theorem foldl_step_of_isPlain {segs : Segments} (h : ∀ seg ∈ segs, IsPlain seg)
    (stack : Segments) : segs.foldl step stack = segs.reverse ++ stack := by
  induction segs generalizing stack with
  | nil => rfl
  | cons seg rest ih =>
    rw [List.foldl_cons, step_of_isPlain (h seg List.mem_cons_self),
      ih fun s hs => h s (List.mem_cons_of_mem _ hs)]
    simp

/-- Empty segments make no difference. -/
theorem foldl_step_filter (reference stack : Segments) :
    (reference.filter (· ≠ [])).foldl step stack = reference.foldl step stack := by
  induction reference generalizing stack with
  | nil => rfl
  | cons segment rest ih =>
    by_cases h : segment = []
    · rw [List.filter_cons_of_neg (by simp [h]), ih, List.foldl_cons, h, step_nil]
    · rw [List.filter_cons_of_pos (by simp [h]), List.foldl_cons, List.foldl_cons, ih]

theorem segments_render {segs : Segments} (h : ∀ seg ∈ segs, IsPlain seg) :
    segments (render segs).toList = segs := by
  have hread := filter_splitOn_joinWith fun seg hseg => ⟨(h seg hseg).ne_nil, (h seg hseg).no_slash⟩
  have hsplit : splitOn '/' (render segs).toList = [] :: splitOn '/' (joinWith '/' segs) := by
    simp [render, splitOn]
  rw [segments, follow, hsplit, List.foldl_cons, List.reverse_nil, step_nil, ← foldl_step_filter,
    hread, foldl_step_of_isPlain h]
  simp

theorem segments_clean (route : String) : segments (clean route).toList = segments route.toList :=
  segments_render fun _ => isPlain_of_mem_segments

theorem segments_eq_nil_of_clean {route : String} (h : clean route = "/") :
    segments route.toList = [] := by
  rw [← segments_clean, h]
  decide

theorem head?_clean (route : String) : (clean route).toList.head? = some '/' := by
  simp [clean, render]

theorem clean_clean (route : String) : clean (clean route) = clean route := by
  rw [clean, segments_clean, clean]

/-! ## Spellings -/

/-- The first segments are the second ones, but for segments put in that lead nowhere: empty ones,
`.`, and `..` after the segment that it cancels. -/
inductive Respells : Segments → Segments → Prop
  | refl {segs} : Respells segs segs
  | empty {before after segs} : Respells (before ++ after) segs →
      Respells (before ++ [] :: after) segs
  | dot {before after segs} : Respells (before ++ after) segs →
      Respells (before ++ ['.'] :: after) segs
  | cancelled {before segment after segs} : IsPlain segment → Respells (before ++ after) segs →
      Respells (before ++ segment :: ['.', '.'] :: after) segs

theorem Respells.foldl_step {spelling segs : Segments} (h : Respells spelling segs)
    (stack : Segments) : spelling.foldl step stack = segs.foldl step stack := by
  induction h with
  | refl => rfl
  | empty _ ih | dot _ ih => rw [← ih]; simp [step]
  | cancelled hplain _ ih =>
    rw [← ih, List.foldl_append, List.foldl_append, List.foldl_cons, step_of_isPlain hplain]
    simp [step]

theorem clean_eq_of_respells {route other : String}
    (h : Respells (splitOn '/' route.toList) (splitOn '/' other.toList)) :
    clean route = clean other := by
  rw [clean, clean, segments, segments, follow, follow, h.foldl_step]

/-! ## Following references -/

theorem follow_append (start front rest : Segments) :
    follow start (front ++ rest) = follow (follow start front) rest := by
  simp [follow]

theorem segments_append_slash (front rest : List Char) :
    segments (front ++ '/' :: rest) = follow (segments front) (splitOn '/' rest) := by
  rw [segments, splitOn_append, follow_append]
  rfl

theorem follow_splitOn_joinWith {segs : Segments} (h : ∀ seg ∈ segs, IsPlain seg) (start : Segments) :
    follow start (splitOn '/' (joinWith '/' segs)) = start ++ segs := by
  have hread := filter_splitOn_joinWith fun seg hseg => ⟨(h seg hseg).ne_nil, (h seg hseg).no_slash⟩
  rw [follow, ← foldl_step_filter, hread, foldl_step_of_isPlain h]
  simp

/-- Following a canonical route from a place leads to what the route names below it. -/
theorem clean_append_clean (base rest : String) :
    clean (base ++ clean rest) = render (segments base.toList ++ segments rest.toList) := by
  have hrest : (clean rest).toList = '/' :: joinWith '/' (segments rest.toList) :=
    String.toList_ofList
  rw [clean, String.toList_append, hrest, segments_append_slash,
    follow_splitOn_joinWith fun _ => isPlain_of_mem_segments]

theorem clean_clean_append {front rest : String} (h : rest.toList.head? = some '/') :
    clean (clean front ++ rest) = clean (front ++ rest) := by
  obtain ⟨tail, hrest⟩ := List.head?_eq_some_iff.1 h
  have hsegments : segments (clean front ++ rest).toList = segments (front ++ rest).toList := by
    rw [String.toList_append, String.toList_append, hrest, segments_append_slash,
      segments_append_slash, segments_clean]
  exact congrArg render hsegments

/-- Leaving out a last `index` adds no segment but an empty one. -/
theorem mem_splitOn_stripIndex {id : String} {seg : List Char}
    (h : seg ∈ splitOn '/' (stripIndex id).toList) : seg = [] ∨ seg ∈ splitOn '/' id.toList := by
  unfold stripIndex at h
  split at h
  next =>
    left
    simpa [splitOn] using h
  next =>
    right
    split at h
    next before hbefore =>
      have hsplit : splitOn '/' id.toList = splitOn '/' before ++ ["index".toList] := by
        rw [dropTail?_eq_some_iff.1 hbefore]
        exact splitOn_append '/' before "index".toList
      rw [String.toList_ofList] at h
      exact hsplit ▸ List.mem_append_left _ h
    next => exact h

/-! ## Climbing -/

/-- How often a reference climbs above the place where it starts, once it has gone down `depth`
segments from there. -/
def climb : (depth : Nat) → (reference : Segments) → Nat
  | _, [] => 0
  | depth, segment :: rest =>
    if segment = [] ∨ segment = ['.'] then climb depth rest
    else if segment = ['.', '.'] then climb (depth - 1) rest + if depth = 0 then 1 else 0
    else climb (depth + 1) rest

/-- How often a path climbs above the root that it is taken from. -/
def climbs (path : String) : Nat := climb 0 (splitOn '/' path.toList)

theorem ne_dots_of_blank {segment : List Char} (h : segment = [] ∨ segment = ['.']) :
    segment ≠ ['.', '.'] := by
  rcases h with rfl | rfl <;> decide

/-- At the start itself `..` climbs; elsewhere a segment changes the depth as it changes the stack. -/
theorem climb_cons (stack rest : Segments) (segment : List Char) :
    climb stack.length (segment :: rest)
      = (if segment = ['.', '.'] ∧ stack = [] then 1 else 0)
        + climb (step stack segment).length rest := by
  rw [climb, step]
  split
  next hblank => rw [if_neg fun h => ne_dots_of_blank hblank h.1, Nat.zero_add]
  next =>
    split
    next hdots => simp [hdots, Nat.add_comm]
    next hdots => simp [hdots]

/-- A segment leaves alone what lies below the stack, unless it climbs. -/
theorem step_append (inner outer : Segments) (segment : List Char) :
    step (inner ++ outer) segment
      = step inner segment ++ outer.drop (if segment = ['.', '.'] ∧ inner = [] then 1 else 0) := by
  unfold step
  split
  next hblank => rw [if_neg fun h => ne_dots_of_blank hblank h.1, List.drop_zero]
  next =>
    split
    next hdots => cases inner <;> simp [hdots]
    next hdots => simp [hdots]

/-- Each time that a reference climbs above where it starts it takes one segment off what is there. -/
theorem foldl_step_append_drop (inner outer reference : Segments) :
    reference.foldl step (inner ++ outer)
      = reference.foldl step inner ++ outer.drop (climb inner.length reference) := by
  induction reference generalizing inner outer with
  | nil => simp [climb]
  | cons segment rest ih =>
    rw [List.foldl_cons, List.foldl_cons, step_append, ih, List.drop_drop, climb_cons]

theorem follow_eq_take (start reference : Segments) :
    follow start reference
      = start.take (start.length - climb 0 reference) ++ follow [] reference := by
  have hfold := foldl_step_append_drop [] start.reverse reference
  rw [List.nil_append, List.length_nil] at hfold
  simp [follow, hfold, List.drop_reverse]

/-- A path from the root behind a base takes off the base what it climbs. -/
theorem clean_append_eq {base path : String} (h : path.toList.head? = some '/') :
    clean (base ++ path)
      = render ((segments base.toList).take ((segments base.toList).length - climbs path)
        ++ segments path.toList) := by
  obtain ⟨rest, hpath⟩ := List.head?_eq_some_iff.1 h
  have hsplit : splitOn '/' path.toList = [] :: splitOn '/' rest := by simp [hpath, splitOn]
  have hclimbs : climbs path = climb 0 (splitOn '/' rest) := by simp [climbs, hsplit, climb]
  have hsegments : segments path.toList = follow [] (splitOn '/' rest) := by
    rw [segments, hsplit, follow, List.foldl_cons, step_nil]
    rfl
  rw [clean, String.toList_append, hclimbs, hsegments, ← follow_eq_take, hpath, segments_append_slash]

theorem render_injective {segs segs' : Segments} (h : ∀ seg ∈ segs, IsPlain seg)
    (h' : ∀ seg ∈ segs', IsPlain seg) (hsame : render segs = render segs') : segs = segs' := by
  rw [← segments_render h, hsame, segments_render h']

/-- Behind a base, two spellings of one path differ when they climb differently far into the base. -/
theorem clean_append_eq_iff {base path path' : String} (h : path.toList.head? = some '/')
    (h' : path'.toList.head? = some '/') (hsame : clean path = clean path') :
    clean (base ++ path) = clean (base ++ path') ↔
      min (climbs path) (segments base.toList).length
        = min (climbs path') (segments base.toList).length := by
  have hsegments : segments path'.toList = segments path.toList := by
    rw [← segments_clean, ← hsame, segments_clean]
  rw [clean_append_eq h, clean_append_eq h', hsegments]
  have hplain (k : Nat) :
      ∀ seg ∈ (segments base.toList).take k ++ segments path.toList, IsPlain seg := by
    intro seg hseg
    rcases List.mem_append.1 hseg with hseg | hseg
    · exact isPlain_of_mem_segments (List.mem_of_mem_take hseg)
    · exact isPlain_of_mem_segments hseg
  constructor
  · intro hrender
    have htake := List.append_cancel_right (render_injective (hplain _) (hplain _) hrender)
    have hlength := congrArg List.length htake
    rw [List.length_take, List.length_take] at hlength
    omega
  · intro hclimbs
    have hkept : (segments base.toList).length - climbs path
        = (segments base.toList).length - climbs path' := by omega
    rw [hkept]

/-! ## Staying inside -/

/-- The segment adds to a route. -/
def isStep (segment : List Char) : Bool := segment ≠ [] && segment ≠ ['.'] && segment ≠ ['.', '.']

/-- No start of the reference has more `..` than steps down, so that following it never climbs above
where it starts. -/
def StaysInside (reference : Segments) : Prop :=
  ∀ n ≤ reference.length,
    (reference.take n).count ['.', '.'] ≤ (reference.take n).countP isStep

instance (reference : Segments) : Decidable (StaysInside reference) :=
  inferInstanceAs (Decidable (∀ n ≤ _, _))

theorem staysInside_of_not_mem {reference : Segments} (h : ['.', '.'] ∉ reference) :
    StaysInside reference := by
  intro n _
  rw [List.count_eq_zero_of_not_mem fun hmem => h (List.mem_of_mem_take hmem)]
  exact Nat.zero_le _

theorem not_staysInside_iff {reference : Segments} :
    ¬ StaysInside reference ↔
      ∃ front, front <+: reference ∧ front.countP isStep < front.count ['.', '.'] := by
  unfold StaysInside
  push Not
  constructor
  · rintro ⟨n, -, hcount⟩
    exact ⟨reference.take n, List.take_prefix n reference, hcount⟩
  · rintro ⟨front, hfront, hcount⟩
    refine ⟨front.length, hfront.length_le, ?_⟩
    rwa [← List.prefix_iff_eq_take.1 hfront]

/-- A reference taken `depth` segments down climbs above where these begin exactly if some start of it
has more `..` than there are such segments and steps down before it. -/
theorem climb_pos_iff {depth : Nat} {reference : Segments} :
    0 < climb depth reference ↔
      ∃ front, front <+: reference ∧ depth + front.countP isStep < front.count ['.', '.'] := by
  induction reference generalizing depth with
  | nil => simp [climb, List.prefix_nil]
  | cons segment rest ih =>
    -- the empty start never climbs, and every other one begins with the segment
    have hfronts : (∃ front, front <+: segment :: rest ∧
          depth + front.countP isStep < front.count ['.', '.']) ↔
        ∃ front, front <+: rest ∧
          depth + (segment :: front).countP isStep < (segment :: front).count ['.', '.'] := by
      constructor
      · rintro ⟨front, hfront, hcount⟩
        rcases List.prefix_cons_iff.1 hfront with rfl | ⟨front, rfl, hrest⟩
        · cases hcount
        · exact ⟨front, hrest, hcount⟩
      · rintro ⟨front, hrest, hcount⟩
        exact ⟨segment :: front, List.cons_prefix_cons.2 ⟨rfl, hrest⟩, hcount⟩
    rw [hfronts, climb]
    simp only [List.count_cons, List.countP_cons]
    by_cases hblank : segment = [] ∨ segment = ['.']
    · rw [if_pos hblank, ih]
      rcases hblank with rfl | rfl <;> simp [isStep]
    · rw [if_neg hblank]
      by_cases hdots : segment = ['.', '.']
      · subst hdots
        cases depth with
        | zero => simpa [isStep] using ⟨[], List.nil_prefix, by simp⟩
        | succ depth => simp [isStep, ih, Nat.add_right_comm _ 1]
      · rw [if_neg hdots, ih]
        rw [not_or] at hblank
        simp [isStep, hblank, hdots, Nat.add_assoc, Nat.add_comm 1]

theorem staysInside_iff {reference : Segments} : StaysInside reference ↔ climb 0 reference = 0 := by
  rw [← not_iff_not, not_staysInside_iff, ← ne_eq, ← Nat.pos_iff_ne_zero, climb_pos_iff]
  simp only [Nat.zero_add]

theorem follow_of_staysInside {reference : Segments} (h : StaysInside reference) (start : Segments) :
    follow start reference = start ++ follow [] reference := by
  rw [follow_eq_take, staysInside_iff.1 h, Nat.sub_zero, List.take_length]

/-! ## Below a base -/

/-- The route is the base or lies below it; every route lies below the root. -/
def Below (base route : String) : Prop :=
  base = "/" ∨ route = base ∨ (base ++ "/").toList <+: route.toList

instance (base route : String) : Decidable (Below base route) :=
  inferInstanceAs (Decidable (_ ∨ _))

theorem below_render (base rest : Segments) : Below (render base) (render (base ++ rest)) := by
  by_cases hbase : base = []
  · exact .inl (by rw [hbase]; rfl)
  · by_cases hrest : rest = []
    · exact .inr (.inl (by rw [hrest, List.append_nil]))
    · refine .inr (.inr ⟨joinWith '/' rest, ?_⟩)
      simp [render, joinWith_append '/' hbase hrest]

/-- A text behind a base that never climbs leads below the base. -/
theorem below_of_staysInside {base text : String} (h : StaysInside (splitOn '/' text.toList)) :
    Below (clean base) (clean (base ++ "/" ++ text)) := by
  have hsegments : segments (base ++ "/" ++ text).toList
      = segments base.toList ++ follow [] (splitOn '/' text.toList) := by
    rw [String.toList_append, String.toList_append, List.append_assoc]
    exact (segments_append_slash _ _).trans (follow_of_staysInside h _)
  rw [clean, clean, hsegments]
  exact below_render _ _

end DocAtlas.Route
