-- SUMMARY: Cleaning of paths against that of routes: where it fails, and that it gives the canonical route elsewhere.
import DocAtlas.Proofs.Path
import DocAtlas.Proofs.Route

/-! # Cleaning of paths and of routes

A path is cleaned by its components, and fails where `..` climbs above the start.
A route is cleaned by its segments, and `..` does nothing at the root. Piece by
piece the two do the same as long as the path does not climb, so that a path is
cleaned to its canonical route or fails because it climbs. -/

namespace DocAtlas.Path

open Text

/-! ## Piece by piece -/

/-- A piece of a path is taken as a segment of a route is, but for `..` at the start, which fails. -/
theorem foldl_cleanStep_piece (rooted : Bool) (names : List (List Char)) (piece : List Char) :
    (piece? piece).toList.foldl cleanStep (some (rooted, names))
      = if piece = ['.', '.'] ∧ names = [] then none else some (rooted, Route.step names piece) := by
  rw [piece?, Route.step]
  split
  next hblank =>
    rw [if_neg fun h => Route.ne_dots_of_blank hblank h.1]
    rfl
  next =>
    split
    next hdots => cases names <;> simp [hdots, cleanStep]
    next hdots => simp [hdots, cleanStep]

/-- The pieces of a path leave the names that they leave of a route, or fail where they climb. -/
theorem foldl_cleanStep_filterMap (rooted : Bool) (names pieces : List (List Char)) :
    (pieces.filterMap piece?).foldl cleanStep (some (rooted, names))
      = if Route.climb names.length pieces = 0 then some (rooted, pieces.foldl Route.step names)
        else none := by
  -- the depth up to which the pieces may climb is the number of names so far
  induction pieces generalizing names with
  | nil => rfl
  | cons piece pieces ih =>
    have hpieces : (piece :: pieces).filterMap piece?
        = (piece? piece).toList ++ pieces.filterMap piece? := by
      cases hpiece : piece? piece <;> simp [hpiece]
    rw [hpieces, List.foldl_append, foldl_cleanStep_piece, Route.climb_cons]
    split
    next => simp [foldl_cleanStep_none]
    next => rw [ih, Nat.zero_add, List.foldl_cons]

/-! ## Whole paths -/

/-- The start of a path says only whether the result is rooted. -/
theorem foldl_cleanStep_components (path : String) :
    (components path).foldl cleanStep (some (false, []))
      = (inner path.toList).foldl cleanStep (some (isAbsolute path, [])) := by
  cases h : isAbsolute path with
  | true => rw [components_of_isAbsolute h, List.foldl_cons, cleanStep]
  | false =>
    rcases components_of_relative h with hcomps | hcomps <;> rw [hcomps]
    rfl

theorem clean_eq (path : String) :
    clean path = if Route.StaysInside (splitOn '/' path.toList) then
        some (Clean.render ⟨isAbsolute path, Route.segments path.toList⟩)
      else none := by
  rw [clean, cleanParts, foldl_cleanStep_components, inner, foldl_cleanStep_filterMap,
    List.length_nil]
  simp only [Route.staysInside_iff]
  split <;> rfl

/-! ## Clean paths -/

theorem Clean.route_render (p : Clean) :
    Route.render p.names = if p.rooted then p.render else "/" ++ p.render := by
  rw [← String.toList_inj]
  cases h : p.rooted <;> simp [Clean.render, Route.render, h]

theorem Clean.components_render {p : Clean} (h : ∀ name ∈ p.names, IsPlain name) :
    components p.render = (if p.rooted then [.root] else []) ++ p.names.map .name := by
  unfold Clean.render
  cases p.rooted with
  | true => exact components_slash_joinWith h
  | false => exact components_joinWith h

theorem Clean.clean_render {p : Clean} (h : ∀ name ∈ p.names, IsPlain name) :
    clean p.render = some p.render := by
  have hparts : cleanParts (components p.render) = some p := by
    obtain ⟨rooted, names⟩ := p
    rw [cleanParts, components_render h, List.foldl_append]
    cases rooted <;> simp [cleanStep, foldl_cleanStep_names]
  rw [clean, hparts, Option.map_some]

/-- Cleaning a path fails exactly if some start of its segments has more `..` than names. Otherwise it
gives the canonical route, for a relative path without the slash in front. What it gives has neither
`.` nor `..`, and cleaning it again changes nothing. -/
theorem clean_agrees (path : String) :
    (clean path = none ↔
      ∃ front, front <+: splitOn '/' path.toList ∧
        front.countP Route.isStep < front.count ['.', '.']) ∧
    ∀ target, clean path = some target →
      Route.clean path = (if isAbsolute path then target else "/" ++ target) ∧
      clean target = some target ∧
      .here ∉ components target ∧ .parent ∉ components target := by
  have hplain : ∀ name ∈ Route.segments path.toList, IsPlain name :=
    fun _ => Route.isPlain_of_mem_segments
  have hcomps := @Clean.components_render ⟨isAbsolute path, Route.segments path.toList⟩ hplain
  refine ⟨?_, ?_⟩
  · rw [clean_eq, ← Route.not_staysInside_iff]
    simp
  · intro target htarget
    rw [clean_eq, Option.ite_none_right_eq_some] at htarget
    obtain ⟨-, ⟨⟩⟩ := htarget
    refine ⟨Clean.route_render ⟨isAbsolute path, _⟩, Clean.clean_render hplain, ?_, ?_⟩
    · rw [hcomps]
      cases isAbsolute path <;> simp
    · rw [hcomps]
      cases isAbsolute path <;> simp

/-- A path that goes up and down, and one that goes up once too often. -/
theorem clean_agrees_winding :
    (clean "./a//../b/./c/../d/" = some "b/d" ∧
      Route.clean "./a//../b/./c/../d/" = "/b/d" ∧ clean "b/d" = some "b/d") ∧
    ∃ front, front <+: splitOn '/' "/a/../../b/c".toList ∧
      front.countP Route.isStep < front.count ['.', '.'] := by
  have hclean : clean "./a//../b/./c/../d/" = some "b/d" := by decide
  obtain ⟨hroute, hagain, -⟩ := (clean_agrees _).2 _ hclean
  have hfails : clean "/a/../../b/c" = none := by decide
  exact ⟨⟨hclean, hroute.trans (by decide), hagain⟩, (clean_agrees _).1.1 hfails⟩

end DocAtlas.Path
