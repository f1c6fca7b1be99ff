-- SUMMARY: The canonical form of a route as a normal form: what its text looks like, and that it stands for the route wherever more is put behind it.
import DocAtlas.Proofs.Route.Relative

/-! # The normal form of a route

Cleaning gives a text of a certain form, which is said here without cleaning:
the root, or segments with one slash in front of each. A text of that form is
left as it is. A route and its canonical form lead to the same place, and so do
the two with the same text behind them. -/

namespace DocAtlas.Route

open Text

/-! ## Texts in normal form -/

/-- The text starts with a slash; unless it is the root, it does not end with one, and none of the
segments behind the slash is empty, `.` or `..`. -/
structure IsNormal (route : String) : Prop where
  lead : route.toList.head? = some '/'
  last : route ≠ "/" → route.toList.getLast? ≠ some '/'
  segments : route ≠ "/" →
    ∀ seg ∈ splitOn '/' route.toList.tail, seg ≠ [] ∧ seg ≠ ['.'] ∧ seg ≠ ['.', '.']

theorem IsCanonical.isNormal {route : String} {segs : Segments} (h : IsCanonical route segs) :
    IsNormal route := by
  have htext : route.toList = '/' :: joinWith '/' segs := by rw [h.text, render, String.toList_ofList]
  by_cases hsegs : segs = []
  · have hroot : route = "/" := by rw [h.text, hsegs]; rfl
    exact ⟨by rw [htext]; rfl, absurd hroot, absurd hroot⟩
  · have hsplit := splitOn_joinWith hsegs fun seg hseg => (h.plain seg hseg).no_slash
    refine ⟨by rw [htext]; rfl, fun _ => ?_, fun _ seg hseg => ?_⟩
    · rw [htext]
      exact getLast?_slash_joinWith_ne hsegs h.plain
    · rw [htext, List.tail_cons, hsplit] at hseg
      have hplain := h.plain seg hseg
      exact ⟨hplain.ne_nil, hplain.ne_dot, hplain.ne_dots⟩

theorem IsNormal.exists_isCanonical {route : String} (h : IsNormal route) :
    ∃ segs, IsCanonical route segs := by
  by_cases hroot : route = "/"
  · exact ⟨[], by simp, hroot⟩
  · obtain ⟨rest, hrest⟩ := List.head?_eq_some_iff.1 h.lead
    have hsegments := h.segments hroot
    rw [hrest, List.tail_cons] at hsegments
    refine ⟨splitOn '/' rest, fun seg hseg => ?_, ?_⟩
    · obtain ⟨hnil, hdot, hdots⟩ := hsegments seg hseg
      exact ⟨hnil, hdot, hdots, not_mem_of_mem_splitOn hseg⟩
    · rw [render, joinWith_splitOn, ← hrest, String.ofList_toList]

theorem isNormal_clean (route : String) : IsNormal (clean route) := (isCanonical_clean route).isNormal

theorem IsCanonical.clean_eq {route : String} {segs : Segments} (h : IsCanonical route segs) :
    clean route = route := by
  rw [clean, h.text, segments_render h.plain]

theorem isNormal_iff {route : String} : IsNormal route ↔ clean route = route := by
  constructor
  · intro h
    obtain ⟨segs, hsegs⟩ := h.exists_isCanonical
    exact hsegs.clean_eq
  · intro h
    rw [← h]
    exact isNormal_clean route

/-! ## Places -/

/-- The place below the root that a route leads to. -/
def place (route : String) : Segments := (splitOn '/' route.toList).foldl advance []

theorem segments_eq_place (route : String) : segments route.toList = place route :=
  follow_eq_foldl [] _

theorem place_clean (route : String) : place (clean route) = place route := by
  rw [← segments_eq_place, ← segments_eq_place, segments_clean]

/-- Two routes have one canonical form exactly if they lead to one place. -/
theorem clean_eq_clean_iff {route other : String} :
    clean route = clean other ↔ place route = place other := by
  constructor
  · intro h
    rw [← place_clean, h, place_clean]
  · intro h
    rw [clean, clean, segments_eq_place, segments_eq_place, h]

/-- A route can be cleaned before more is put behind it. -/
theorem clean_clean_append_slash (front rest : String) :
    clean (clean front ++ "/" ++ rest) = clean (front ++ "/" ++ rest) := by
  rw [String.append_assoc, String.append_assoc]
  exact clean_clean_append (by simp)

/-- The canonical form of a route is a normal form. Its text has that form, and the texts of that form
are those which cleaning leaves as they are. It stands for the route: it is the same for two routes
exactly if they lead to the same place, cleaning again changes nothing, and a route may be cleaned
before more is put behind it. -/
theorem clean_normal_form :
    (∀ route, IsNormal (clean route)) ∧
      (∀ route, IsNormal route ↔ clean route = route) ∧
      (∀ route other, clean route = clean other ↔ place route = place other) ∧
      (∀ route, clean (clean route) = clean route) ∧
      ∀ front rest, clean (clean front ++ "/" ++ rest) = clean (front ++ "/" ++ rest) :=
  ⟨isNormal_clean, fun _ => isNormal_iff, fun _ _ => clean_eq_clean_iff, clean_clean,
    clean_clean_append_slash⟩

end DocAtlas.Route
