-- SUMMARY: Relative references on a canonical route: where their segments lead, and the references that lead to a given route.
import DocAtlas.Proofs.Path
import DocAtlas.Proofs.Route

/-! # Relative references

A relative reference starts in the directory of the page, which is the route of
the page without its last segment, and takes its segments one after the other.
So every route can be reached from every other one: up to the root and down
again, or up to a directory that both have in common. -/

namespace DocAtlas.Route

open Text

/-! ## Canonical routes -/

/-- A canonical route has plain segments with a slash in front of each; the root is a slash alone. -/
structure IsCanonical (route : String) (segs : Segments) : Prop where
  plain : ∀ seg ∈ segs, IsPlain seg
  text : route = render segs

theorem isCanonical_clean (route : String) : IsCanonical (clean route) (segments route.toList) where
  plain := fun _ => isPlain_of_mem_segments
  text := rfl

/-! ## Following segments -/

/-- The place that one segment of a reference leads to: nowhere else for an empty one or `.`, one
segment up for `..`, where there is one, and down for any other. -/
def advance (place : Segments) (segment : List Char) : Segments :=
  if segment = [] ∨ segment = ['.'] then place
  else if segment = ['.', '.'] then place.dropLast
  else place ++ [segment]

theorem reverse_step (stack : Segments) (segment : List Char) :
    (step stack segment).reverse = advance stack.reverse segment := by
  unfold step advance
  split
  next => rfl
  next =>
    split
    next => exact List.dropLast_reverse.symm
    next => exact List.reverse_cons

theorem follow_eq_foldl (start reference : Segments) :
    follow start reference = reference.foldl advance start := by
  induction reference generalizing start with
  | nil => exact List.reverse_reverse start
  | cons segment rest ih =>
    have hstep := reverse_step start.reverse segment
    rw [List.reverse_reverse] at hstep
    rw [List.foldl_cons, ← ih, ← hstep, follow, follow, List.foldl_cons, List.reverse_reverse]

/-- Going up stops at the root. -/
theorem foldl_advance_replicate (ups : Nat) (place : Segments) :
    (List.replicate ups ['.', '.']).foldl advance place = place.take (place.length - ups) := by
  induction ups generalizing place with
  | zero => simp
  | succ ups ih =>
    have hup : advance place ['.', '.'] = place.dropLast := by simp [advance]
    rw [List.replicate_succ, List.foldl_cons, hup, ih, List.dropLast_eq_take, List.take_take,
      List.length_take]
    congr 1
    omega

/-! ## Directories -/

theorem splitOn_flatMap_append {front : Segments} (h : ∀ seg ∈ front, '/' ∉ seg) (rest : List Char) :
    splitOn '/' (front.flatMap (· ++ ['/']) ++ rest) = front ++ splitOn '/' rest := by
  induction front with
  | nil => rfl
  | cons seg front ih =>
    have hseg : splitOn '/' seg = [seg] :=
      splitOn_joinWith (List.cons_ne_nil seg []) (by simpa using h seg List.mem_cons_self)
    have hfront := ih fun s hs => h s (List.mem_cons_of_mem _ hs)
    rw [List.flatMap_cons, List.append_assoc, List.append_assoc, List.singleton_append,
      splitOn_append, hseg, hfront]
    rfl

/-- The directory of a canonical route is the route without its last segment. -/
theorem directory_render {segs : Segments} (h : ∀ seg ∈ segs, IsPlain seg) :
    directory (render segs).toList = '/' :: segs.dropLast.flatMap (· ++ ['/']) := by
  rw [render, String.toList_ofList, directory, if_pos List.mem_cons_self]
  rcases segs.eq_nil_or_concat with rfl | ⟨front, last, rfl⟩
  · rfl
  · rw [List.concat_eq_append] at h ⊢
    have hlast : '/' ∉ last := (h last (by simp)).no_slash
    have hcut := @Path.dropWhile_reverse_joinWith ([] :: front) last hlast
    have htext : joinWith '/' ([] :: front ++ [last]) = '/' :: joinWith '/' (front ++ [last]) := by
      rw [joinWith_concat, joinWith_concat, List.flatMap_cons]
      rfl
    rw [htext] at hcut
    rw [hcut, List.dropLast_concat, List.flatMap_cons]
    rfl

/-- A reference leads on from the directory of a canonical route. -/
theorem segments_directory_append {segs : Segments} (h : ∀ seg ∈ segs, IsPlain seg)
    (relative : List Char) :
    segments (directory (render segs).toList ++ relative)
      = (splitOn '/' relative).foldl advance segs.dropLast := by
  have hfront : ∀ seg ∈ segs.dropLast, IsPlain seg := fun seg hseg => h seg (List.dropLast_subset _ hseg)
  have hdown : follow [] segs.dropLast = segs.dropLast := by
    rw [follow, foldl_step_of_isPlain hfront]
    simp
  rw [directory_render h, List.cons_append, ← List.nil_append ('/' :: _), segments_append_slash,
    splitOn_flatMap_append fun seg hseg => (hfront seg hseg).no_slash, follow_append]
  have hroot : segments [] = [] := rfl
  rw [hroot, hdown, follow_eq_foldl]

theorem isCanonical_join {base : String} {segs : Segments} (h : IsCanonical base segs)
    (relative : String) :
    IsCanonical (join base relative)
      ((splitOn '/' relative.toList).foldl advance segs.dropLast) := by
  have hjoin := isCanonical_clean (String.ofList (directory base.toList) ++ relative)
  rwa [String.toList_append, String.toList_ofList, h.text, segments_directory_append h.plain,
    ← h.text] at hjoin

/-! ## References to a given route -/

/-- The reference that goes up and then down by the segments. -/
def reference (ups : Nat) (segs : Segments) : String :=
  String.ofList ((List.replicate ups ['.', '.', '/']).flatten ++ joinWith '/' segs)

theorem foldl_advance_reference (place : Segments) (ups : Nat) {segs : Segments}
    (h : ∀ seg ∈ segs, IsPlain seg) :
    (splitOn '/' (reference ups segs).toList).foldl advance place
      = place.take (place.length - ups) ++ segs := by
  have hups : (List.replicate ups ['.', '.', '/']).flatten
      = (List.replicate ups ['.', '.']).flatMap (· ++ ['/']) := by simp [List.flatMap_replicate]
  have hslash : ∀ seg ∈ List.replicate ups ['.', '.'], '/' ∉ seg := by simp
  rw [reference, String.toList_ofList, hups, splitOn_flatMap_append hslash, List.foldl_append,
    foldl_advance_replicate, ← follow_eq_foldl, follow_splitOn_joinWith h]

/-- The way leads up to any directory that the page and the target have in common, and down again. -/
theorem join_reference {base target : String} {bs ts common : Segments}
    (hbase : IsCanonical base bs) (htarget : IsCanonical target ts)
    (hup : common <+: bs.dropLast) (hdown : common <+: ts) :
    join base (reference (bs.length - 1 - common.length) (ts.drop common.length)) = target := by
  have hrest : ∀ seg ∈ ts.drop common.length, IsPlain seg :=
    fun seg hseg => htarget.plain seg (List.mem_of_mem_drop hseg)
  have hkept : bs.dropLast.take (bs.dropLast.length - (bs.length - 1 - common.length)) = common := by
    have hle := hup.length_le
    rw [List.length_dropLast] at hle ⊢
    rw [Nat.sub_sub_self hle]
    exact (List.prefix_iff_eq_take.1 hup).symm
  have hwhole : common ++ ts.drop common.length = ts := by
    rw [List.prefix_iff_eq_append.1 hdown]
  rw [(isCanonical_join hbase _).text, foldl_advance_reference _ _ hrest, hkept, hwhole, htarget.text]

/-- A relative reference on a canonical route gives the canonical route that its segments lead to from
the directory of the page. So a canonical route is reached from any other one by going up to the root
and down by its segments, and as well by going up only to a directory that both have in common. -/
theorem join_follows {base : String} {bs : Segments} (hbase : IsCanonical base bs) :
    (∀ relative, IsCanonical (join base relative)
      ((splitOn '/' relative.toList).foldl advance bs.dropLast)) ∧
    ∀ target ts, IsCanonical target ts →
      join base (reference (bs.length - 1) ts) = target ∧
      ∀ common, common <+: bs.dropLast → common <+: ts →
        join base (reference (bs.length - 1 - common.length) (ts.drop common.length)) = target := by
  refine ⟨isCanonical_join hbase, ?_⟩
  intro target ts htarget
  refine ⟨?_, ?_⟩
  · exact @join_reference base target bs ts [] hbase htarget List.nil_prefix List.nil_prefix
  · intro common hup hdown
    exact join_reference hbase htarget hup hdown

theorem join_follows_sibling :
    IsCanonical "/docs/server/intro" ["docs".toList, "server".toList, "intro".toList] ∧
      IsCanonical "/docs/fhir" ["docs".toList, "fhir".toList] ∧
      join "/docs/server/intro" "../../docs/fhir" = "/docs/fhir" ∧
      join "/docs/server/intro" "../fhir" = "/docs/fhir" := by
  have hbase : IsCanonical "/docs/server/intro" ["docs".toList, "server".toList, "intro".toList] :=
    ⟨by decide, by decide⟩
  have htarget : IsCanonical "/docs/fhir" ["docs".toList, "fhir".toList] := ⟨by decide, by decide⟩
  obtain ⟨hlong, hshort⟩ := (join_follows hbase).2 _ _ htarget
  exact ⟨hbase, htarget, hlong, hshort ["docs".toList] ⟨_, rfl⟩ ⟨_, rfl⟩⟩

end DocAtlas.Route
