-- SUMMARY: Grouping by source is a stable sort by bytes: a report lists what was added to it, by source and then in the order of adding.
import DocAtlas.Audit.Report
import DocAtlas.Proofs.Encoding
import DocAtlas.Proofs.List
import DocAtlas.Proofs.StringMap
import DocAtlas.Proofs.Text
import Mathlib.Data.List.Basic

/-! # Grouping

A report keeps its links in groups, one for each source. Read from front to
back it is the list of the added links, stably sorted by source: the sources
increase in the order of their bytes, and the links of one source stand in the
order in which they were added. These two facts determine the list, so additions
under different sources can be swapped (`Report.add_comm`). -/

namespace DocAtlas

open Text

/-! ## Stable sorting by a text -/

namespace StableSort

variable {β : Type}

/-- The order by the first component, under which all pairs with the same one are alike. -/
def byFirst (a b : String × β) : Bool := Text.le a.1 b.1

/-- The order by the bytes of the first component. -/
def byBytes (a b : String × β) : Bool := !decide (Utf8.encode b.1.toList < Utf8.encode a.1.toList)

theorem byFirst_eq_byBytes : @byFirst β = byBytes := by
  funext a b
  simp only [byFirst, byBytes, Text.le, Utf8.lt_iff_encode_lt]

abbrev Sorted (xs : List (String × β)) : Prop := xs.Pairwise fun a b => byFirst a b = true

/-- The pairs with a given first component, in their order. -/
def under (key : String) (xs : List (String × β)) : List (String × β) := xs.filter (·.1 = key)

theorem under_cons (key : String) (x : String × β) (xs : List (String × β)) :
    under key (x :: xs) = if x.1 = key then x :: under key xs else under key xs := by
  by_cases h : x.1 = key <;> simp [under, h]

theorem under_append (key : String) (xs ys : List (String × β)) :
    under key (xs ++ ys) = under key xs ++ under key ys :=
  List.filter_append xs ys

theorem mem_under {key : String} {x : String × β} {xs : List (String × β)} :
    x ∈ under key xs ↔ x ∈ xs ∧ x.1 = key := by
  simp [under]

theorem mem_of_under_eq {xs ys : List (String × β)} (h : ∀ key, under key xs = under key ys)
    {x : String × β} (hx : x ∈ xs) : x ∈ ys := by
  have hmem : x ∈ under x.1 ys := h x.1 ▸ mem_under.2 ⟨hx, rfl⟩
  exact (mem_under.1 hmem).1

/-- A sorted list is known by what it holds under each key. -/
theorem eq_of_under_eq {xs ys : List (String × β)} (hxs : Sorted xs) (hys : Sorted ys)
    (h : ∀ key, under key xs = under key ys) : xs = ys := by
  induction xs generalizing ys with
  | nil =>
    cases ys with
    | nil => rfl
    | cons y ys =>
      have hy : y ∈ ([] : List (String × β)) :=
        mem_of_under_eq (fun key => (h key).symm) List.mem_cons_self
      cases hy
  | cons x xs ih =>
    cases ys with
    | nil => cases mem_of_under_eq h List.mem_cons_self
    | cons y ys =>
      obtain ⟨hx, hxs'⟩ := List.pairwise_cons.1 hxs
      obtain ⟨hy, hys'⟩ := List.pairwise_cons.1 hys
      -- Each head stands in the other list, hence not before the other head.
      have hxy : Text.le x.1 y.1 = true := by
        rcases List.mem_cons.1 (mem_of_under_eq (fun key => (h key).symm) (List.mem_cons_self (a := y)))
          with rfl | hmem
        · exact Text.le_refl _
        · exact hx y hmem
      have hyx : Text.le y.1 x.1 = true := by
        rcases List.mem_cons.1 (mem_of_under_eq h (List.mem_cons_self (a := x))) with rfl | hmem
        · exact Text.le_refl _
        · exact hy x hmem
      have hkey : x.1 = y.1 := Text.le_antisymm hxy hyx
      have hhead : x = y := by
        have := h y.1
        rw [under_cons, under_cons, if_pos hkey, if_pos rfl] at this
        exact (List.cons.inj this).1
      subst hhead
      refine congrArg (x :: ·) (ih hxs' hys' fun key => ?_)
      have := h key
      rw [under_cons, under_cons] at this
      split at this
      · exact (List.cons.inj this).2
      · exact this

theorem byFirst_trans (a b c : String × β) (hab : byFirst a b = true) (hbc : byFirst b c = true) :
    byFirst a c = true :=
  Text.le_trans _ _ _ hab hbc

theorem byFirst_total (a b : String × β) : (byFirst a b || byFirst b a) = true :=
  Text.le_total _ _

theorem sorted_mergeSort (xs : List (String × β)) : Sorted (xs.mergeSort byFirst) :=
  List.pairwise_mergeSort byFirst_trans byFirst_total xs

/-- Sorting keeps the order of the pairs under each key. -/
theorem under_mergeSort (key : String) (xs : List (String × β)) :
    under key (xs.mergeSort byFirst) = under key xs := by
  refine filter_mergeSort byFirst_trans byFirst_total (fun a b ha hb => ?_) xs
  have hab : a.1 = b.1 := (of_decide_eq_true ha).trans (of_decide_eq_true hb).symm
  simp only [byFirst, hab]
  exact Text.le_refl _

/-- A sorted list that holds the same pairs in the same order under each key is the stable sort. -/
theorem eq_mergeSort {xs ys : List (String × β)} (hsorted : Sorted ys)
    (h : ∀ key, under key ys = under key xs) : ys = xs.mergeSort byFirst :=
  eq_of_under_eq hsorted (sorted_mergeSort xs) fun key => (h key).trans (under_mergeSort key xs).symm

end StableSort

/-! ## Groups -/

open StableSort

namespace Grouped

theorem links_eq_paired (g : Grouped) : g.links = StringMap.paired id g.entries := rfl

theorem sorted_links (g : Grouped) : Sorted g.links := by
  refine List.pairwise_flatMap.2 ⟨?_, g.sorted.imp ?_⟩
  · rintro ⟨source, links⟩ -
    exact List.pairwise_map.2 (List.pairwise_of_forall fun _ _ => Text.le_refl source)
  · intro e e' hlt a ha b hb
    obtain ⟨_, -, rfl⟩ := List.mem_map.1 ha
    obtain ⟨_, -, rfl⟩ := List.mem_map.1 hb
    exact Text.le_of_lt hlt

/-- What a report holds under a source is the group of that source. -/
theorem under_links (g : Grouped) (key : String) :
    under key g.links = ((g.get? key).getD []).map (key, ·) := by
  rw [links_eq_paired, under, StringMap.filter_paired id g.sorted, Option.map_id]
  rfl

/-- Adding a link puts it behind those of its source and changes nothing else. -/
theorem under_links_add (g : Grouped) (source : String) (link : BrokenLink) (key : String) :
    under key (g.add source link).links = under key g.links ++ under key [(source, link)] := by
  rw [under_links, under_links, add, StringMap.get?_alter, under_cons]
  by_cases h : key = source
  · subst h
    simp [under]
  · simp [h, Ne.symm h, under]

theorem count_eq (g : Grouped) : g.count = g.links.length := by
  simp [count, links, List.length_flatMap]

/-- Every source has a link. -/
def Filled (g : Grouped) : Prop := ∀ e ∈ g.entries, e.2 ≠ []

theorem Filled.add {g : Grouped} (h : g.Filled) (source : String) (link : BrokenLink) :
    (g.add source link).Filled := by
  intro e he
  have hget := (StringMap.get?_eq_some_iff _).2 he
  rw [Grouped.add, StringMap.get?_alter] at hget
  split at hget
  next =>
    rw [← Option.some.inj hget]
    exact List.concat_ne_nil _ _
  next => exact h e ((StringMap.get?_eq_some_iff _).1 hget)

theorem add_comm (g : Grouped) {source source' : String} (hne : source ≠ source')
    (link link' : BrokenLink) :
    (g.add source link).add source' link' = (g.add source' link').add source link :=
  g.alter_comm hne _ _

end Grouped

namespace Report

/-- An addition goes to the groups of its class. -/
theorem ofClass_add (r : Report) (c : LinkClass) (source : String) (link : BrokenLink)
    (c' : LinkClass) :
    (r.add c source link).ofClass c' =
      if c = c' then (r.ofClass c').add source link else r.ofClass c' := by
  cases c <;> cases c' <;> rfl

theorem ext_ofClass {r r' : Report} (h : ∀ c, r.ofClass c = r'.ofClass c) : r = r' := by
  cases r
  cases r'
  exact congrArg₂ Report.mk (h .doc) (h .markdown)

theorem count_eq (r : Report) (c : LinkClass) : r.count c = (r.links c).length :=
  Grouped.count_eq _

theorem sorted_links (r : Report) (c : LinkClass) : Sorted (r.links c) :=
  (r.ofClass c).sorted_links

theorem under_links_add (r : Report) (c : LinkClass) (source : String) (link : BrokenLink)
    (c' : LinkClass) (key : String) :
    under key ((r.add c source link).links c') =
      under key (r.links c') ++ if c = c' then under key [(source, link)] else [] := by
  rw [links, ofClass_add]
  split
  next => exact Grouped.under_links_add _ _ _ _
  next => exact (List.append_nil _).symm

/-- What was added under a class, in the order of adding. -/
def addedTo (c : LinkClass) (adds : List (LinkClass × String × BrokenLink)) :
    List (String × BrokenLink) :=
  (adds.filter (·.1 = c)).map (·.2)

theorem under_links_foldl_add (adds : List (LinkClass × String × BrokenLink)) (r : Report)
    (c : LinkClass) (key : String) :
    under key ((adds.foldl (fun r (c, source, link) => r.add c source link) r).links c) =
      under key (r.links c) ++ under key (addedTo c adds) := by
  induction adds generalizing r with
  | nil => simp [addedTo, under]
  | cons hd rest ih =>
    obtain ⟨c', source, link⟩ := hd
    rw [List.foldl_cons, ih, under_links_add, List.append_assoc]
    by_cases h : c' = c
    · subst h
      have hhead : addedTo c' ((c', source, link) :: rest) = [(source, link)] ++ addedTo c' rest := by
        simp [addedTo]
      rw [hhead, under_append, if_pos rfl]
    · simp [h, addedTo]

/-- The report of a list of additions is their stable sort by source, class by class. -/
theorem links_foldl_add (adds : List (LinkClass × String × BrokenLink)) (c : LinkClass) :
    (adds.foldl (fun r (c, source, link) => r.add c source link) ({} : Report)).links c =
      (addedTo c adds).mergeSort byFirst := by
  refine eq_mergeSort (sorted_links _ c) fun key => ?_
  rw [under_links_foldl_add]
  cases c <;> rfl

/-! ## Sequences of additions -/

/-- The report that additions make one after the other. -/
def ofAdditions (adds : List (LinkClass × String × BrokenLink)) : Report :=
  adds.foldl (fun r (c, source, link) => r.add c source link) {}

theorem filled_foldl_add (adds : List (LinkClass × String × BrokenLink)) {r : Report}
    (h : ∀ c, (r.ofClass c).Filled) (c : LinkClass) :
    ((adds.foldl (fun r (c, source, link) => r.add c source link) r).ofClass c).Filled := by
  induction adds generalizing r with
  | nil => exact h c
  | cons hd rest ih =>
    obtain ⟨c', source, link⟩ := hd
    apply ih
    intro c
    rw [ofClass_add]
    split
    next => exact (h c).add source link
    next => exact h c

theorem filled_ofAdditions (adds : List (LinkClass × String × BrokenLink)) (c : LinkClass) :
    ((ofAdditions adds).ofClass c).Filled := by
  refine filled_foldl_add adds ?_ c
  intro c e he
  cases c <;> cases he

/-- Additions to different classes or under different sources do not disturb each other. -/
theorem add_comm (r : Report) {c c' : LinkClass} {source source' : String}
    (hne : c ≠ c' ∨ source ≠ source') (link link' : BrokenLink) :
    (r.add c source link).add c' source' link' = (r.add c' source' link').add c source link := by
  apply ext_ofClass
  intro k
  simp only [ofClass_add]
  by_cases hc : c = k
  · by_cases hc' : c' = k
    · have hsource := hne.resolve_left fun h => h (hc.trans hc'.symm)
      rw [if_pos hc, if_pos hc', if_pos hc, if_pos hc', Grouped.add_comm _ hsource]
    · simp only [if_neg hc']
  · simp only [if_neg hc]

/-- A class of a report lists what was added under it, by source in the order of bytes and then in
the order of adding; its count is the number of additions, and no source is without links.
Additions to different classes or under different sources may be swapped. -/
theorem additions_grouped (adds : List (LinkClass × String × BrokenLink)) :
    (∀ c, (ofAdditions adds).links c = (addedTo c adds).mergeSort byBytes ∧
      (ofAdditions adds).count c = (addedTo c adds).length ∧
      ∀ e ∈ ((ofAdditions adds).ofClass c).entries, e.2 ≠ []) ∧
    ∀ (r : Report) (c c' : LinkClass) (source source' : String) (link link' : BrokenLink),
      c ≠ c' ∨ source ≠ source' →
        (r.add c source link).add c' source' link' = (r.add c' source' link').add c source link := by
  have hlinks (c : LinkClass) :
      (ofAdditions adds).links c = (addedTo c adds).mergeSort byFirst := links_foldl_add adds c
  refine ⟨fun c => ⟨?_, ?_, filled_ofAdditions adds c⟩, ?_⟩
  · rw [hlinks, byFirst_eq_byBytes]
  · rw [count_eq, hlinks, List.length_mergeSort]
  · intro r c c' source source' link link' hne
    exact r.add_comm hne link link'

/-- Three links of two sources, one of them in the other class. -/
def mixedAdditions : List (LinkClass × String × BrokenLink) :=
  [(.doc, "é.md", ⟨"gone", some 7, "not found"⟩), (.markdown, "é.md", ⟨"gone.md", some 3, ""⟩),
    (.doc, "z.md", ⟨"gone", none, "not found"⟩)]

theorem additions_grouped_mixed :
    (ofAdditions mixedAdditions).count .doc = 2 ∧
      (LinkClass.doc ≠ .markdown ∨ "é.md" ≠ "é.md") ∧
      ofAdditions mixedAdditions =
        ofAdditions [(.markdown, "é.md", ⟨"gone.md", some 3, ""⟩),
          (.doc, "é.md", ⟨"gone", some 7, "not found"⟩), (.doc, "z.md", ⟨"gone", none, "not found"⟩)] := by
  obtain ⟨hclasses, hswap⟩ := additions_grouped mixedAdditions
  have hne : LinkClass.doc ≠ .markdown ∨ "é.md" ≠ "é.md" := .inl (by decide)
  refine ⟨(hclasses .doc).2.1, hne, ?_⟩
  exact congrArg (·.add .doc "z.md" ⟨"gone", none, "not found"⟩) (hswap {} _ _ _ _ _ _ hne)

end Report

end DocAtlas
