-- SUMMARY: Lists that are searched by a distinct key, lists whose items are computed one by one, and stable sorting.
import Mathlib.Data.List.Forall2
import Mathlib.Data.List.Nodup
import Mathlib.Data.Set.Function

/-! # Lists with keys

Where no two items have the same key, searching for a key finds the item that
has it. A computation over a list that may fail gives one result for each item
when it succeeds. Sorting keeps the order of items with the same key. -/

namespace DocAtlas

variable {α β ε κ : Type}

theorem find?_key_eq_some_iff [DecidableEq κ] {key : α → κ} {items : List α}
    (hkeys : (items.map key).Nodup) {k : κ} {a : α} :
    items.find? (fun b => key b = k) = some a ↔ a ∈ items ∧ key a = k := by
  constructor
  · intro h
    exact ⟨List.mem_of_find?_eq_some h, by simpa using List.find?_some h⟩
  · rintro ⟨ha, rfl⟩
    have hsome : (items.find? fun b => key b = key a).isSome := by
      simpa using ⟨a, ha, rfl⟩
    obtain ⟨b, hb⟩ := Option.isSome_iff_exists.1 hsome
    have hkey : key b = key a := by simpa using List.find?_some hb
    rw [hb, List.inj_on_of_nodup_map hkeys (List.mem_of_find?_eq_some hb) ha hkey]

theorem find?_key_eq_none_iff [DecidableEq κ] {key : α → κ} {items : List α} {k : κ} :
    items.find? (fun b => key b = k) = none ↔ k ∉ items.map key := by
  rw [List.find?_eq_none]
  simp

theorem exists_find?_key [DecidableEq κ] {key : α → κ} {items : List α} {k : κ}
    (h : k ∈ items.map key) :
    ∃ a ∈ items, key a = k ∧ items.find? (fun b => key b = k) = some a := by
  cases hfind : items.find? fun b => key b = k with
  | none => exact absurd h (find?_key_eq_none_iff.1 hfind)
  | some a =>
    exact ⟨a, List.mem_of_find?_eq_some hfind, by simpa using List.find?_some hfind, rfl⟩

theorem mapM_eq_ok_iff {f : α → Except ε β} {items : List α} {results : List β} :
    items.mapM f = .ok results ↔ List.Forall₂ (fun a b => f a = .ok b) items results := by
  induction items generalizing results with
  | nil =>
    rw [List.mapM_nil, List.forall₂_nil_left_iff]
    exact ⟨fun h => (Except.ok.inj h).symm, fun h => h ▸ rfl⟩
  | cons a items ih =>
    rw [List.mapM_cons, List.forall₂_cons_left_iff]
    simp only [← ih]
    cases ha : f a with
    | error e => simp [bind, Except.bind]
    | ok b =>
      cases hitems : items.mapM f with
      | error e => simp [bind, Except.bind]
      | ok rest => simp [bind, Except.bind, pure, Except.pure, eq_comm]

theorem mapM_eq_some_self {f : α → Option α} {items : List α} (h : ∀ a ∈ items, f a = some a) :
    items.mapM f = some items := by
  induction items with
  | nil => rfl
  | cons a items ih =>
    rw [List.mapM_cons, h a List.mem_cons_self, ih fun b hb => h b (List.mem_cons_of_mem _ hb)]
    rfl

theorem exists_of_mem_forall₂ {R : α → β → Prop} {items : List α} {results : List β}
    (h : List.Forall₂ R items results) {b : β} (hb : b ∈ results) : ∃ a ∈ items, R a b := by
  induction h with
  | nil => cases hb
  | cons hr _ ih =>
    rcases List.mem_cons.1 hb with rfl | hb
    · exact ⟨_, List.mem_cons_self, hr⟩
    · obtain ⟨a, ha, hr⟩ := ih hb
      exact ⟨a, List.mem_cons_of_mem _ ha, hr⟩

/-- A stable sort keeps the order of items that may stand in any order. -/
theorem filter_mergeSort {le : α → α → Bool}
    (htrans : ∀ a b c, le a b = true → le b c = true → le a c = true)
    (htotal : ∀ a b, (le a b || le b a) = true) {p : α → Bool}
    (hp : ∀ a b, p a = true → p b = true → le a b = true) (items : List α) :
    (items.mergeSort le).filter p = items.filter p := by
  have hsorted : (items.filter p).Pairwise fun a b => le a b = true := by
    refine List.pairwise_of_forall_mem_list fun a ha b hb => ?_
    exact hp a b (List.mem_filter.1 ha).2 (List.mem_filter.1 hb).2
  have hsub : (items.filter p).Sublist (items.mergeSort le) :=
    List.sublist_mergeSort htrans htotal hsorted List.filter_sublist
  have hsub' : (items.filter p).Sublist ((items.mergeSort le).filter p) := by
    simpa only [List.filter_filter, Bool.and_self] using hsub.filter p
  refine (hsub'.eq_of_length ?_).symm
  exact ((List.mergeSort_perm items le).filter p).length_eq.symm

/-- Distinct keys number the items by what the keys are. -/
theorem bijOn_key {key : α → κ} {items : List α} {keys : Set κ} (hkeys : (items.map key).Nodup)
    (hmem : ∀ k, k ∈ items.map key ↔ k ∈ keys) : Set.BijOn key {a | a ∈ items} keys := by
  refine ⟨fun a ha => (hmem _).1 (List.mem_map_of_mem ha), fun a ha b hb h => ?_, fun k hk => ?_⟩
  · exact List.inj_on_of_nodup_map hkeys ha hb h
  · exact List.mem_map.1 ((hmem k).2 hk)

end DocAtlas
