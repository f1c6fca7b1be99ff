-- SUMMARY: Maps from strings through their lookups: what is found, and what changing one entry does to every key.
import DocAtlas.StringMap
import Mathlib.Data.List.Basic

/-! # Lookups in maps from strings

A map is known by what it holds under each key. Since the keys increase
strictly, an entry is found exactly under its own key, and changing the entry
of one key leaves every other key alone. -/

namespace DocAtlas.StringMap

variable {α β : Type}

/-! ## Entries and lookups -/

@[ext] theorem ext {m n : StringMap α} (h : m.entries = n.entries) : m = n := by
  cases m
  cases n
  simp only [mk.injEq]
  exact h

/-- The value under a key in a list of entries. -/
def lookup (entries : List (String × α)) (key : String) : Option α :=
  (entries.find? (·.1 = key)).map (·.2)

theorem lookup_cons (k : String) (v : α) (rest : List (String × α)) (key : String) :
    lookup ((k, v) :: rest) key = if k = key then some v else lookup rest key := by
  by_cases h : k = key <;> simp [lookup, h]

theorem lookup_eq_none_iff {entries : List (String × α)} {key : String} :
    lookup entries key = none ↔ ∀ e ∈ entries, e.1 ≠ key := by
  simp [lookup, List.find?_eq_none]

theorem lookup_eq_some_iff {entries : List (String × α)} (h : entries.Pairwise (·.1 < ·.1))
    {key : String} {v : α} : lookup entries key = some v ↔ (key, v) ∈ entries := by
  induction entries with
  | nil => simp [lookup]
  | cons hd rest ih =>
    obtain ⟨k, w⟩ := hd
    obtain ⟨hk, hrest⟩ := List.pairwise_cons.1 h
    rw [lookup_cons, List.mem_cons]
    by_cases hkey : k = key
    · subst hkey
      have hnew : (k, v) ∉ rest := fun hmem => String.lt_irrefl k (hk _ hmem)
      simp [hnew, eq_comm]
    · simp [hkey, ih hrest, Ne.symm hkey]

theorem get?_eq_some_iff (m : StringMap α) {key : String} {v : α} :
    m.get? key = some v ↔ (key, v) ∈ m.entries :=
  lookup_eq_some_iff m.sorted

/-- A map is known by what it holds under each key. -/
theorem ext_get? {m n : StringMap α} (h : ∀ key, m.get? key = n.get? key) : m = n := by
  have hnodup (l : StringMap α) : l.entries.Nodup := by
    refine l.sorted.imp ?_
    intro a b hlt heq
    exact String.lt_irrefl a.1 (heq ▸ hlt)
  have hperm : m.entries.Perm n.entries := by
    rw [List.perm_ext_iff_of_nodup (hnodup m) (hnodup n)]
    intro e
    rw [← get?_eq_some_iff, ← get?_eq_some_iff, h]
  refine ext (hperm.eq_of_pairwise ?_ m.sorted n.sorted)
  intro a b _ _ hab hba
  exact absurd hba (String.lt_asymm hab)

/-! ## Lists under the keys -/

/-- The items of the values, each with the key of its value. -/
def paired (f : α → List β) (entries : List (String × α)) : List (String × β) :=
  entries.flatMap fun (key, v) => (f v).map fun item => (key, item)

theorem paired_cons (f : α → List β) (k : String) (v : α) (rest : List (String × α)) :
    paired f ((k, v) :: rest) = (f v).map (k, ·) ++ paired f rest := rfl

/-- The items with a given key are those of the value under it. -/
theorem filter_paired (f : α → List β) {entries : List (String × α)}
    (h : entries.Pairwise (·.1 < ·.1)) (key : String) :
    (paired f entries).filter (·.1 = key) = (((lookup entries key).map f).getD []).map (key, ·) := by
  induction entries with
  | nil => rfl
  | cons hd rest ih =>
    obtain ⟨k, v⟩ := hd
    obtain ⟨hk, hrest⟩ := List.pairwise_cons.1 h
    rw [paired_cons, List.filter_append, ih hrest, lookup_cons]
    by_cases hkey : k = key
    · subst hkey
      -- No later entry has this key.
      have hnone : lookup rest k = none :=
        lookup_eq_none_iff.2 fun e he heq => String.lt_irrefl k (heq ▸ hk e he)
      simp [hnone]
    · simp [hkey]

/-! ## Changing an entry -/

theorem lookup_alterEntries (key : String) (f : Option α → α) {entries : List (String × α)}
    (h : entries.Pairwise (·.1 < ·.1)) (k : String) :
    lookup (alterEntries key f entries) k =
      if k = key then some (f (lookup entries key)) else lookup entries k := by
  induction entries with
  | nil => simp [alterEntries, lookup, eq_comm]
  | cons hd rest ih =>
    obtain ⟨k₀, v⟩ := hd
    obtain ⟨hk₀, hrest⟩ := List.pairwise_cons.1 h
    simp only [alterEntries]
    split
    next hlt =>
      -- The key goes in front: it stands before every key of the list, so it is new.
      have hnew : lookup ((k₀, v) :: rest) key = none := by
        rw [lookup_eq_none_iff]
        intro e he heq
        rcases List.mem_cons.1 he with rfl | he
        · exact String.lt_irrefl key (heq ▸ hlt)
        · have hafter : key < e.1 := String.lt_trans hlt (hk₀ e he)
          exact String.lt_irrefl key (heq ▸ hafter)
      rw [lookup_cons, hnew]
      simp only [eq_comm]
    next =>
      split
      next heq =>
        subst heq
        simp only [lookup_cons, if_pos, eq_comm]
        split <;> rfl
      next hne =>
        rw [lookup_cons, ih hrest, lookup_cons, lookup_cons]
        by_cases hk : k = key
        · subst hk
          simp [Ne.symm hne]
        · simp [hk]

theorem get?_alter (m : StringMap α) (key : String) (f : Option α → α) (k : String) :
    (m.alter key f).get? k = if k = key then some (f (m.get? key)) else m.get? k :=
  lookup_alterEntries key f m.sorted k

/-- Changes under different keys do not disturb each other. -/
theorem alter_comm (m : StringMap α) {key key' : String} (hne : key ≠ key')
    (f f' : Option α → α) : (m.alter key f).alter key' f' = (m.alter key' f').alter key f := by
  apply ext_get?
  intro k
  simp only [get?_alter, if_neg hne, if_neg (Ne.symm hne)]
  by_cases hk : k = key
  · simp [hk, hne]
  · simp [hk]

/-! ## From entries in order -/

/-- A key behind all others goes to the end. -/
theorem alterEntries_of_lt {key : String} {f : Option α → α} {entries : List (String × α)}
    (h : ∀ e ∈ entries, e.1 < key) : alterEntries key f entries = entries ++ [(key, f none)] := by
  induction entries with
  | nil => rfl
  | cons hd rest ih =>
    obtain ⟨k, v⟩ := hd
    have hk : k < key := h _ List.mem_cons_self
    have hne : key ≠ k := fun e => String.lt_irrefl key (e ▸ hk)
    have hrest := ih fun e he => h e (List.mem_cons_of_mem _ he)
    rw [alterEntries, if_neg (String.lt_asymm hk), if_neg hne, hrest]
    rfl

theorem entries_foldl_insert {entries : List (String × α)} {m : StringMap α}
    (h : (m.entries ++ entries).Pairwise (·.1 < ·.1)) :
    (entries.foldl (fun m (k, v) => m.insert k v) m).entries = m.entries ++ entries := by
  induction entries generalizing m with
  | nil => exact (List.append_nil _).symm
  | cons hd rest ih =>
    obtain ⟨k, v⟩ := hd
    have hlt : ∀ e ∈ m.entries, e.1 < k :=
      fun e he => (List.pairwise_append.1 h).2.2 e he _ List.mem_cons_self
    have hinsert : (m.insert k v).entries = m.entries ++ [(k, v)] := alterEntries_of_lt hlt
    rw [List.append_cons, ← hinsert] at h ⊢
    exact ih h

/-- A map is made of its own entries. -/
theorem ofList_entries (m : StringMap α) : ofList m.entries = m :=
  ext (entries_foldl_insert m.sorted)

end DocAtlas.StringMap

namespace DocAtlas

/-- A set is made of its own members. -/
theorem StringSet.ofList_keys (s : StringSet) : ofList s.keys = s := by
  have hpairs : s.keys.map (fun k => (k, ())) = s.entries := by
    rw [StringMap.keys, List.map_map]
    exact List.map_id _
  rw [ofList, hpairs, StringMap.ofList_entries]

end DocAtlas
