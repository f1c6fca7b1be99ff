-- SUMMARY: Maps from strings, their entries in the order of the keys.

/-! # Maps from strings

The entries stand in strictly increasing order of their keys, which is part of
the type: equal maps have equal entries, and a key occurs at most once. -/

namespace DocAtlas

structure StringMap (α : Type) where
  entries : List (String × α)
  sorted : entries.Pairwise (·.1 < ·.1)
  deriving DecidableEq

namespace StringMap

variable {α : Type}

def empty : StringMap α := ⟨[], .nil⟩

instance : Inhabited (StringMap α) := ⟨empty⟩

instance : EmptyCollection (StringMap α) := ⟨empty⟩

def keys (m : StringMap α) : List String := m.entries.map (·.1)

def get? (m : StringMap α) (key : String) : Option α :=
  (m.entries.find? (·.1 = key)).map (·.2)

/-! ## Changing an entry -/

/-- Changes the value under `key` by `f`, which gets nothing where the key is new. -/
def alterEntries (key : String) (f : Option α → α) : List (String × α) → List (String × α)
  | [] => [(key, f none)]
  | (k, v) :: rest =>
    if key < k then (key, f none) :: (k, v) :: rest
    else if key = k then (k, f (some v)) :: rest
    else (k, v) :: alterEntries key f rest

theorem mem_alterEntries {key : String} {f : Option α → α} {entries : List (String × α)}
    {e : String × α} (h : e ∈ alterEntries key f entries) :
    e.1 = key ∨ ∃ e' ∈ entries, e'.1 = e.1 := by
  induction entries with
  | nil => simp only [alterEntries, List.mem_singleton] at h; exact .inl (by rw [h])
  | cons hd rest ih =>
    obtain ⟨k, v⟩ := hd
    simp only [alterEntries] at h
    split at h
    · rcases List.mem_cons.1 h with rfl | h
      · exact .inl rfl
      · exact .inr ⟨e, h, rfl⟩
    · split at h
      · rcases List.mem_cons.1 h with rfl | h
        · exact .inr ⟨(k, v), List.mem_cons_self, rfl⟩
        · exact .inr ⟨e, List.mem_cons_of_mem _ h, rfl⟩
      · rcases List.mem_cons.1 h with rfl | h
        · exact .inr ⟨(k, v), List.mem_cons_self, rfl⟩
        · rcases ih h with h | ⟨e', he', h⟩
          · exact .inl h
          · exact .inr ⟨e', List.mem_cons_of_mem _ he', h⟩

theorem alterEntries_sorted (key : String) (f : Option α → α) {entries : List (String × α)}
    (h : entries.Pairwise (·.1 < ·.1)) : (alterEntries key f entries).Pairwise (·.1 < ·.1) := by
  induction entries with
  | nil => simp [alterEntries]
  | cons hd rest ih =>
    obtain ⟨k, v⟩ := hd
    obtain ⟨hk, hrest⟩ := List.pairwise_cons.1 h
    simp only [alterEntries]
    split
    next lt =>
      refine List.pairwise_cons.2 ⟨fun e he => ?_, h⟩
      rcases List.mem_cons.1 he with rfl | he
      · exact lt
      · exact String.lt_trans lt (hk e he)
    next nlt =>
      split
      next eq => exact List.pairwise_cons.2 ⟨fun e he => hk e he, hrest⟩
      next ne =>
        have gt : k < key := by
          rcases Std.lt_trichotomy key k with h | h | h
          · exact absurd h nlt
          · exact absurd h ne
          · exact h
        refine List.pairwise_cons.2 ⟨fun e he => ?_, ih hrest⟩
        rcases mem_alterEntries he with h | ⟨e', he', h⟩
        · exact h ▸ gt
        · exact h ▸ hk e' he'

/-- Changes the value under `key` by `f`, which gets nothing where the key is new. -/
def alter (m : StringMap α) (key : String) (f : Option α → α) : StringMap α :=
  ⟨alterEntries key f m.entries, alterEntries_sorted key f m.sorted⟩

def insert (m : StringMap α) (key : String) (value : α) : StringMap α :=
  m.alter key fun _ => value

def ofList (entries : List (String × α)) : StringMap α :=
  entries.foldl (fun m (k, v) => m.insert k v) empty

end StringMap

/-- A set of strings in their order. -/
abbrev StringSet := StringMap Unit

def StringSet.ofList (items : List String) : StringSet :=
  StringMap.ofList (items.map fun s => (s, ()))

end DocAtlas
