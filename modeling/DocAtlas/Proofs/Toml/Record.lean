-- SUMMARY: Records read off tables: keys that are no fields are collected and change nothing else, and every field is read.
import DocAtlas.Proofs.List
import DocAtlas.Toml.Decode

/-! # Records read off tables

A lenient record is that of the known entries of a table, with the other keys
on record (`fromTable_eq`). A strict record is a lenient one without such keys
(`strictTable_eq_ok_iff`). In both, and in a record that is read off an array,
no value of a field is passed over. -/

namespace DocAtlas.Toml.Decoder

variable {σ : Type} {fields : List (Slot σ)}

/-! ## Known and unknown keys -/

/-- The entries whose keys are among the names. -/
def knownEntries (names : List String) (entries : List (String × Value)) : List (String × Value) :=
  entries.filter (·.1 ∈ names)

/-- The keys that are not among the names, in their order. -/
def unknownKeys (names : List String) (entries : List (String × Value)) : List String :=
  (entries.map (·.1)).filter (· ∉ names)

theorem knownEntries_cons (names : List String) (k : String) (v : Value)
    (rest : List (String × Value)) :
    knownEntries names ((k, v) :: rest)
      = if k ∈ names then (k, v) :: knownEntries names rest else knownEntries names rest := by
  simp [knownEntries, List.filter_cons]

theorem unknownKeys_cons (names : List String) (k : String) (v : Value)
    (rest : List (String × Value)) :
    unknownKeys names ((k, v) :: rest)
      = if k ∈ names then unknownKeys names rest else k :: unknownKeys names rest := by
  by_cases h : k ∈ names <;> simp [unknownKeys, h]

theorem mem_unknownKeys {names : List String} {entries : List (String × Value)} {k : String} :
    k ∈ unknownKeys names entries ↔ (∃ v, (k, v) ∈ entries) ∧ k ∉ names := by
  simp [unknownKeys]

theorem fromTable_cons_field {k : String} {f : Slot σ} (h : fields.find? (·.name = k) = some f)
    (v : Value) (rest : List (String × Value)) (s : σ) :
    fromTable fields ((k, v) :: rest) s
      = ((f.put v s).mapError (·.within (.key k))).bind (fromTable fields rest) := by
  rw [fromTable]
  simp only [h]
  rfl

theorem fromTable_cons_unknown {k : String} (h : fields.find? (·.name = k) = none)
    (v : Value) (rest : List (String × Value)) (s : σ) :
    fromTable fields ((k, v) :: rest) s
      = (fromTable fields rest s).map fun r => (r.1, k :: r.2) := by
  rw [fromTable]
  simp only [h]
  cases fromTable fields rest s <;> rfl

/-- Keys that are no fields are collected and change nothing else. -/
theorem fromTable_eq (entries : List (String × Value)) (s : σ) :
    fromTable fields entries s
      = (fromTable fields (knownEntries (fields.map (·.name)) entries) s).map
          fun r => (r.1, unknownKeys (fields.map (·.name)) entries) := by
  induction entries generalizing s with
  | nil => rfl
  | cons e rest ih =>
    obtain ⟨k, v⟩ := e
    rw [knownEntries_cons, unknownKeys_cons]
    by_cases hk : k ∈ fields.map (·.name)
    · obtain ⟨f, -, -, hfind⟩ := exists_find?_key hk
      rw [if_pos hk, if_pos hk, fromTable_cons_field hfind, fromTable_cons_field hfind]
      cases (f.put v s).mapError (·.within (.key k)) with
      | error m => rfl
      | ok s' => exact ih s'
    · rw [if_neg hk, if_neg hk, fromTable_cons_unknown (find?_key_eq_none_iff.2 hk), ih]
      cases fromTable fields (knownEntries (fields.map (·.name)) rest) s <;> rfl

/-- A strict record is a lenient one without unknown keys. -/
theorem strictTable_eq_ok_iff {entries : List (String × Value)} {s t : σ} :
    strictTable fields entries s = .ok t ↔ fromTable fields entries s = .ok (t, []) := by
  induction entries generalizing s with
  | nil => simp [strictTable, fromTable]
  | cons e rest ih =>
    obtain ⟨k, v⟩ := e
    cases hfind : fields.find? (·.name = k) with
    | some f =>
      rw [fromTable_cons_field hfind, strictTable]
      simp only [hfind]
      cases (f.put v s).mapError (·.within (.key k)) with
      | error m => simp [bind, Except.bind]
      | ok s' => exact ih
    | none =>
      rw [fromTable_cons_unknown hfind, strictTable]
      simp only [hfind]
      cases fromTable fields rest s <;> simp [Except.map]

/-! ## Every field is read -/

theorem Slot.exists_of_put {α : Type} {name : String} {get : Decoder α} {set : α → σ → σ}
    {v : Value} {s s' : σ} (h : (Slot.of name get set).put v s = .ok s') : ∃ a, get v = .ok a := by
  simp only [Slot.of] at h
  cases hget : get v with
  | error m => rw [hget] at h; cases h
  | ok a => exact ⟨a, rfl⟩

/-- Where a table makes a record, the value of each known key is one that its field takes. -/
theorem exists_put_of_fromTable {entries : List (String × Value)} {s : σ} {r : σ × List String}
    (h : fromTable fields entries s = .ok r) {k : String} {v : Value} (hmem : (k, v) ∈ entries)
    {f : Slot σ} (hfind : fields.find? (·.name = k) = some f) :
    ∃ s₁ s₂, f.put v s₁ = .ok s₂ := by
  induction entries generalizing s r with
  | nil => cases hmem
  | cons e rest ih =>
    obtain ⟨k', v'⟩ := e
    cases hfind' : fields.find? (·.name = k') with
    | some f' =>
      rw [fromTable_cons_field hfind'] at h
      cases hput : f'.put v' s with
      | error m => rw [hput] at h; cases h
      | ok s' =>
        rcases List.mem_cons.1 hmem with heq | hmem
        · obtain ⟨rfl, rfl⟩ := Prod.mk.inj heq
          rw [hfind'] at hfind
          cases hfind
          exact ⟨s, s', hput⟩
        · rw [hput] at h
          exact ih h hmem
    | none =>
      rw [fromTable_cons_unknown hfind'] at h
      cases hrest : fromTable fields rest s with
      | error m => rw [hrest] at h; cases h
      | ok r' =>
        rcases List.mem_cons.1 hmem with heq | hmem
        · obtain ⟨rfl, rfl⟩ := Prod.mk.inj heq
          rw [hfind'] at hfind
          cases hfind
        · exact ih hrest hmem

/-- Where an array makes a record, the value at each position is one that the field there takes. -/
theorem exists_put_of_fromItems {name : String} {count index : Nat} {items : List Value} {s t : σ}
    (h : fromItems name count fields index items s = .ok t) {i : Nat} {f : Slot σ} {v : Value}
    (hf : fields[i]? = some f) (hv : items[i]? = some v) : ∃ s₁ s₂, f.put v s₁ = .ok s₂ := by
  induction fields generalizing i index items s with
  | nil => simp at hf
  | cons f' fields ih =>
    cases items with
    | nil => simp at hv
    | cons v' items =>
      rw [fromItems] at h
      cases hput : f'.put v' s with
      | error m => rw [hput] at h; cases h
      | ok s' =>
        rw [hput] at h
        cases i with
        | zero =>
          obtain rfl := Option.some.inj hf
          obtain rfl := Option.some.inj hv
          exact ⟨s, s', hput⟩
        | succ i => exact ih h hf hv

end DocAtlas.Toml.Decoder
