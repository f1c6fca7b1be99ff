-- SUMMARY: Values that leave out keys which may be left out, and records that are read back from what they show.
import DocAtlas.Proofs.Toml.Record
import Mathlib.Data.List.Forall2

/-! # Pruned values

A pruned value lacks some of the keys that may be left out, at any depth, and
its tables may have their keys in another order. A record shows a value for
each of its fields, or nothing where a field is unset. A pruned table of what a
record shows is read back as that record, from any start that shows what is
missing (`Pruned.restores`). -/

namespace DocAtlas.Toml

/-! ## Leaving out keys -/

mutual

/-- `rest` is `full`, which `path` leads to, less some keys that may be left out. -/
inductive Pruned (spare : List Step → Value → Prop) :
    (path : List Step) → (full rest : Value) → Prop where
  | scalar (path : List Step) (s : Scalar) : Pruned spare path (.scalar s) (.scalar s)
  | array {path : List Step} {full rest : List Value} (items : PrunedItems spare path 0 full rest) :
      Pruned spare path (.array full) (.array rest)
  /-- The keys that are left may stand in any order. -/
  | table {path : List Step} {full kept rest : List (String × Value)}
      (fields : PrunedFields spare path full kept) (order : kept.Perm rest) :
      Pruned spare path (.table full) (.table rest)

/-- No item of an array is left out; `index` is that of the first. -/
inductive PrunedItems (spare : List Step → Value → Prop) :
    (path : List Step) → (index : Nat) → (full rest : List Value) → Prop where
  | nil (path : List Step) (index : Nat) : PrunedItems spare path index [] []
  | cons {path : List Step} {index : Nat} {v w : Value} {full rest : List Value}
      (head : Pruned spare (path ++ [.item index]) v w)
      (tail : PrunedItems spare path (index + 1) full rest) :
      PrunedItems spare path index (v :: full) (w :: rest)

inductive PrunedFields (spare : List Step → Value → Prop) :
    (path : List Step) → (full rest : List (String × Value)) → Prop where
  | nil (path : List Step) : PrunedFields spare path [] []
  | keep {path : List Step} {k : String} {v w : Value} {full rest : List (String × Value)}
      (head : Pruned spare (path ++ [.key k]) v w) (tail : PrunedFields spare path full rest) :
      PrunedFields spare path ((k, v) :: full) ((k, w) :: rest)
  | drop {path : List Step} {k : String} {v : Value} {full rest : List (String × Value)}
      (head : spare (path ++ [.key k]) v) (tail : PrunedFields spare path full rest) :
      PrunedFields spare path ((k, v) :: full) rest

end

variable {spare : List Step → Value → Prop} {path : List Step}

theorem PrunedFields.keys_sublist {full rest : List (String × Value)}
    (h : PrunedFields spare path full rest) : (rest.map (·.1)).Sublist (full.map (·.1)) := by
  induction full generalizing rest with
  | nil => cases h; exact .slnil
  | cons e full ih =>
    cases h with
    | keep _ tail => exact (ih tail).cons_cons _
    | drop _ tail => exact (ih tail).cons _

theorem PrunedFields.exists_of_mem {full rest : List (String × Value)}
    (h : PrunedFields spare path full rest) {k : String} {w : Value} (hmem : (k, w) ∈ rest) :
    ∃ v, (k, v) ∈ full ∧ Pruned spare (path ++ [.key k]) v w := by
  induction full generalizing rest with
  | nil => cases h; cases hmem
  | cons e full ih =>
    cases h with
    | keep head tail =>
      rcases List.mem_cons.1 hmem with heq | hmem
      · obtain ⟨rfl, rfl⟩ := Prod.mk.inj heq
        exact ⟨_, List.mem_cons_self, head⟩
      · obtain ⟨v, hv, hpruned⟩ := ih tail hmem
        exact ⟨v, List.mem_cons_of_mem _ hv, hpruned⟩
    | drop _ tail =>
      obtain ⟨v, hv, hpruned⟩ := ih tail hmem
      exact ⟨v, List.mem_cons_of_mem _ hv, hpruned⟩

theorem PrunedFields.spare_of_not_mem {full rest : List (String × Value)}
    (h : PrunedFields spare path full rest) {k : String} {v : Value} (hmem : (k, v) ∈ full)
    (hk : k ∉ rest.map (·.1)) : spare (path ++ [.key k]) v := by
  induction full generalizing rest with
  | nil => cases hmem
  | cons e full ih =>
    cases h with
    | keep _ tail =>
      rw [List.map_cons, List.mem_cons, not_or] at hk
      rcases List.mem_cons.1 hmem with heq | hmem
      · exact absurd (congrArg Prod.fst heq) hk.1
      · exact ih tail hmem hk.2
    | drop head tail =>
      rcases List.mem_cons.1 hmem with heq | hmem
      · obtain ⟨rfl, rfl⟩ := Prod.mk.inj heq
        exact head
      · exact ih tail hmem hk

/-- Strings, alone or in an array, are never left out. -/
theorem Pruned.string_eq {s : String} {w : Value} (h : Pruned spare path (.string s) w) :
    w = .string s := by
  cases h
  rfl

theorem Pruned.boolean_eq {b : Bool} {w : Value} (h : Pruned spare path (.boolean b) w) :
    w = .boolean b := by
  cases h
  rfl

theorem PrunedItems.strings_eq {index : Nat} {items : List String} {rest : List Value}
    (h : PrunedItems spare path index (items.map Value.string) rest) :
    rest = items.map Value.string := by
  induction items generalizing index rest with
  | nil => cases h; rfl
  | cons s items ih =>
    cases h with
    | cons head tail => rw [head.string_eq, ih tail, List.map_cons]

theorem Pruned.strings_eq {items : List String} {w : Value}
    (h : Pruned spare path (.strings items) w) : w = .strings items := by
  cases h with
  | array hitems => rw [hitems.strings_eq]; rfl

/-- A key that may not be left out is there. -/
theorem Pruned.mem_keys {full rest : List (String × Value)}
    (h : Pruned spare path (.table full) (.table rest)) {k : String} {v : Value}
    (hmem : (k, v) ∈ full) (hk : ¬ spare (path ++ [.key k]) v) : k ∈ rest.map (·.1) := by
  cases h with
  | table hfields horder =>
    by_contra hleft
    refine hk (hfields.spare_of_not_mem hmem ?_)
    rwa [(horder.map _).mem_iff]

/-- A first key that may not be left out is found, and the others are pruned without it. -/
theorem Pruned.uncons {k : String} {v : Value} {full rest : List (String × Value)}
    (h : Pruned spare path (.table ((k, v) :: full)) (.table rest))
    (hk : ¬ spare (path ++ [.key k]) v) (hnew : k ∉ full.map (·.1)) :
    ∃ w, Pruned spare (path ++ [.key k]) v w ∧ rest.find? (·.1 = k) = some (k, w) ∧
      Pruned spare path (.table full) (.table (rest.filter (·.1 ≠ k))) := by
  cases h with
  | table hfields horder =>
    cases hfields with
    | drop head _ => exact absurd head hk
    | @keep _ _ _ w _ kept head tail =>
      have hkept : ∀ e ∈ kept, e.1 ≠ k := fun e he heq =>
        hnew (tail.keys_sublist.subset (heq ▸ List.mem_map_of_mem he))
      refine ⟨w, head, ?_, .table tail ?_⟩
      · have hsome : (rest.find? (·.1 = k)).isSome := by
          rw [List.find?_isSome]
          exact ⟨(k, w), horder.mem_iff.1 List.mem_cons_self, by simp⟩
        obtain ⟨e, he⟩ := Option.isSome_iff_exists.1 hsome
        have hkey : e.1 = k := by simpa using List.find?_some he
        rcases List.mem_cons.1 (horder.mem_iff.2 (List.mem_of_find?_eq_some he)) with rfl | hmem
        · exact he
        · exact absurd hkey (hkept e hmem)
      · have hfilter := horder.filter (·.1 ≠ k)
        rw [List.filter_cons_of_neg (by simp)] at hfilter
        rwa [List.filter_eq_self.2 fun e he => by simpa using hkept e he] at hfilter

/-! ## What a record shows -/

/-- The value under each key of a record, nothing where it is unset. -/
abbrev Shown := List (String × Option Value)

namespace Shown

/-- The entries of the table that shows it. -/
def entries (shown : Shown) : List (String × Value) :=
  shown.filterMap fun e => e.2.map (e.1, ·)

def keys (shown : Shown) : List String := shown.map (·.1)

/-- The same with another value under a key. -/
def set (shown : Shown) (key : String) (v : Value) : Shown :=
  shown.map fun e => if e.1 = key then (key, some v) else e

theorem mem_entries {shown : Shown} {k : String} {v : Value} :
    (k, v) ∈ shown.entries ↔ (k, some v) ∈ shown := by
  simp [entries]

theorem keys_entries_sublist (shown : Shown) :
    (shown.entries.map (·.1)).Sublist shown.keys := by
  induction shown with
  | nil => exact .slnil
  | cons e shown ih =>
    obtain ⟨k, v⟩ := e
    cases v with
    | none => exact ih.cons _
    | some v => exact ih.cons_cons _

theorem mem_set_of_ne {shown : Shown} {key : String} {v : Value} {e : String × Option Value}
    (he : e ∈ shown) (hne : e.1 ≠ key) : e ∈ shown.set key v :=
  List.mem_map.2 ⟨e, he, if_neg hne⟩

theorem mem_set_self {shown : Shown} {key : String} {v : Value} (h : key ∈ shown.keys) :
    (key, some v) ∈ shown.set key v := by
  obtain ⟨e, he, hkey⟩ := List.mem_map.1 h
  exact List.mem_map.2 ⟨e, he, if_pos hkey⟩

theorem eq_of_mem {shown : Shown} (hkeys : shown.keys.Nodup) {k : String} {v w : Option Value}
    (hv : (k, v) ∈ shown) (hw : (k, w) ∈ shown) : v = w :=
  congrArg Prod.snd (List.inj_on_of_nodup_map hkeys hv hw rfl)

/-- With the same distinct keys in the same order, one shows no more than the other only if both
show the same. -/
theorem eq_of_subset {a b : Shown} (hkeys : a.keys = b.keys) (hnodup : b.keys.Nodup) (h : a ⊆ b) :
    a = b := by
  refine List.ext_getElem (by simpa [keys] using congrArg List.length hkeys) fun i hi hi' => ?_
  have hkey : a[i].1 = b[i].1 := by
    have := List.getElem_of_eq hkeys (by simpa [keys] using hi)
    simpa [keys] using this
  have hmem : (b[i].1, a[i].2) ∈ b := hkey ▸ h (List.getElem_mem hi)
  exact Prod.ext hkey (eq_of_mem hnodup hmem (List.getElem_mem hi'))

theorem entries_injective {a b : Shown} (hkeys : a.keys = b.keys) (hnodup : b.keys.Nodup)
    (h : a.entries = b.entries) : a = b := by
  refine eq_of_subset hkeys hnodup fun e he => ?_
  obtain ⟨k, v⟩ := e
  have hk : k ∈ b.keys := hkeys ▸ List.mem_map.2 ⟨_, he, rfl⟩
  obtain ⟨⟨k', w⟩, hw, rfl⟩ := List.mem_map.1 hk
  cases v with
  | some v => exact mem_entries.1 (h ▸ mem_entries.2 he)
  | none =>
    cases w with
    | none => exact hw
    | some w =>
      have hw' : (k', some w) ∈ a := mem_entries.1 (h ▸ mem_entries.2 hw)
      cases eq_of_mem (hkeys ▸ hnodup) he hw'

end Shown

/-! ## Reading records back -/

section Reading

variable {σ : Type}

/-- `run` goes through entries one by one: an entry that is pruned from what the record `t` shows
makes the record at hand show the same under its key. -/
structure ReadsBack (spare : List Step → Value → Prop) (path : List Step) (shown : σ → Shown)
    (run : List (String × Value) → σ → Except Mismatch (σ × List String)) (t : σ) : Prop where
  eq_of_shown : ∀ s, shown s = shown t → s = t
  keys : ∀ s, (shown s).keys = (shown t).keys
  nodup : (shown t).keys.Nodup
  nil : ∀ s, run [] s = .ok (s, [])
  cons : ∀ {k v w}, (k, some v) ∈ shown t → Pruned spare (path ++ [.key k]) v w →
    ∀ s rest, ∃ s', run ((k, w) :: rest) s = run rest s' ∧ shown s' = (shown s).set k v

variable {shown : σ → Shown} {run : List (String × Value) → σ → Except Mismatch (σ × List String)}
  {t start : σ}

theorem ReadsBack.eq_of_entries (hread : ReadsBack spare path shown run t) {s : σ}
    (h : (shown s).entries = (shown t).entries) : s = t :=
  hread.eq_of_shown s (Shown.entries_injective (hread.keys s) hread.nodup h)

/-- Entries in any order that agree with a record lead to it from a start that shows the rest. -/
theorem ReadsBack.run_eq (hread : ReadsBack spare path shown run t)
    {entries : List (String × Value)} (hdistinct : (entries.map (·.1)).Nodup)
    (hkept : ∀ k w, (k, w) ∈ entries →
      ∃ v, (k, some v) ∈ shown t ∧ Pruned spare (path ++ [.key k]) v w)
    (hrest : ∀ e ∈ shown t, e.1 ∉ entries.map (·.1) → e ∈ shown start) :
    run entries start = .ok (t, []) := by
  induction entries generalizing start with
  | nil =>
    have hsubset : shown t ⊆ shown start := fun e he => hrest e he List.not_mem_nil
    have hnodup : (shown start).keys.Nodup := hread.keys start ▸ hread.nodup
    have hsame := Shown.eq_of_subset (hread.keys start).symm hnodup hsubset
    rw [hread.nil, hread.eq_of_shown start hsame.symm]
  | cons e entries ih =>
    obtain ⟨k, w⟩ := e
    obtain ⟨hnew, hdistinct⟩ := List.nodup_cons.1 hdistinct
    obtain ⟨v, hv, hpruned⟩ := hkept k w List.mem_cons_self
    obtain ⟨s', hrun, hshown⟩ := hread.cons hv hpruned start entries
    rw [hrun]
    refine ih hdistinct (fun k' w' h => hkept k' w' (List.mem_cons_of_mem _ h)) ?_
    intro e he hlater
    rw [hshown]
    by_cases hkey : e.1 = k
    · -- the key was just put: what the record shows there is in place
      obtain ⟨k', v'⟩ := e
      obtain rfl : k' = k := hkey
      rw [Shown.eq_of_mem hread.nodup he hv]
      have hmem : k' ∈ (shown t).keys := List.mem_map.2 ⟨_, hv, rfl⟩
      exact Shown.mem_set_self (hread.keys start ▸ hmem)
    · refine Shown.mem_set_of_ne (hrest e he ?_) hkey
      rw [List.map_cons, List.mem_cons, not_or]
      exact ⟨hkey, hlater⟩

/-- A pruned table is read back as the record it was pruned from, where what may be left out is what
the start shows. -/
theorem Pruned.restores (hread : ReadsBack spare path shown run t)
    (hspare : ∀ k v, spare (path ++ [.key k]) v → (k, some v) ∈ shown start)
    (hunset : ∀ k, (k, none) ∈ shown t → (k, none) ∈ shown start)
    {entries : List (String × Value)}
    (h : Pruned spare path (.table (shown t).entries) (.table entries)) :
    run entries start = .ok (t, []) := by
  cases h with
  | table hfields horder =>
    have hkeys : ((shown t).entries.map (·.1)).Nodup :=
      (Shown.keys_entries_sublist _).nodup hread.nodup
    have hdistinct : (entries.map (·.1)).Nodup :=
      (horder.map _).nodup_iff.1 (hfields.keys_sublist.nodup hkeys)
    refine hread.run_eq hdistinct ?_ ?_
    · intro k w hw
      obtain ⟨v, hv, hpruned⟩ := hfields.exists_of_mem (horder.mem_iff.2 hw)
      exact ⟨v, Shown.mem_entries.1 hv, hpruned⟩
    · rintro ⟨k, v⟩ he hleft
      cases v with
      | none => exact hunset k he
      | some v =>
        refine hspare k v (hfields.spare_of_not_mem (Shown.mem_entries.2 he) ?_)
        rwa [(horder.map _).mem_iff]

/-! ## Fields one by one -/

open Decoder

/-- A field takes each pruned form of what some record shows under its key, and the record at hand
then shows the same there. -/
def Decoder.Slot.ReadsBack (spare : List Step → Value → Prop) (path : List Step)
    (shown : σ → Shown) (f : Slot σ) : Prop :=
  ∀ t v w, (f.name, some v) ∈ shown t → Pruned spare (path ++ [.key f.name]) v w →
    ∀ s, ∃ s', f.put w s = .ok s' ∧ shown s' = (shown s).set f.name v

theorem Decoder.fromTable_readsBack {fields : List (Slot σ)}
    (heq : ∀ s, shown s = shown t → s = t)
    (hkeys : ∀ s, (shown s).keys = fields.map (·.name)) (hnodup : (fields.map (·.name)).Nodup)
    (hfields : ∀ f ∈ fields, f.ReadsBack spare path shown) :
    ReadsBack spare path shown (fromTable fields) t where
  eq_of_shown := heq
  keys := fun s => (hkeys s).trans (hkeys t).symm
  nodup := hkeys t ▸ hnodup
  nil := fun _ => rfl
  cons := by
    intro k v w hv hpruned s rest
    have hk : k ∈ fields.map (·.name) := hkeys t ▸ List.mem_map.2 ⟨_, hv, rfl⟩
    obtain ⟨f, hf, rfl, hfind⟩ := exists_find?_key hk
    obtain ⟨s', hput, hshown⟩ := hfields f hf t v w hv hpruned s
    refine ⟨s', ?_, hshown⟩
    rw [fromTable_cons_field hfind, hput]
    rfl

namespace Decoder.Slot

variable {α : Type} {name : String} {get : Decoder α} {set : α → σ → σ}

/-- The field of a value that is shown as `shape` says, where `field` has one. -/
theorem of_readsBack (field : σ → Option α) (shape : α → Value)
    (hget : ∀ a w, Pruned spare (path ++ [.key name]) (shape a) w → get w = .ok a)
    (hshown : ∀ t v, (name, some v) ∈ shown t → some v = (field t).map shape)
    (hset : ∀ a s, shown (set a s) = (shown s).set name (shape a)) :
    (Slot.of name get set).ReadsBack spare path shown := by
  intro t v w hv hpruned s
  obtain ⟨a, -, rfl⟩ := Option.map_eq_some_iff.1 (hshown t v hv).symm
  refine ⟨set a s, ?_, hset a s⟩
  change (get w).map (set · s) = .ok (set a s)
  rw [hget a w hpruned]
  rfl

theorem text_readsBack {set : String → σ → σ} (field : σ → Option String)
    (hshown : ∀ t v, (name, some v) ∈ shown t → some v = (field t).map Value.string)
    (hset : ∀ a s, shown (set a s) = (shown s).set name (.string a)) :
    (Slot.of name text set).ReadsBack spare path shown :=
  of_readsBack field Value.string (fun _ _ h => h.string_eq ▸ rfl) hshown hset

theorem filePath_readsBack {set : String → σ → σ} (field : σ → Option String)
    (hshown : ∀ t v, (name, some v) ∈ shown t → some v = (field t).map Value.string)
    (hset : ∀ a s, shown (set a s) = (shown s).set name (.string a)) :
    (Slot.of name filePath set).ReadsBack spare path shown :=
  of_readsBack field Value.string (fun _ _ h => h.string_eq ▸ rfl) hshown hset

theorem need_readsBack (h : (Slot.of name get set).ReadsBack spare path shown) :
    (Slot.need name get set).ReadsBack spare path shown :=
  h

end Decoder.Slot

end Reading

end DocAtlas.Toml
