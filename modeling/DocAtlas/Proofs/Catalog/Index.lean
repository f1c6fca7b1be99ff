-- SUMMARY: The documents of a catalogue: sorted by distinct ids, and found by id, by file and by route.
import DocAtlas.Catalog.Basic
import DocAtlas.Proofs.List
import DocAtlas.Proofs.Text

/-! # Indexed documents

A catalogue is made of documents by sorting them and by refusing neighbours with
the same id, which leaves strictly increasing ids. Where ids and files are
distinct, looking one of them up gives the document that has it. -/

namespace DocAtlas.Catalog

/-! ## From documents -/

theorem byId_trans (a b c : Document) :
    Text.le a.id b.id = true → Text.le b.id c.id = true → Text.le a.id c.id = true :=
  Text.le_trans a.id b.id c.id

theorem byId_total (a b : Document) : (Text.le a.id b.id || Text.le b.id a.id) = true :=
  Text.le_total a.id b.id

theorem pairwise_sorted (docs : List Document) :
    (sorted docs).Pairwise fun a b => Text.le a.id b.id = true :=
  List.pairwise_mergeSort byId_trans byId_total docs

theorem duplicate?_cons_cons {a b : Document} {docs : List Document} :
    duplicate? (a :: b :: docs) = none ↔ a.id ≠ b.id ∧ duplicate? (b :: docs) = none := by
  rw [duplicate?]
  by_cases h : a.id = b.id <;> simp [h]

/-- Among sorted documents, no neighbours with the same id means no two with the same id. -/
theorem pairwise_lt_of_duplicate? {docs : List Document}
    (hsorted : docs.Pairwise fun a b => Text.le a.id b.id = true) (h : duplicate? docs = none) :
    docs.Pairwise (·.id < ·.id) := by
  induction docs with
  | nil => exact .nil
  | cons a docs ih =>
    obtain ⟨ha, hsorted⟩ := List.pairwise_cons.1 hsorted
    cases docs with
    | nil => exact List.pairwise_singleton _ a
    | cons b docs =>
      obtain ⟨hne, h⟩ := duplicate?_cons_cons.1 h
      have hrest := ih hsorted h
      have hab : a.id < b.id :=
        Std.lt_of_le_of_ne (Text.le_iff.1 (ha b List.mem_cons_self)) hne
      refine List.pairwise_cons.2 ⟨fun x hx => ?_, hrest⟩
      rcases List.mem_cons.1 hx with rfl | hx
      · exact hab
      · exact String.lt_trans hab ((List.pairwise_cons.1 hrest).1 x hx)

theorem ofDocuments_eq_ok {docs : List Document} {sidebars : Sidebars} {c : Catalog}
    (h : ofDocuments docs sidebars = .ok c) :
    c.docs.Perm docs ∧ c.docs.Pairwise (·.id < ·.id) ∧ c.otherRoutes = [] := by
  simp only [ofDocuments] at h
  split at h
  next => cases h
  next hnone =>
    cases h
    exact ⟨List.mergeSort_perm _ _, pairwise_lt_of_duplicate? (pairwise_sorted docs) hnone, rfl⟩

theorem sidebars_of_ofDocuments {docs : List Document} {sidebars : Sidebars} {c : Catalog}
    (h : ofDocuments docs sidebars = .ok c) : c.sidebars = sidebars := by
  simp only [ofDocuments] at h
  split at h
  next => cases h
  next => cases h; rfl

theorem duplicate?_eq_none_of_pairwise {docs : List Document}
    (h : docs.Pairwise (·.id < ·.id)) : duplicate? docs = none := by
  induction docs with
  | nil => rfl
  | cons a docs ih =>
    obtain ⟨ha, hrest⟩ := List.pairwise_cons.1 h
    cases docs with
    | nil => rfl
    | cons b docs =>
      exact duplicate?_cons_cons.2 ⟨Std.ne_of_lt (ha b List.mem_cons_self), ih hrest⟩

theorem ofDocuments_of_pairwise {docs : List Document} (h : docs.Pairwise (·.id < ·.id))
    (sidebars : Sidebars) : ofDocuments docs sidebars = .ok { docs, sidebars } := by
  have hsorted : sorted docs = docs :=
    List.mergeSort_of_pairwise (h.imp fun hlt => Text.le_of_lt hlt)
  simp only [ofDocuments, hsorted, duplicate?_eq_none_of_pairwise h]

/-! ## Lookup -/

variable {c : Catalog} {d : Document}

theorem nodup_ids {docs : List Document} (h : docs.Pairwise (·.id < ·.id)) :
    (docs.map (·.id)).Nodup := by
  rw [List.Nodup, List.pairwise_map]
  exact h.imp Std.ne_of_lt

theorem doc?_eq_some_iff (h : c.docs.Pairwise (·.id < ·.id)) {id : String} :
    c.doc? id = some d ↔ d ∈ c.docs ∧ d.id = id :=
  find?_key_eq_some_iff (nodup_ids h)

theorem docAt?_eq_some_iff (h : (c.docs.map fun d => Path.components d.path).Nodup)
    {path : String} :
    c.docAt? path = some d ↔ d ∈ c.docs ∧ Path.components d.path = Path.components path := by
  have hrev : (c.docs.reverse.map fun d => Path.components d.path).Nodup := by
    rw [List.map_reverse]
    exact List.nodup_reverse.2 h
  rw [docAt?, find?_key_eq_some_iff hrev, List.mem_reverse]

theorem hasRoute_iff {route : String} :
    c.hasRoute route = true ↔
      (∃ d ∈ c.docs, d.route = Route.clean route) ∨ Route.clean route ∈ c.otherRoutes := by
  simp [hasRoute, routes]

end DocAtlas.Catalog
