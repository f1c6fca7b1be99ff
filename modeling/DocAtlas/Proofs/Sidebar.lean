-- SUMMARY: The document that a sidebar opens with is the first document that it refers to, and all references stand in pre-order.
import DocAtlas.Proofs.Encoding
import DocAtlas.Proofs.StringMap
import DocAtlas.Sidebar.Basic

/-! # First documents and the order of references

`firstDoc?` stops at the first document of a sidebar, `references` walks through
all of it. Both go through the entries in the same order, a category's own
document before its items, so the first is the head of the documents among the
second. That order is said without a walk as well: every place of a sidebar has a
position, and the references are the targets of all places that have one, in the
order of the positions. -/

namespace DocAtlas

open Text

/-- The document that a target names. -/
def SidebarTarget.doc? : SidebarTarget → Option String
  | .doc id => some id
  | .href _ => none

namespace SidebarEntry

mutual

/-- An entry opens with the first document among its targets. -/
theorem firstDoc?_eq_findSome? (e : SidebarEntry) :
    e.firstDoc? = e.targets.findSome? SidebarTarget.doc? := by
  cases e with
  | bare id => rfl
  | doc id label => rfl
  | link label href => rfl
  | category label page items =>
    cases page with
    | some id => rfl
    | none => exact firstDocOf?_eq_findSome? items

theorem firstDocOf?_eq_findSome? (entries : List SidebarEntry) :
    firstDocOf? entries = (targetsOf entries).findSome? SidebarTarget.doc? := by
  cases entries with
  | nil => rfl
  | cons e rest =>
    simp only [firstDocOf?, targetsOf, List.findSome?_append]
    rw [firstDoc?_eq_findSome? e, firstDocOf?_eq_findSome? rest]
    cases e.targets.findSome? SidebarTarget.doc? <;> rfl

end

/-! ## Positions in an entry -/

/-- An entry points at a target from a position in it. The entry itself has the empty position;
what is in an item of a category has the index of the item in front. -/
inductive PointsAt : SidebarEntry → (position : List Nat) → SidebarTarget → Prop
  | bare {id} : PointsAt (.bare id) [] (.doc id)
  | doc {id label} : PointsAt (.doc id label) [] (.doc id)
  | page {label id items} : PointsAt (.category label (some id) items) [] (.doc id)
  | link {label href} : PointsAt (.link label href) [] (.href href)
  | item {label page items i e position target} : items[i]? = some e → PointsAt e position target →
      PointsAt (.category label page items) (i :: position) target

mutual

/-- The targets of an entry with their positions. -/
def spots : SidebarEntry → List (List Nat × SidebarTarget)
  | bare id | doc id _ => [([], .doc id)]
  | category _ page items => page.toList.map (fun id => ([], .doc id)) ++ spotsFrom 0 items
  | link _ href => [([], .href href)]

/-- The targets of entries with their positions, where the first entry has the index `i`. -/
def spotsFrom : (i : Nat) → List SidebarEntry → List (List Nat × SidebarTarget)
  | _, [] => []
  | i, e :: rest => e.spots.map (fun (position, t) => (i :: position, t)) ++ spotsFrom (i + 1) rest

end

mutual

/-- Without their positions, the targets are those of the walk. -/
theorem map_snd_spots (e : SidebarEntry) : e.spots.map (·.2) = e.targets := by
  cases e with
  | bare id | doc id label | link label href => rfl
  | category label page items =>
    simp only [spots, targets, List.map_append, map_snd_spotsFrom 0 items, List.map_map]
    rfl

theorem map_snd_spotsFrom (i : Nat) (entries : List SidebarEntry) :
    (spotsFrom i entries).map (·.2) = targetsOf entries := by
  cases entries with
  | nil => rfl
  | cons e rest =>
    have hhead := map_snd_spots e
    have hrest := map_snd_spotsFrom (i + 1) rest
    simp only [spotsFrom, targetsOf, List.map_append, List.map_map, hrest, ← hhead]
    rfl

end

mutual

/-- The spots of an entry are its positions that point at something. -/
theorem mem_spots (e : SidebarEntry) {position : List Nat} {t : SidebarTarget} :
    (position, t) ∈ e.spots ↔ PointsAt e position t := by
  cases e with
  | bare id | doc id label | link label href =>
    simp only [spots, List.mem_singleton, Prod.mk.injEq]
    constructor
    · rintro ⟨rfl, rfl⟩
      constructor
    · rintro ⟨⟩
      exact ⟨rfl, rfl⟩
  | category label page items =>
    simp only [spots, List.mem_append, List.mem_map, Option.mem_toList, mem_spotsFrom 0 items]
    constructor
    · rintro (⟨id, rfl, hpage⟩ | ⟨j, e, rest, hpos, he, hpoints⟩)
      · cases hpage
        exact .page
      · rw [hpos, Nat.zero_add]
        exact .item he hpoints
    · rintro (_ | _ | _ | _ | ⟨he, hpoints⟩)
      · exact .inl ⟨_, rfl, rfl⟩
      · exact .inr ⟨_, _, _, by rw [Nat.zero_add], he, hpoints⟩

theorem mem_spotsFrom (i : Nat) (entries : List SidebarEntry) {position : List Nat}
    {t : SidebarTarget} :
    (position, t) ∈ spotsFrom i entries ↔
      ∃ j e rest, position = (i + j) :: rest ∧ entries[j]? = some e ∧ PointsAt e rest t := by
  cases entries with
  | nil => simp [spotsFrom]
  | cons e entries =>
    simp only [spotsFrom, List.mem_append, List.mem_map, Prod.exists, Prod.mk.injEq,
      mem_spotsFrom (i + 1) entries]
    constructor
    · rintro (⟨rest, t', hmem, rfl, rfl⟩ | ⟨j, e', rest, rfl, he', hpoints⟩)
      · exact ⟨0, e, rest, rfl, rfl, (mem_spots e).1 hmem⟩
      · exact ⟨j + 1, e', rest, by rw [Nat.add_assoc, Nat.add_comm 1 j], he', hpoints⟩
    · rintro ⟨_ | j, e', rest, rfl, he', hpoints⟩
      · cases he'
        exact .inl ⟨rest, t, (mem_spots e).2 hpoints, rfl, rfl⟩
      · exact .inr ⟨j, e', rest, by rw [Nat.add_assoc, Nat.add_comm 1 j], he', hpoints⟩

end

mutual

/-- The spots stand in pre-order: an entry before its items, and those in their order. -/
theorem pairwise_spots (e : SidebarEntry) : e.spots.Pairwise (·.1 < ·.1) := by
  cases e with
  | bare id | doc id label | link label href => exact List.pairwise_singleton _ _
  | category label page items =>
    cases page with
    | none => exact pairwise_spotsFrom 0 items
    | some id =>
      refine List.pairwise_cons.2 ⟨?_, pairwise_spotsFrom 0 items⟩
      rintro ⟨position, t⟩ hmem
      obtain ⟨j, -, rest, rfl, -⟩ := (mem_spotsFrom 0 items).1 hmem
      exact List.Lex.nil

theorem pairwise_spotsFrom (i : Nat) (entries : List SidebarEntry) :
    (spotsFrom i entries).Pairwise (·.1 < ·.1) := by
  cases entries with
  | nil => exact .nil
  | cons e rest =>
    refine List.pairwise_append.2 ⟨?_, pairwise_spotsFrom (i + 1) rest, ?_⟩
    · exact List.pairwise_map.2 ((pairwise_spots e).imp fun hlt => List.Lex.cons hlt)
    · rintro _ hfirst ⟨position, t⟩ hlater
      obtain ⟨spot, -, rfl⟩ := List.mem_map.1 hfirst
      obtain ⟨j, -, inner, rfl, -⟩ := (mem_spotsFrom (i + 1) rest).1 hlater
      exact List.Lex.rel (by omega)

end

end SidebarEntry

namespace Sidebars

/-! ## Documents of a sidebar -/

theorem mem_references {s : Sidebars} {id : String} {t : SidebarTarget} :
    (id, t) ∈ s.references ↔ ∃ entries, s.get? id = some entries ∧ t ∈ SidebarEntry.targetsOf entries := by
  simp only [references, List.mem_flatMap, List.mem_map, Prod.mk.injEq, Prod.exists]
  constructor
  · rintro ⟨key, entries, hmem, target, htarget, rfl, rfl⟩
    exact ⟨entries, s.all.get?_eq_some_iff.2 hmem, htarget⟩
  · rintro ⟨entries, hget, htarget⟩
    exact ⟨id, entries, s.all.get?_eq_some_iff.1 hget, t, htarget, rfl, rfl⟩

/-- A sidebar opens with a document exactly when it refers to one. -/
theorem firstDoc?_isSome_iff {s : Sidebars} {id : String} :
    (s.firstDoc? id).isSome ↔ ∃ doc, (id, .doc doc) ∈ s.references := by
  simp only [firstDoc?, mem_references]
  cases hget : s.get? id with
  | none => simp
  | some entries =>
    simp only [Option.bind_some, SidebarEntry.firstDocOf?_eq_findSome?, List.findSome?_isSome_iff,
      Option.some.injEq, exists_eq_left']
    constructor
    · rintro ⟨t, ht, hdoc⟩
      cases t with
      | doc doc => exact ⟨doc, ht⟩
      | href link => simp [SidebarTarget.doc?] at hdoc
    · rintro ⟨doc, hdoc⟩
      exact ⟨.doc doc, hdoc, rfl⟩

/-- A sidebar opens with the first document among its references. -/
theorem firstDoc?_eq_findSome? (s : Sidebars) (id : String) :
    s.firstDoc? id = (s.references.filter (·.1 = id)).findSome? (·.2.doc?) := by
  have hrefs : s.references.filter (·.1 = id)
      = (((s.get? id).map SidebarEntry.targetsOf).getD []).map (id, ·) :=
    StringMap.filter_paired SidebarEntry.targetsOf s.all.sorted id
  rw [hrefs, List.findSome?_map, firstDoc?]
  cases s.get? id with
  | none => rfl
  | some entries => exact SidebarEntry.firstDocOf?_eq_findSome? entries

theorem firstDoc?_eq_none_iff {s : Sidebars} {id : String} :
    s.firstDoc? id = none ↔ s.get? id = none ∨ ∀ doc, (id, .doc doc) ∉ s.references := by
  rw [← Option.not_isSome_iff_eq_none, firstDoc?_isSome_iff, not_exists]
  constructor
  · exact .inr
  · rintro (hnone | hdocs) doc hmem
    · obtain ⟨entries, hget, -⟩ := mem_references.1 hmem
      rw [hnone] at hget
      cases hget
    · exact hdocs doc hmem

/-! ## Places -/

/-- A place of a sidebar and what it points at. -/
structure Spot where
  sidebar : String
  position : List Nat
  target : SidebarTarget

/-- The order of places: sidebars by the bytes of their ids; in a sidebar, an entry before its
items and these in their order. -/
def Spot.Before (a b : Spot) : Prop :=
  Utf8.encode a.sidebar.toList < Utf8.encode b.sidebar.toList ∨
    a.sidebar = b.sidebar ∧ a.position < b.position

/-- The place is in a sidebar and points at its target. -/
inductive Has (s : Sidebars) : Spot → Prop
  | entry {id entries i e position target} : s.get? id = some entries → entries[i]? = some e →
      e.PointsAt position target → Has s ⟨id, i :: position, target⟩

/-- The places of all sidebars that point at something. -/
def spots (s : Sidebars) : List Spot :=
  s.all.entries.flatMap fun (id, entries) =>
    (SidebarEntry.spotsFrom 0 entries).map fun (position, target) => ⟨id, position, target⟩

theorem mem_spots {s : Sidebars} {spot : Spot} : spot ∈ s.spots ↔ s.Has spot := by
  simp only [spots, List.mem_flatMap, List.mem_map, Prod.exists, SidebarEntry.mem_spotsFrom]
  constructor
  · rintro ⟨id, entries, hmem, position, target, ⟨i, e, rest, rfl, he, hpoints⟩, rfl⟩
    rw [Nat.zero_add]
    exact .entry (s.all.get?_eq_some_iff.2 hmem) he hpoints
  · rintro ⟨hget, he, hpoints⟩
    exact ⟨_, _, s.all.get?_eq_some_iff.1 hget, _, _, ⟨_, _, _, rfl, he, hpoints⟩,
      by rw [Nat.zero_add]⟩

theorem pairwise_spots (s : Sidebars) : s.spots.Pairwise Spot.Before := by
  refine List.pairwise_flatMap.2 ⟨?_, s.all.sorted.imp ?_⟩
  · rintro ⟨id, entries⟩ -
    refine List.pairwise_map.2 ((SidebarEntry.pairwise_spotsFrom 0 entries).imp fun hlt => ?_)
    exact .inr ⟨rfl, hlt⟩
  · intro e e' hlt spot hspot spot' hspot'
    obtain ⟨_, -, rfl⟩ := List.mem_map.1 hspot
    obtain ⟨_, -, rfl⟩ := List.mem_map.1 hspot'
    exact .inl (Utf8.lt_iff_encode_lt.1 hlt)

theorem references_eq_map_spots (s : Sidebars) :
    s.references = s.spots.map fun spot => (spot.sidebar, spot.target) := by
  rw [references, spots, List.map_flatMap]
  apply List.flatMap_congr
  rintro ⟨id, entries⟩ -
  dsimp only
  rw [← SidebarEntry.map_snd_spotsFrom 0 entries, List.map_map, List.map_map]
  rfl

/-- A sidebar opens with the first document that is listed for it, and with none only where there
is no such sidebar or none is listed. The references are the targets of all the places of the
sidebars, each place once, in the order of the places. -/
theorem firstDoc?_first_reference (s : Sidebars) :
    (∀ id, s.firstDoc? id = (s.references.filter (·.1 = id)).findSome? (·.2.doc?) ∧
      (s.firstDoc? id = none ↔ s.get? id = none ∨ ∀ doc, (id, .doc doc) ∉ s.references)) ∧
    ∃ spots : List Spot, spots.Pairwise Spot.Before ∧ (∀ spot, spot ∈ spots ↔ s.Has spot) ∧
      s.references = spots.map fun spot => (spot.sidebar, spot.target) :=
  ⟨fun id => ⟨s.firstDoc?_eq_findSome? id, firstDoc?_eq_none_iff⟩,
    s.spots, s.pairwise_spots, fun _ => mem_spots, s.references_eq_map_spots⟩

end Sidebars

end DocAtlas
