-- SUMMARY: Documents by their positions: the loop that numbers them, what it refuses, and what it finds again.
import DocAtlas.Proofs.Catalog.Index

/-! # Positions of documents

A catalogue can be made in one pass over the sorted documents, which enters the
position of each under its id and under its file and stops at an id that has a
position already. `ofDocuments_eq_map` says that this pass and the comparison of
neighbours refuse the same documents with the same words, and the two lookups go
through the positions. The order in which documents are given makes no difference
unless some of them have the same id. -/

namespace DocAtlas.Catalog

/-! ## Positions -/

variable {κ : Type}

/-- The positions of documents under their keys. The last document with a key is the first to be
found. -/
def positions (key : Document → κ) (docs : List Document) : List (κ × Nat) :=
  (docs.zipIdx.map fun entry => (key entry.1, entry.2)).reverse

variable {key : Document → κ}

theorem positions_concat (docs : List Document) (d : Document) :
    positions key (docs ++ [d]) = (key d, docs.length) :: positions key docs := by
  simp [positions, List.zipIdx_append]

theorem mem_positions {docs : List Document} {e : κ × Nat} (h : e ∈ positions key docs) :
    e.1 ∈ docs.map key ∧ e.2 < docs.length := by
  simp only [positions, List.mem_reverse, List.mem_map] at h
  obtain ⟨entry, hentry, rfl⟩ := h
  exact ⟨List.mem_map_of_mem (List.fst_mem_of_mem_zipIdx hentry),
    by simpa using (List.mem_zipIdx hentry).2.1⟩

theorem lookup_positions_eq_none [BEq κ] [LawfulBEq κ] {docs : List Document} {k : κ}
    (h : k ∉ docs.map key) : (positions key docs).lookup k = none := by
  rw [List.lookup_eq_none_iff]
  intro e he
  have hne : k ≠ e.1 := fun hk => h (hk ▸ (mem_positions he).1)
  simpa using hne

theorem lt_length_of_lookup [BEq κ] [LawfulBEq κ] {docs : List Document} {k : κ} {i : Nat}
    (h : (positions key docs).lookup k = some i) : i < docs.length := by
  obtain ⟨before, after, heq, -⟩ := List.lookup_eq_some_iff.1 h
  have hmem : (k, i) ∈ positions key docs := by simp [heq]
  exact (mem_positions hmem).2

/-- The position under a key is that of the last document with the key. -/
theorem lookup_positions [BEq κ] [LawfulBEq κ] [DecidableEq κ] (docs : List Document) (k : κ) :
    ((positions key docs).lookup k).bind (docs[·]?) = docs.reverse.find? (key · = k) := by
  induction docs using List.reverseRecOn with
  | nil => rfl
  | append_singleton docs d ih =>
    rw [positions_concat, List.lookup_cons, List.reverse_append]
    by_cases hk : key d = k
    · simp [hk]
    · have hne : (k == key d) = false := by simpa using Ne.symm hk
      simp only [hne, List.reverse_singleton, List.singleton_append]
      rw [List.find?_cons_of_neg (by simpa using hk), ← ih]
      refine Option.bind_congr fun i hi => ?_
      exact List.getElem?_append_left (lt_length_of_lookup hi)

/-! ## Numbering -/

/-- What is entered in one pass over the documents. -/
structure Index where
  ids : List (String × Nat) := []
  files : List (List Path.Component × Nat) := []
  deriving DecidableEq

namespace Index

/-- Enters a document with its position, unless its id has a position already. -/
def enter (docs : List Document) (index : Index) (entry : Document × Nat) : Except Duplicate Index :=
  match index.ids.lookup entry.1.id with
  | some i => .error ⟨entry.1.id, (docs[i]?.map (·.source)).getD "", entry.1.source⟩
  | none => .ok {
      ids := (entry.1.id, entry.2) :: index.ids
      files := (Path.components entry.1.path, entry.2) :: index.files }

/-- One pass over documents that are sorted by their ids. -/
def ofSorted (docs : List Document) : Except Duplicate Index := docs.zipIdx.foldlM (enter docs) {}

/-- The index that holds the positions of all the documents. -/
def full (docs : List Document) : Index where
  ids := positions (·.id) docs
  files := positions (Path.components ·.path) docs

theorem enter_full {docs front : List Document} {d : Document} (h : d.id ∉ front.map (·.id)) :
    enter docs (full front) (d, front.length) = .ok (full (front ++ [d])) := by
  have hnone : (positions (·.id) front).lookup d.id = none := lookup_positions_eq_none h
  simp only [enter, full, hnone, positions_concat]

/-- As long as the ids differ, each document is entered. -/
theorem foldlM_enter {docs front rest : List Document} (h : ((front ++ rest).map (·.id)).Nodup) :
    (rest.zipIdx front.length).foldlM (enter docs) (full front) = .ok (full (front ++ rest)) := by
  induction rest generalizing front with
  | nil => simp [pure, Except.pure]
  | cons d rest ih =>
    have hd : d.id ∉ front.map (·.id) := by
      intro hmem
      simp only [List.map_append, List.map_cons] at h
      exact (List.nodup_append.1 h).2.2 _ hmem _ List.mem_cons_self rfl
    have hrest := @ih (front ++ [d]) (by simpa using h)
    rw [List.length_append, List.length_singleton, List.append_assoc, List.singleton_append] at hrest
    rw [List.zipIdx_cons, List.foldlM_cons, enter_full hd]
    exact hrest

theorem ofSorted_of_nodup {docs : List Document} (h : (docs.map (·.id)).Nodup) :
    ofSorted docs = .ok (full docs) :=
  @foldlM_enter docs [] docs h

/-- The pass stops at a document that has the id of the one before it. -/
theorem ofSorted_of_repeated {front rest : List Document} {a b : Document}
    (h : ((front ++ [a]).map (·.id)).Nodup) (hid : a.id = b.id) :
    ofSorted (front ++ a :: b :: rest) = .error ⟨b.id, a.source, b.source⟩ := by
  set docs := front ++ a :: b :: rest with hdocs
  have hzip : docs.zipIdx
      = (front ++ [a]).zipIdx ++ (b, front.length + 1) :: rest.zipIdx (front.length + 1 + 1) := by
    simp [hdocs, List.zipIdx_append, List.zipIdx_cons]
  have hstart : (front ++ [a]).zipIdx.foldlM (enter docs) {} = .ok (full (front ++ [a])) :=
    @foldlM_enter docs [] (front ++ [a]) h
  have hlast : enter docs (full (front ++ [a])) (b, front.length + 1) = .error ⟨b.id, a.source, b.source⟩ := by
    have hlookup : (positions (·.id) (front ++ [a])).lookup b.id = some front.length := by
      simp [positions_concat, hid]
    have ha : docs[front.length]? = some a := by simp [hdocs]
    simp [enter, full, hlookup, ha]
  rw [ofSorted, hzip, List.foldlM_append, hstart]
  change enter docs (full (front ++ [a])) (b, front.length + 1) >>= _ = _
  rw [hlast]
  rfl

end Index

/-! ## Neighbours -/

/-- The documents before the first neighbours with the same id have no such neighbours. -/
theorem duplicate?_eq_some {docs : List Document} {dup : Duplicate} (h : duplicate? docs = some dup) :
    ∃ front a b rest, docs = front ++ a :: b :: rest ∧ duplicate? (front ++ [a]) = none ∧
      a.id = b.id ∧ dup = ⟨b.id, a.source, b.source⟩ := by
  fun_induction duplicate? docs with
  | case1 a b rest hid =>
    cases h
    exact ⟨[], a, b, rest, rfl, rfl, hid, rfl⟩
  | case2 a b rest hid ih =>
    obtain ⟨front, a', b', rest', hdocs, hnone, hrest⟩ := ih h
    refine ⟨a :: front, a', b', rest', by rw [hdocs]; rfl, ?_, hrest⟩
    cases front with
    | nil =>
      obtain ⟨rfl, -⟩ := List.cons.inj hdocs
      exact duplicate?_cons_cons.2 ⟨hid, hnone⟩
    | cons first front =>
      obtain ⟨rfl, -⟩ := List.cons.inj hdocs
      exact duplicate?_cons_cons.2 ⟨hid, hnone⟩
  | case3 => cases h

/-- Sorted documents up to the first neighbours with the same id. -/
theorem exists_repeated {docs : List Document} {dup : Duplicate}
    (h : duplicate? (sorted docs) = some dup) :
    ∃ front a b rest, sorted docs = front ++ a :: b :: rest ∧
      (front ++ [a]).Pairwise (·.id < ·.id) ∧ a.id = b.id ∧ dup = ⟨b.id, a.source, b.source⟩ := by
  obtain ⟨front, a, b, rest, hdocs, hnone, hid, hdup⟩ := duplicate?_eq_some h
  refine ⟨front, a, b, rest, hdocs, ?_, hid, hdup⟩
  have hsub : (front ++ [a]).Sublist (sorted docs) := by
    rw [hdocs]
    simp
  exact pairwise_lt_of_duplicate? ((pairwise_sorted docs).sublist hsub) hnone

/-- Comparing neighbours and entering positions one by one come to the same. -/
theorem ofDocuments_eq_map (docs : List Document) (sidebars : Sidebars) :
    ofDocuments docs sidebars
      = (Index.ofSorted (sorted docs)).map fun _ => { docs := sorted docs, sidebars } := by
  simp only [ofDocuments]
  cases h : duplicate? (sorted docs) with
  | none =>
    have hids := nodup_ids (pairwise_lt_of_duplicate? (pairwise_sorted docs) h)
    rw [Index.ofSorted_of_nodup hids]
    rfl
  | some dup =>
    obtain ⟨front, a, b, rest, hdocs, hfront, hid, rfl⟩ := exists_repeated h
    rw [hdocs, Index.ofSorted_of_repeated (nodup_ids hfront) hid]
    rfl

/-! ## What is refused -/

/-- The duplicate names the first two documents with its id, and no smaller id stands at two
documents. -/
structure FirstRepeated (docs : List Document) (dup : Duplicate) : Prop where
  named : ∃ a b rest, docs.filter (·.id = dup.id) = a :: b :: rest ∧
    dup.first = a.source ∧ dup.second = b.source
  smallest : ∀ id, 1 < (docs.map (·.id)).count id → ¬ id < dup.id

theorem filter_sorted (docs : List Document) (id : String) :
    (sorted docs).filter (·.id = id) = docs.filter (·.id = id) := by
  have hle (a b : Document) (ha : decide (a.id = id) = true) (hb : decide (b.id = id) = true) :
      Text.le a.id b.id = true := by
    rw [of_decide_eq_true ha, of_decide_eq_true hb]
    exact Text.le_refl id
  exact filter_mergeSort byId_trans byId_total hle docs

theorem firstRepeated_of_duplicate? {docs : List Document} {dup : Duplicate}
    (h : duplicate? (sorted docs) = some dup) : FirstRepeated docs dup := by
  obtain ⟨front, a, b, rest, hdocs, hfront, hid, rfl⟩ := exists_repeated h
  have hless : ∀ d ∈ front, d.id < a.id := by
    intro d hd
    exact (List.pairwise_append.1 hfront).2.2 d hd a List.mem_cons_self
  have hleast : ∀ d ∈ a :: b :: rest, b.id ≤ d.id := by
    have hsorted := pairwise_sorted docs
    rw [hdocs] at hsorted
    have htail := List.pairwise_cons.1 (List.pairwise_append.1 hsorted).2.1
    intro d hd
    rw [← hid]
    rcases List.mem_cons.1 hd with rfl | hd
    · exact Std.le_refl d.id
    · exact Text.le_iff.1 (htail.1 d hd)
  constructor
  case named =>
    refine ⟨a, b, rest.filter (·.id = b.id), ?_, rfl, rfl⟩
    have hnone : front.filter (·.id = b.id) = [] := by
      rw [List.filter_eq_nil_iff]
      intro d hd
      simpa using Std.ne_of_lt (hid ▸ hless d hd)
    rw [← filter_sorted, hdocs, List.filter_append, hnone]
    simp [hid]
  case smallest =>
    intro id hcount hlt
    have hperm : (sorted docs).Perm docs := List.mergeSort_perm docs _
    rw [← (hperm.map _).count_eq, hdocs, List.map_append, List.count_append] at hcount
    -- a smaller id stands only in front, where no id stands twice
    have honce : (front.map (·.id)).count id ≤ 1 :=
      List.nodup_iff_count_le_one.1 (nodup_ids (List.pairwise_append.1 hfront).1) id
    have hnone : ((a :: b :: rest).map (·.id)).count id = 0 := by
      rw [List.count_eq_zero]
      intro hmem
      obtain ⟨d, hd, rfl⟩ := List.mem_map.1 hmem
      exact Std.not_lt.2 (hleast d hd) hlt
    omega

/-! ## What is found -/

/-- What a catalogue of the documents holds and answers. -/
structure Answers (docs : List Document) (sidebars : Sidebars) (c : Catalog) : Prop where
  perm : c.docs.Perm docs
  sorted : c.docs.Pairwise (·.id < ·.id)
  sidebars_eq : c.sidebars = sidebars
  /-- The lookups go through positions, none of which lies outside of the documents. -/
  exists_index : ∃ index, Index.ofSorted c.docs = .ok index ∧
    (∀ e ∈ index.ids, e.2 < c.docs.length) ∧ (∀ e ∈ index.files, e.2 < c.docs.length) ∧
    (∀ id, c.doc? id = (index.ids.lookup id).bind (c.docs[·]?)) ∧
    ∀ path, c.docAt? path = (index.files.lookup (Path.components path)).bind (c.docs[·]?)
  doc?_eq_some_iff : ∀ id d, c.doc? id = some d ↔ d ∈ docs ∧ d.id = id
  doc?_eq_none_iff : ∀ id, c.doc? id = none ↔ id ∉ docs.map (·.id)
  docAt?_eq_some : ∀ path d, c.docAt? path = some d →
    d ∈ docs ∧ Path.components d.path = Path.components path
  docAt?_eq_none_iff : ∀ path, c.docAt? path = none ↔
    ∀ d ∈ docs, Path.components d.path ≠ Path.components path

theorem doc?_eq_lookup {c : Catalog} (h : c.docs.Pairwise (·.id < ·.id)) (id : String) :
    c.doc? id = ((positions (·.id) c.docs).lookup id).bind (c.docs[·]?) := by
  have hreverse : (c.docs.reverse.map (·.id)).Nodup := by
    rw [List.map_reverse]
    exact List.nodup_reverse.2 (nodup_ids h)
  rw [lookup_positions]
  apply Option.ext
  intro d
  rw [doc?_eq_some_iff h, find?_key_eq_some_iff hreverse, List.mem_reverse]

theorem docAt?_eq_lookup (c : Catalog) (path : String) :
    c.docAt? path
      = ((positions (Path.components ·.path) c.docs).lookup (Path.components path)).bind (c.docs[·]?) :=
  (lookup_positions c.docs _).symm

theorem answers_of_ofDocuments {docs : List Document} {sidebars : Sidebars} {c : Catalog}
    (h : ofDocuments docs sidebars = .ok c) : Answers docs sidebars c := by
  obtain ⟨hperm, hsorted, -⟩ := ofDocuments_eq_ok h
  constructor
  case perm => exact hperm
  case sorted => exact hsorted
  case sidebars_eq => exact sidebars_of_ofDocuments h
  case exists_index =>
    refine ⟨Index.full c.docs, Index.ofSorted_of_nodup (nodup_ids hsorted), ?_, ?_,
      doc?_eq_lookup hsorted, docAt?_eq_lookup c⟩
    · intro e he
      exact (mem_positions (show e ∈ positions (·.id) c.docs from he)).2
    · intro e he
      exact (mem_positions (show e ∈ positions (Path.components ·.path) c.docs from he)).2
  case doc?_eq_some_iff =>
    intro id d
    rw [Catalog.doc?_eq_some_iff hsorted, hperm.mem_iff]
  case doc?_eq_none_iff =>
    intro id
    rw [doc?, find?_key_eq_none_iff, (hperm.map _).mem_iff]
  case docAt?_eq_some =>
    intro path d hd
    have hmem := List.mem_of_find?_eq_some hd
    rw [List.mem_reverse, hperm.mem_iff] at hmem
    exact ⟨hmem, by simpa using List.find?_some hd⟩
  case docAt?_eq_none_iff =>
    intro path
    simp [docAt?, hperm.mem_iff]

theorem exists_ofDocuments {docs : List Document} (h : (docs.map (·.id)).Nodup)
    (sidebars : Sidebars) : ∃ c, ofDocuments docs sidebars = .ok c := by
  have hperm : (sorted docs).Perm docs := List.mergeSort_perm docs _
  have hids : ((sorted docs).map (·.id)).Nodup := (hperm.map _).nodup_iff.2 h
  rw [ofDocuments_eq_map, Index.ofSorted_of_nodup hids]
  exact ⟨_, rfl⟩

/-- Documents with distinct ids are sorted in one way only. -/
theorem ofDocuments_perm {docs docs' : List Document} {sidebars : Sidebars} {c : Catalog}
    (h : ofDocuments docs sidebars = .ok c) (hperm : docs'.Perm docs) :
    ofDocuments docs' sidebars = .ok c := by
  obtain ⟨hdocs, hsorted, hroutes⟩ := ofDocuments_eq_ok h
  have hids : (docs'.map (·.id)).Nodup := ((hdocs.trans hperm.symm).map _).nodup_iff.1 (nodup_ids hsorted)
  obtain ⟨c', h'⟩ := exists_ofDocuments hids sidebars
  obtain ⟨hdocs', hsorted', hroutes'⟩ := ofDocuments_eq_ok h'
  have hsame : c'.docs = c.docs := by
    refine List.Perm.eq_of_pairwise (fun a b _ _ hab hba => ?_) hsorted' hsorted
      (hdocs'.trans (hperm.trans hdocs.symm))
    exact absurd (String.lt_trans hab hba) (String.lt_irrefl a.id)
  have hsidebars := (sidebars_of_ofDocuments h').trans (sidebars_of_ofDocuments h).symm
  rw [h']
  cases c
  cases c'
  simp_all

/-- Documents make a catalogue exactly when no two have the same id. Then it holds them in the order
of their ids, every lookup finds what is there, and the order in which they are given makes no
difference. Else the smallest id that stands twice is reported with the first two documents that
have it. -/
theorem ofDocuments_exact (docs : List Document) (sidebars : Sidebars) :
    ((∃ c, ofDocuments docs sidebars = .ok c) ↔ (docs.map (·.id)).Nodup) ∧
      (∀ c, ofDocuments docs sidebars = .ok c → Answers docs sidebars c ∧
        ∀ docs', docs'.Perm docs → ofDocuments docs' sidebars = .ok c) ∧
      ∀ dup, ofDocuments docs sidebars = .error dup → FirstRepeated docs dup := by
  refine ⟨⟨?_, fun hids => exists_ofDocuments hids sidebars⟩, ?_, ?_⟩
  · rintro ⟨c, h⟩
    obtain ⟨hperm, hsorted, -⟩ := ofDocuments_eq_ok h
    exact (hperm.map _).nodup_iff.1 (nodup_ids hsorted)
  · intro c h
    exact ⟨answers_of_ofDocuments h, fun docs' hperm => ofDocuments_perm h hperm⟩
  · intro dup h
    simp only [ofDocuments] at h
    split at h
    next hdup =>
      cases h
      exact firstRepeated_of_duplicate? hdup
    next => cases h

/-- A document of its own id in a file that others share. -/
def sharedFile (id source : String) : Document where
  id
  route := "/docs"
  source
  title := none
  path := "/s/docs/a.md"
  links := []

/-- Two documents that come out of order, and four with two ids between them. -/
theorem ofDocuments_exact_sharedFile :
    (∃ c, ofDocuments [sharedFile "b" "1", sharedFile "a" "2"] {} = .ok c ∧
        Answers [sharedFile "b" "1", sharedFile "a" "2"] {} c ∧
        ofDocuments [sharedFile "a" "2", sharedFile "b" "1"] {} = .ok c) ∧
      ofDocuments (["a", "b"].flatMap fun id => [sharedFile id "1", sharedFile id "2"]) {}
        = .error ⟨"a", "1", "2"⟩ ∧
      FirstRepeated (["a", "b"].flatMap fun id => [sharedFile id "1", sharedFile id "2"])
        ⟨"a", "1", "2"⟩ := by
  constructor
  · obtain ⟨hiff, hok, -⟩ := ofDocuments_exact [sharedFile "b" "1", sharedFile "a" "2"] {}
    obtain ⟨c, hc⟩ := hiff.2 (by decide)
    obtain ⟨hanswers, hperm⟩ := hok c hc
    exact ⟨c, hc, hanswers, hperm _ (List.Perm.swap _ _ [])⟩
  · set docs := ["a", "b"].flatMap fun id => [sharedFile id "1", sharedFile id "2"]
    have hsorted : sorted docs = docs := List.mergeSort_of_pairwise (by decide)
    have herror : ofDocuments docs {} = .error ⟨"a", "1", "2"⟩ := by
      rw [ofDocuments, hsorted]
      rfl
    exact ⟨herror, (ofDocuments_exact docs {}).2.2 _ herror⟩

end DocAtlas.Catalog
