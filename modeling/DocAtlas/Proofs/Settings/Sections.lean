-- SUMMARY: Settings read off sections: unknown keys are collected with their paths and change nothing else.
import DocAtlas.Proofs.List
import DocAtlas.Proofs.Toml.Record
import DocAtlas.Settings.Decode

/-! # Sections

The schema says which sections there are and which keys each one knows. The
settings of a TOML value are those of the value without the keys that the schema
does not know, and the paths of these keys are put on record in their order
(`decode_eq`). -/

namespace DocAtlas.Settings

open Toml (Value Mismatch)
open Toml.Decoder

/-! ## Sections one by one -/

theorem fromEntries_cons_section {k : String} {sect : Section}
    (h : sections.find? (·.key = k) = some sect) (v : Value) (rest : List (String × Value))
    (s : Settings) :
    fromEntries ((k, v) :: rest) s
      = ((sect.put v s).mapError (·.within (.key k))).bind fun r =>
          (fromEntries rest r.1).map fun r' => (r'.1, r.2.map (k ++ "." ++ ·) ++ r'.2) := by
  rw [fromEntries]
  simp only [h]
  cases (sect.put v s).mapError (·.within (.key k)) with
  | error m => rfl
  | ok r =>
    simp only [bind, Except.bind]
    cases fromEntries rest r.1 <;> rfl

theorem fromEntries_cons_unknown {k : String} (h : sections.find? (·.key = k) = none) (v : Value)
    (rest : List (String × Value)) (s : Settings) :
    fromEntries ((k, v) :: rest) s = (fromEntries rest s).map fun r => (r.1, k :: r.2) := by
  rw [fromEntries]
  simp only [h]
  cases fromEntries rest s <;> rfl

/-! ## The schema -/

/-- The keys of each section. -/
def schema : List (String × List String) :=
  [("site", ["title", "tagline", "url", "base_url", "favicon", "organization", "project",
      "trailing_slash"]),
    ("i18n", ["default_locale", "locales"]),
    ("links", ["on_broken_links", "on_broken_markdown_links"]),
    ("docs", ["path", "route_base_path", "sidebar", "edit_url"]),
    ("theme", ["custom_css", "static_dirs", "pages"]),
    ("navbar", ["title", "logo", "items"]),
    ("footer", ["copyright"]),
    ("prism", ["theme", "dark_theme", "additional_languages"])]

/-- The value of a section without the keys that are not among the names. -/
def knownPart (names : List String) (v : Value) : Value :=
  match fields? v with
  | some entries => .table (knownEntries names entries)
  | none => v

/-- The keys of the value of a section that are not among the names. -/
def unknownPart (names : List String) (v : Value) : List String :=
  unknownKeys names ((fields? v).getD [])

/-- A section takes a value as it takes its known part, and puts the other keys on record. -/
def Section.Knows (sect : Section) (names : List String) : Prop :=
  ∀ v s, sect.put v s
    = (sect.put (knownPart names v) s).map fun r => (r.1, unknownPart names v)

theorem lenient_eq {σ : Type} (name : String) (fields : List (Slot σ)) (start : σ) (v : Value) :
    lenient name fields start v
      = (lenient name fields start (knownPart (fields.map (·.name)) v)).map
          fun r => (r.1, unknownPart (fields.map (·.name)) v) := by
  cases v with
  | table entries => exact fromTable_eq entries start
  | array items =>
    change Except.map _ _ = Except.map _ (Except.map _ _)
    cases fromItems name fields.length fields 0 items start <;> rfl
  | scalar s =>
    cases s with
    | datetime t => exact fromTable_eq [(momentKey, .string t)] start
    | string _ | integer _ | float _ | boolean _ => rfl

theorem Section.of_knows {σ : Type} {key name : String} {fields : List (Slot σ)} {start : σ}
    {set : σ → Settings → Settings} :
    (Section.of key name fields start set).Knows (fields.map (·.name)) := by
  intro v s
  simp only [Section.of]
  rw [lenient_eq]
  cases lenient name fields start (knownPart (fields.map (·.name)) v) <;> rfl

/-- The sections are those of the schema, in the same order, and each knows its keys. -/
theorem sections_knows :
    List.Forall₂ (fun sect e => sect.key = e.1 ∧ Section.Knows sect e.2) sections schema := by
  refine .cons ⟨rfl, Section.of_knows⟩ ?_
  refine .cons ⟨rfl, Section.of_knows⟩ ?_
  refine .cons ⟨rfl, Section.of_knows⟩ ?_
  refine .cons ⟨rfl, Section.of_knows⟩ ?_
  refine .cons ⟨rfl, Section.of_knows⟩ ?_
  refine .cons ⟨rfl, Section.of_knows⟩ ?_
  refine .cons ⟨rfl, Section.of_knows⟩ ?_
  exact .cons ⟨rfl, Section.of_knows⟩ .nil

/-- The keys that the section of the given name knows. -/
def namesOf? (k : String) : Option (List String) := (schema.find? (·.1 = k)).map (·.2)

theorem namesOf?_eq_some_iff {k : String} {names : List String} :
    namesOf? k = some names ↔ (k, names) ∈ schema := by
  have hkeys : (schema.map (·.1)).Nodup := by decide
  unfold namesOf?
  simp only [Option.map_eq_some_iff, find?_key_eq_some_iff hkeys]
  constructor
  · rintro ⟨e, ⟨he, rfl⟩, rfl⟩
    exact he
  · intro h
    exact ⟨_, ⟨h, rfl⟩, rfl⟩

theorem namesOf?_eq_none_iff {k : String} : namesOf? k = none ↔ k ∉ schema.map (·.1) := by
  unfold namesOf?
  rw [Option.map_eq_none_iff, find?_key_eq_none_iff]

/-- The section and the names that belong to a key, or neither. -/
theorem find?_section_cases (k : String) :
    (sections.find? (·.key = k) = none ∧ namesOf? k = none) ∨
      ∃ sect names, sections.find? (·.key = k) = some sect ∧ namesOf? k = some names ∧
        sect.Knows names := by
  have hall := sections_knows
  unfold namesOf?
  generalize sections = sects at hall
  generalize schema = schema at hall
  induction hall with
  | nil => exact .inl ⟨rfl, rfl⟩
  | @cons sect e sects schema hhead _ ih =>
    by_cases hk : sect.key = k
    · refine .inr ⟨sect, e.2, ?_, ?_, hhead.2⟩
      · rw [List.find?_cons_of_pos (by simpa using hk)]
      · rw [List.find?_cons_of_pos (by simpa [← hhead.1] using hk)]
        rfl
    · rw [List.find?_cons_of_neg (by simpa using hk),
        List.find?_cons_of_neg (by simpa [← hhead.1] using hk)]
      exact ih

/-! ## Known and unknown keys of a value -/

/-- The value without the keys that the schema does not know, at the top and in the sections. -/
def knownTree : Value → Value
  | .table entries => .table (entries.filterMap fun (k, v) =>
      (namesOf? k).map fun names => (k, knownPart names v))
  | v => v

/-- The dotted paths of those keys, in their order. -/
def unknownPaths : Value → List String
  | .table entries => entries.flatMap fun (k, v) =>
      match namesOf? k with
      | some names => (unknownPart names v).map (k ++ "." ++ ·)
      | none => [k]
  | _ => []

theorem unknownPart_knownPart (names : List String) (v : Value) :
    unknownPart names (knownPart names v) = [] := by
  unfold unknownPart knownPart
  cases h : fields? v with
  | none => simp [h, unknownKeys]
  | some entries => simp [fields?, unknownKeys, knownEntries]

theorem unknownPaths_knownTree (v : Value) : unknownPaths (knownTree v) = [] := by
  cases v with
  | scalar _ | array _ => rfl
  | table entries =>
    refine List.flatMap_eq_nil_iff.2 fun e he => ?_
    obtain ⟨⟨k, v⟩, -, hknown⟩ := List.mem_filterMap.1 he
    obtain ⟨names, hnames, rfl⟩ := Option.map_eq_some_iff.1 hknown
    simp [hnames, unknownPart_knownPart]

/-- Unknown keys are collected with their paths and change nothing else. -/
theorem decode_eq (v : Value) :
    decode v = (decode (knownTree v)).map fun r => (r.1, unknownPaths v) := by
  cases v with
  | scalar _ | array _ => rfl
  | table entries =>
    simp only [decode, knownTree]
    generalize ({} : Settings) = s
    induction entries generalizing s with
    | nil => rfl
    | cons e rest ih =>
      obtain ⟨k, v⟩ := e
      obtain ⟨hfind, hnames⟩ | ⟨sect, names, hfind, hnames, hknows⟩ := find?_section_cases k
      · rw [fromEntries_cons_unknown hfind, ih, List.filterMap_cons_none (by simp [hnames])]
        simp only [unknownPaths, List.flatMap_cons, hnames]
        cases fromEntries (rest.filterMap _) s <;> rfl
      · rw [fromEntries_cons_section hfind, List.filterMap_cons_some (b := (k, knownPart names v))
          (by simp [hnames]), fromEntries_cons_section hfind, hknows]
        simp only [unknownPaths, List.flatMap_cons, hnames]
        cases sect.put (knownPart names v) s with
        | error m => rfl
        | ok r =>
          simp only [Except.map, Except.mapError, Except.bind]
          rw [ih]
          cases fromEntries (rest.filterMap _) r.1 <;> rfl

theorem decode_knownTree_eq {v : Value} {r : Settings × List String}
    (h : decode (knownTree v) = .ok r) : r.2 = [] := by
  rw [decode_eq, unknownPaths_knownTree] at h
  cases hknown : decode (knownTree (knownTree v)) with
  | error m => rw [hknown] at h; cases h
  | ok r' => rw [hknown] at h; cases h; rfl

end DocAtlas.Settings
