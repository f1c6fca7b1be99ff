-- SUMMARY: No unknown key of a settings file goes unnoticed.
import DocAtlas.Proofs.Settings.Sections
import DocAtlas.Proofs.Settings.Validation
import DocAtlas.Settings.Resolve

/-! # Unknown keys

The logo and the items of the navbar refuse keys that they do not know, so that
the value cannot be decoded. Unknown keys at the top and in the sections are
reported one by one, together with every rule that the settings break, unless
the rest of the value cannot be decoded. -/

namespace DocAtlas

open Toml (Value Mismatch)
open Toml.Decoder

/-! ## Parts of records -/

/-- A value stands for a field of a record with the given names: in a table under the name, in an
array at its place. -/
inductive Toml.StandsFor (names : List String) : (v : Value) → (name : String) → (w : Value) → Prop
  | key {entries : List (String × Value)} {name : String} {w : Value} (hname : name ∈ names)
      (h : (name, w) ∈ entries) : StandsFor names (.table entries) name w
  | place {items : List Value} {index : Nat} {name : String} {w : Value}
      (hname : names[index]? = some name) (h : items[index]? = some w) :
      StandsFor names (.array items) name w

/-- Where a value makes a lenient record, each part is one that its field takes. -/
theorem exists_put_of_lenient {σ : Type} {fields : List (Slot σ)} {record : String} {start : σ}
    {v : Value} {r : σ × List String} (hrecord : lenient record fields start v = .ok r)
    {name : String} {w : Value} (h : Toml.StandsFor (fields.map (·.name)) v name w) :
    ∃ f ∈ fields, f.name = name ∧ ∃ s₁ s₂, f.put w s₁ = .ok s₂ := by
  cases h with
  | key hname hentry =>
    obtain ⟨f, hf, hfname, hfind⟩ := exists_find?_key hname
    exact ⟨f, hf, hfname, exists_put_of_fromTable hrecord hentry hfind⟩
  | @place items index _ _ hname hitem =>
    simp only [List.getElem?_map, Option.map_eq_some_iff] at hname
    obtain ⟨f, hf, hfname⟩ := hname
    simp only [lenient] at hrecord
    cases hitems : fromItems record fields.length fields 0 items start with
    | error m => rw [hitems] at hrecord; cases hrecord
    | ok s =>
      exact ⟨f, List.mem_of_getElem? hf, hfname, exists_put_of_fromItems hitems hf hitem⟩

/-- A strict record has no unknown keys. -/
theorem mem_names_of_strictFields {σ : Type} {fields : List (Slot σ)} {start t : σ}
    {entries : List (String × Value)} (h : strictFields fields start entries = .ok t) {k : String}
    {w : Value} (hk : (k, w) ∈ entries) : k ∈ fields.map (·.name) := by
  cases htable : strictTable fields entries start with
  | error m => rw [strictFields, htable] at h; cases h
  | ok s =>
    have hlenient := strictTable_eq_ok_iff.1 htable
    rw [fromTable_eq] at hlenient
    cases hknown : fromTable fields (knownEntries (fields.map (·.name)) entries) start with
    | error m => rw [hknown] at hlenient; cases hlenient
    | ok r =>
      rw [hknown] at hlenient
      simp only [Except.map, Except.ok.injEq, Prod.mk.injEq] at hlenient
      by_contra hunknown
      have := mem_unknownKeys.2 ⟨⟨w, hk⟩, hunknown⟩
      rw [hlenient.2] at this
      cases this

/-! ## The navbar -/

def Logo.keys : List String := ["alt", "src", "src_dark"]

namespace NavItem

/-- The keys of an item of the given kind. -/
def Kind.keys (kind : Kind) : List String := ["type", kind.targetKey, "label", "position"]

/-- A key that the item does not know by the kind it names. -/
def IsUnknown (item : List (String × Value)) (k : String) : Prop :=
  ∀ choice ∈ Kind.choices, ("type", .string choice.1) ∈ item → k ∉ choice.2.keys

theorem kindOf_eq_ok {tag : Value} {kind : Kind} (h : kindOf tag = .ok kind) :
    ∃ name, tag = .string name ∧ (name, kind) ∈ Kind.choices := by
  unfold kindOf at h
  split at h
  next name =>
    unfold named at h
    split at h
    next key a hfind =>
      cases h
      have hkey : key = name := by simpa using List.find?_some hfind
      exact ⟨name, rfl, hkey ▸ List.mem_of_find?_eq_some hfind⟩
    next => cases h
  next => cases h

/-- An item that can be read knows all its keys. -/
theorem not_isUnknown_of_ofKind {item : List (String × Value)} {kind : Kind} {rest : Value}
    {t : NavItem} (htagged : tagged (.table item) = .ok (kind, rest))
    (ht : ofKind kind rest = .ok t) {k : String} {w : Value} (hk : (k, w) ∈ item) :
    ¬ IsUnknown item k := by
  simp only [tagged, fields?] at htagged
  cases hfind : item.find? (·.1 = "type") with
  | none => rw [hfind] at htagged; cases htagged
  | some e =>
    obtain ⟨key, tag⟩ := e
    obtain rfl : key = "type" := by simpa using List.find?_some hfind
    rw [hfind] at htagged
    cases hkind : kindOf tag with
    | error m => simp only [hkind] at htagged; cases htagged
    | ok kind' =>
      simp only [hkind] at htagged
      cases htagged
      obtain ⟨name, rfl, hchoice⟩ := kindOf_eq_ok hkind
      intro hunknown
      have hkeys := hunknown _ hchoice (List.mem_of_find?_eq_some hfind)
      by_cases htype : k = "type"
      · exact hkeys (htype ▸ List.mem_cons_self)
      · refine hkeys (List.mem_cons_of_mem _ ?_)
        exact mem_names_of_strictFields ht (List.mem_filter.2 ⟨hk, by simpa using htype⟩)

theorem exists_ofKind_of_listFrom {index : Nat} {vs : List Value} {ts : List NavItem}
    (h : listFrom index vs = .ok ts) {v : Value} (hv : v ∈ vs) :
    ∃ kind rest t, tagged v = .ok (kind, rest) ∧ ofKind kind rest = .ok t := by
  induction vs generalizing index ts with
  | nil => cases hv
  | cons v' vs ih =>
    rw [listFrom] at h
    cases htagged : tagged v' with
    | error m => rw [htagged] at h; cases h
    | ok r =>
      obtain ⟨kind, rest⟩ := r
      simp only [htagged, Except.mapError, bind, Except.bind] at h
      cases hitem : ofKind kind rest with
      | error m => simp only [hitem] at h; cases h
      | ok t =>
        cases hlater : listFrom (index + 1) vs with
        | error m => simp only [hitem, hlater] at h; cases h
        | ok ts' =>
          rcases List.mem_cons.1 hv with rfl | hv
          · exact ⟨kind, rest, t, htagged, hitem⟩
          · exact ih hlater hv

end NavItem

/-- A table of the navbar, the logo or an item, holds a key that it does not know. -/
inductive Navbar.HoldsUnknown : (navbar : Value) → Prop
  | logo {navbar w : Value} {logo : List (String × Value)} {k : String}
      (hlogo : Toml.StandsFor ["title", "logo", "items"] navbar "logo" (.table logo))
      (h : (k, w) ∈ logo) (hk : k ∉ Logo.keys) : HoldsUnknown navbar
  | item {navbar w : Value} {items : List Value} {item : List (String × Value)} {k : String}
      (hitems : Toml.StandsFor ["title", "logo", "items"] navbar "items" (.array items))
      (hitem : .table item ∈ items) (h : (k, w) ∈ item) (hk : NavItem.IsUnknown item k) :
      HoldsUnknown navbar

/-- A navbar that can be read has no such key. -/
theorem Navbar.not_holdsUnknown {navbar : Value} {record : String} {start : Navbar}
    {r : Navbar × List String} (hrecord : lenient record fields start navbar = .ok r) :
    ¬ HoldsUnknown navbar := by
  intro h
  cases h with
  | logo hlogo hentry hk =>
    obtain ⟨f, hf, hname, s₁, s₂, hput⟩ := exists_put_of_lenient hrecord hlogo
    obtain rfl | rfl | rfl : f = _ ∨ f = _ ∨ f = _ := by simpa [fields] using hf
    · exact absurd hname (by simp [Slot.of])
    · obtain ⟨logo, hstrict⟩ := Slot.exists_of_put hput
      exact hk (mem_names_of_strictFields hstrict hentry)
    · exact absurd hname (by simp [Slot.of])
  | item hitems hitem hentry hk =>
    obtain ⟨f, hf, hname, s₁, s₂, hput⟩ := exists_put_of_lenient hrecord hitems
    obtain rfl | rfl | rfl : f = _ ∨ f = _ ∨ f = _ := by simpa [fields] using hf
    · exact absurd hname (by simp [Slot.of])
    · exact absurd hname (by simp [Slot.of])
    · obtain ⟨ts, hlist⟩ := Slot.exists_of_put hput
      obtain ⟨kind, rest, t, htagged, ht⟩ := NavItem.exists_ofKind_of_listFrom hlist hitem
      exact NavItem.not_isUnknown_of_ofKind htagged ht hentry hk

/-! ## Sections -/

namespace Settings

/-- Where entries make settings, the value of each section is one that it takes. -/
theorem exists_put_of_fromEntries {entries : List (String × Value)} {s : Settings}
    {r : Settings × List String} (h : fromEntries entries s = .ok r) {k : String} {v : Value}
    (hmem : (k, v) ∈ entries) {sect : Section} (hfind : sections.find? (·.key = k) = some sect) :
    ∃ s r, sect.put v s = .ok r := by
  induction entries generalizing s r with
  | nil => cases hmem
  | cons e rest ih =>
    obtain ⟨k', v'⟩ := e
    cases hfind' : sections.find? (·.key = k') with
    | some sect' =>
      rw [fromEntries_cons_section hfind'] at h
      cases hput : sect'.put v' s with
      | error m => rw [hput] at h; cases h
      | ok r' =>
        rw [hput] at h
        cases hrest : fromEntries rest r'.1 with
        | error m => simp only [Except.mapError, Except.bind, hrest] at h; cases h
        | ok r'' =>
          rcases List.mem_cons.1 hmem with heq | hmem
          · obtain ⟨rfl, rfl⟩ := Prod.mk.inj heq
            rw [hfind'] at hfind
            cases hfind
            exact ⟨s, r', hput⟩
          · exact ih hrest hmem
    | none =>
      rw [fromEntries_cons_unknown hfind'] at h
      cases hrest : fromEntries rest s with
      | error m => rw [hrest] at h; cases h
      | ok r' =>
        rcases List.mem_cons.1 hmem with heq | hmem
        · obtain ⟨rfl, rfl⟩ := Prod.mk.inj heq
          rw [hfind'] at hfind
          cases hfind
        · exact ih hrest hmem

/-- A key at the top of a value or in one of its sections that the schema does not know, by its
dotted path. -/
inductive UnknownKey : (v : Value) → (path : String) → Prop
  | top {entries : List (String × Value)} {k : String} {v : Value} (h : (k, v) ∈ entries)
      (hk : k ∉ schema.map (·.1)) : UnknownKey (.table entries) k
  | inSection {entries fields : List (String × Value)} {names : List String} {sect k : String}
      {v w : Value} (hsect : (sect, w) ∈ entries) (hfields : fields? w = some fields)
      (hnames : (sect, names) ∈ schema) (h : (k, v) ∈ fields) (hk : k ∉ names) :
      UnknownKey (.table entries) (sect ++ "." ++ k)

-- Where the site lies is not for a file to say.
example (v : Value) : UnknownKey (.table [("root", v)]) "root" :=
  .top List.mem_cons_self (by decide)

example (v : Value) : UnknownKey (.table [("config_path", v)]) "config_path" :=
  .top List.mem_cons_self (by decide)

/-- A key in the logo or an item of the navbar that is not known there. -/
inductive UnknownInNavbar : (v : Value) → Prop
  | mk {entries : List (String × Value)} {navbar : Value} (hnavbar : ("navbar", navbar) ∈ entries)
      (h : Navbar.HoldsUnknown navbar) : UnknownInNavbar (.table entries)

theorem mem_unknownPaths {v : Value} {path : String} :
    path ∈ unknownPaths v ↔ UnknownKey v path := by
  constructor
  · intro h
    cases v with
    | scalar _ | array _ => cases h
    | table entries =>
      obtain ⟨⟨k, v⟩, hmem, hpath⟩ := List.mem_flatMap.1 h
      cases hnames : namesOf? k with
      | none =>
        simp only [hnames, List.mem_singleton] at hpath
        exact hpath ▸ .top hmem (namesOf?_eq_none_iff.1 hnames)
      | some names =>
        simp only [hnames, unknownPart, List.mem_map, mem_unknownKeys] at hpath
        obtain ⟨k', ⟨⟨w, hw⟩, hk'⟩, rfl⟩ := hpath
        cases hfields : fields? v with
        | none => rw [hfields] at hw; cases hw
        | some fields =>
          rw [hfields] at hw
          exact .inSection hmem hfields (namesOf?_eq_some_iff.1 hnames) hw hk'
  · intro h
    cases h with
    | top hmem hk =>
      refine List.mem_flatMap.2 ⟨_, hmem, ?_⟩
      simp [namesOf?_eq_none_iff.2 hk]
    | inSection hsect hfields hnames hmem hk =>
      refine List.mem_flatMap.2 ⟨_, hsect, ?_⟩
      simp only [namesOf?_eq_some_iff.2 hnames, unknownPart, hfields]
      exact List.mem_map.2 ⟨_, mem_unknownKeys.2 ⟨⟨_, hmem⟩, hk⟩, rfl⟩

theorem decode_of_unknownInNavbar {v : Value} (h : UnknownInNavbar v) :
    ∃ m, decode v = .error m := by
  cases h with
  | @mk entries navbar hnavbar hunknown =>
    cases hdecode : decode (.table entries) with
    | error m => exact ⟨m, rfl⟩
    | ok r =>
      obtain ⟨s, r', hput⟩ := exists_put_of_fromEntries hdecode hnavbar rfl
      cases hrecord : lenient "NavbarConfig" Navbar.fields {} navbar with
      | error m => simp only [Section.of, hrecord] at hput; cases hput
      | ok r'' => exact absurd hunknown (Navbar.not_holdsUnknown hrecord)

/-! ## Resolution -/

theorem resolve_of_read {source : String} {tree : Toml.Tree} (hread : Toml.read source = .ok tree) :
    resolve source =
      match decode tree.value with
      | .error m => .error (.toml (.shape tree m))
      | .ok (settings, unknown) =>
        match unknown.map unknownFinding ++ settings.findings with
        | [] => .ok settings
        | findings => .error (.rejected findings) := by
  unfold resolve Toml.decode
  rw [hread]
  simp only [ofValue]
  cases decode tree.value with
  | error m => rfl
  | ok r =>
    simp only [bind, Except.bind]
    cases r.2.map unknownFinding ++ r.1.findings <;> rfl

/-- A text that is decoded to settings without unknown keys, which break no rule, gives them. -/
theorem resolve_of_decode {source : String} {settings : Settings}
    (h : (Toml.read source).toOption.bind (fun tree => (decode tree.value).toOption)
      = some (settings, [])) (hfindings : settings.findings = []) :
    resolve source = .ok settings := by
  cases hread : Toml.read source with
  | error fault =>
    rw [hread] at h
    cases h
  | ok tree =>
    rw [hread] at h
    rw [resolve_of_read hread]
    cases hdecode : decode tree.value with
    | error m =>
      simp only [Except.toOption, Option.bind_some, hdecode] at h
      cases h
    | ok r =>
      simp only [Except.toOption, Option.bind_some, hdecode] at h
      cases h
      simp only [List.map_nil, List.nil_append, hfindings]

/-- Settings that come out of a text break no rule. -/
theorem findings_of_resolve {source : String} {settings : Settings}
    (h : resolve source = .ok settings) : settings.findings = [] := by
  cases hread : Toml.read source with
  | error fault =>
    unfold resolve Toml.decode at h
    rw [hread] at h
    cases h
  | ok tree =>
    rw [resolve_of_read hread] at h
    split at h
    next => cases h
    next decoded unknown _ =>
      split at h
      next hnone =>
        cases h
        exact (List.append_eq_nil_iff.1 hnone).2
      next => cases h

/-- A file with an unknown key at the top and one in a section. -/
def straySource : String := "root = 1\n[docs]\nx = 1\n"

/-- A file with an unknown key in an item of the navbar. -/
def strayItemSource : String :=
  "[[navbar.items]]\ntype = \"doc\"\ndoc_id = \"a\"\nlabel = \"A\"\nhref = \"/\"\n"

theorem read_eq_ok_of_value {source : String} {v : Value}
    (h : (Toml.read source).toOption.map (·.value) = some v) :
    ∃ tree, Toml.read source = .ok tree ∧ tree.value = v := by
  cases hread : Toml.read source with
  | error e =>
    rw [hread] at h
    cases h
  | ok tree =>
    rw [hread] at h
    exact ⟨tree, rfl, Option.some.inj h⟩

theorem read_straySource : ∃ tree, Toml.read straySource = .ok tree ∧
    tree.value = .table
      [("root", .scalar (.integer 1)), ("docs", .table [("x", .scalar (.integer 1))])] :=
  read_eq_ok_of_value (by decide +kernel)

theorem read_strayItemSource : ∃ tree, Toml.read strayItemSource = .ok tree ∧
    tree.value = .table [("navbar", .table [("items", .array [.table
      [("type", .string "doc"), ("doc_id", .string "a"), ("label", .string "A"),
        ("href", .string "/")]])])] :=
  read_eq_ok_of_value (by decide +kernel)

end Settings

end DocAtlas
