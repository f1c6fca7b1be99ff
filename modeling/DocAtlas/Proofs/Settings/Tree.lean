-- SUMMARY: Settings as a TOML value, and each section read back from a pruned form of its table.
import DocAtlas.Proofs.Manifest
import DocAtlas.Proofs.Toml.Pruning
import DocAtlas.Settings.Decode

/-! # Settings as TOML

The value has one table for each section, with a key for each field that is set.
Every field of a section takes each pruned form of what the section shows there,
so that the sections, the logo and the items of the navbar are read back one by
one. -/

namespace DocAtlas

open Toml (Value Step Shown Pruned PrunedFields PrunedItems ReadsBack)
open Toml.Decoder

/-! ## Values -/

namespace Toml.Value

@[simp] theorem map_string_inj {a b : Option String} :
    a.map Value.string = b.map Value.string ↔ a = b :=
  (Option.map_injective fun _ _ h => by simpa using h).eq_iff

@[simp] theorem map_boolean_inj {a b : Option Bool} :
    a.map Value.boolean = b.map Value.boolean ↔ a = b :=
  (Option.map_injective fun _ _ h => by simpa using h).eq_iff

@[simp] theorem strings_inj {a b : List String} : strings a = strings b ↔ a = b := by
  rw [strings, strings, array.injEq]
  exact List.map_inj_right fun _ _ h => by simpa using h

end Toml.Value

/-! ## What settings show -/

def SiteInfo.shown (s : SiteInfo) : Shown :=
  [("title", some (.string s.title)), ("tagline", some (.string s.tagline)),
    ("url", some (.string s.url)), ("base_url", some (.string s.baseUrl)),
    ("favicon", s.favicon.map Value.string), ("organization", s.organization.map Value.string),
    ("project", s.project.map Value.string), ("trailing_slash", s.trailingSlash.map Value.boolean)]

def Locales.shown (s : Locales) : Shown :=
  [("default_locale", some (.string s.default)), ("locales", some (.strings s.all))]

def LinkPolicies.shown (s : LinkPolicies) : Shown :=
  [("on_broken_links", some (.string s.onBrokenLinks.name)),
    ("on_broken_markdown_links", some (.string s.onBrokenMarkdownLinks.name))]

def DocsSection.shown (s : DocsSection) : Shown :=
  [("path", some (.string s.path)), ("route_base_path", some (.string s.routeBasePath)),
    ("sidebar", some (.string s.sidebar)), ("edit_url", s.editUrl.map Value.string)]

def Theme.shown (s : Theme) : Shown :=
  [("custom_css", s.customCss.map Value.string), ("static_dirs", some (.strings s.staticDirs)),
    ("pages", some (.string s.pages))]

def Logo.shown (s : Logo) : Shown :=
  [("alt", some (.string s.alt)), ("src", some (.string s.src)),
    ("src_dark", s.srcDark.map Value.string)]

/-- The kind of a target, and the text that names it. -/
def NavTarget.shown : NavTarget → Shown
  | .doc id => [("type", some (.string "doc")), ("doc_id", some (.string id))]
  | .sidebar id => [("type", some (.string "doc_sidebar")), ("sidebar_id", some (.string id))]
  | .link href => [("type", some (.string "link")), ("href", some (.string href))]

def NavItem.shown (s : NavItem) : Shown :=
  s.target.shown ++ [("label", some (.string s.label)), ("position", some (.string s.position.name))]

def Logo.toToml (s : Logo) : Value := .table s.shown.entries

def NavItem.toToml (s : NavItem) : Value := .table s.shown.entries

def Navbar.shown (s : Navbar) : Shown :=
  [("title", s.title.map Value.string), ("logo", s.logo.map Logo.toToml),
    ("items", some (.array (s.items.map NavItem.toToml)))]

def Footer.shown (s : Footer) : Shown := [("copyright", some (.string s.copyright))]

def Prism.shown (s : Prism) : Shown :=
  [("theme", some (.string s.theme)), ("dark_theme", some (.string s.darkTheme)),
    ("additional_languages", some (.strings s.additionalLanguages.keys))]

namespace Settings

def shown (s : Settings) : Shown :=
  [("site", some (.table s.site.shown.entries)), ("i18n", some (.table s.i18n.shown.entries)),
    ("links", some (.table s.links.shown.entries)), ("docs", some (.table s.docs.shown.entries)),
    ("theme", some (.table s.theme.shown.entries)), ("navbar", some (.table s.navbar.shown.entries)),
    ("footer", some (.table s.footer.shown.entries)), ("prism", some (.table s.prism.shown.entries))]

/-- The settings as a TOML value: one table for each section, without the fields that are unset. -/
def toToml (s : Settings) : Value := .table s.shown.entries

end Settings

/-! ## Sections -/

section

variable {spare : List Step → Value → Prop} {path : List Step}

theorem SiteInfo.readsBack (t : SiteInfo) : ReadsBack spare path shown (fromTable fields) t := by
  refine fromTable_readsBack ?_ (fun _ => rfl) (by decide) ?_
  · intro s h
    cases s
    cases t
    simpa [shown] using h
  · simp only [fields, List.forall_mem_cons]
    refine ⟨Slot.text_readsBack (some ·.title) ?_ ?_, Slot.text_readsBack (some ·.tagline) ?_ ?_,
      Slot.text_readsBack (some ·.url) ?_ ?_, Slot.text_readsBack (some ·.baseUrl) ?_ ?_,
      Slot.filePath_readsBack (·.favicon) ?_ ?_, Slot.text_readsBack (·.organization) ?_ ?_,
      Slot.text_readsBack (·.project) ?_ ?_,
      Slot.of_readsBack (·.trailingSlash) Value.boolean (fun _ _ h => h.boolean_eq ▸ rfl) ?_ ?_,
      List.forall_mem_nil _⟩
    all_goals simp [shown, Shown.set]

theorem list_strings {item : Toml.Decoder String} (hitem : ∀ s, item (.string s) = .ok s)
    (items : List String) : list item (.strings items) = .ok items := by
  have hfrom (index : Nat) : itemsFrom item index (items.map Value.string) = .ok items := by
    induction items generalizing index with
    | nil => rfl
    | cons s items ih =>
      rw [List.map_cons, itemsFrom, hitem, ih]
      rfl
  exact hfrom 0

theorem Locales.readsBack (t : Locales) : ReadsBack spare path shown (fromTable fields) t := by
  refine fromTable_readsBack ?_ (fun _ => rfl) (by decide) ?_
  · intro s h
    cases s
    cases t
    simpa [shown] using h
  · simp only [fields, List.forall_mem_cons]
    refine ⟨Slot.text_readsBack (some ·.default) ?_ ?_,
      Slot.of_readsBack (some ·.all) Value.strings ?_ ?_ ?_, List.forall_mem_nil _⟩
    case refine_3 =>
      intro items w h
      rw [h.strings_eq, list_strings fun _ => rfl]
    all_goals simp [shown, Shown.set]

theorem LinkPolicies.readsBack (t : LinkPolicies) :
    ReadsBack spare path shown (fromTable fields) t := by
  have hchoice (p : Policy) (w : Value) (k : String)
      (h : Pruned spare (path ++ [.key k]) (.string p.name) w) :
      choice Policy.choices w = .ok p := by
    rw [h.string_eq]
    cases p <;> rfl
  refine fromTable_readsBack ?_ (fun _ => rfl) (by decide) ?_
  · intro s h
    cases s
    cases t
    simpa [shown] using h
  · simp only [fields, List.forall_mem_cons]
    refine ⟨Slot.of_readsBack (some ·.onBrokenLinks) (.string ·.name) ?_ ?_ ?_,
      Slot.of_readsBack (some ·.onBrokenMarkdownLinks) (.string ·.name) ?_ ?_ ?_,
      List.forall_mem_nil _⟩
    case refine_1 | refine_4 => exact fun p w h => hchoice p w _ h
    all_goals simp [shown, Shown.set]

theorem DocsSection.readsBack (t : DocsSection) :
    ReadsBack spare path shown (fromTable fields) t := by
  refine fromTable_readsBack ?_ (fun _ => rfl) (by decide) ?_
  · intro s h
    cases s
    cases t
    simpa [shown] using h
  · simp only [fields, List.forall_mem_cons]
    refine ⟨Slot.filePath_readsBack (some ·.path) ?_ ?_,
      Slot.text_readsBack (some ·.routeBasePath) ?_ ?_,
      Slot.filePath_readsBack (some ·.sidebar) ?_ ?_, Slot.text_readsBack (·.editUrl) ?_ ?_,
      List.forall_mem_nil _⟩
    all_goals simp [shown, Shown.set]

theorem Theme.readsBack (t : Theme) : ReadsBack spare path shown (fromTable fields) t := by
  refine fromTable_readsBack ?_ (fun _ => rfl) (by decide) ?_
  · intro s h
    cases s
    cases t
    simpa [shown] using h
  · simp only [fields, List.forall_mem_cons]
    refine ⟨Slot.filePath_readsBack (·.customCss) ?_ ?_,
      Slot.of_readsBack (some ·.staticDirs) Value.strings ?_ ?_ ?_,
      Slot.filePath_readsBack (some ·.pages) ?_ ?_, List.forall_mem_nil _⟩
    case refine_3 =>
      intro items w h
      rw [h.strings_eq, list_strings fun _ => rfl]
    all_goals simp [shown, Shown.set]

theorem Footer.readsBack (t : Footer) : ReadsBack spare path shown (fromTable fields) t := by
  refine fromTable_readsBack ?_ (fun _ => rfl) (by decide) ?_
  · intro s h
    cases s
    cases t
    simpa [shown] using h
  · simp only [fields, List.forall_mem_cons]
    refine ⟨Slot.text_readsBack (some ·.copyright) ?_ ?_, List.forall_mem_nil _⟩
    all_goals simp [shown, Shown.set]

theorem Prism.readsBack (t : Prism) : ReadsBack spare path shown (fromTable fields) t := by
  refine fromTable_readsBack ?_ (fun _ => rfl) (by decide) ?_
  · intro s h
    cases s
    cases t
    simpa [shown, StringSet.keys_inj] using h
  · simp only [fields, List.forall_mem_cons]
    refine ⟨Slot.text_readsBack (some ·.theme) ?_ ?_, Slot.text_readsBack (some ·.darkTheme) ?_ ?_,
      ?_, List.forall_mem_nil _⟩
    case refine_5 =>
      -- the array holds the members of the set in their order
      intro t v w hv hpruned s
      have hkeys : v = .strings t.additionalLanguages.keys := by simpa [shown, Slot.of] using hv
      subst hkeys
      refine ⟨{ s with additionalLanguages := t.additionalLanguages }, ?_, ?_⟩
      · rw [hpruned.strings_eq, Slot.of]
        have hlist := list_strings (fun _ => rfl : ∀ s, text (.string s) = .ok s)
        simp only [hlist, Except.map, StringSet.ofList_keys]
      · simp [shown, Shown.set, Slot.of]
    all_goals simp [shown, Shown.set]

/-! ## Strict records -/

/-- A strict record is read back where no required field is left out. -/
theorem strictFields_eq_ok {σ : Type} {fields : List (Slot σ)} {start t : σ}
    {entries : List (String × Value)} (h : fromTable fields entries start = .ok (t, []))
    (hrequired : ∀ f ∈ fields, f.required = true → f.name ∈ entries.map (·.1)) :
    strictFields fields start entries = .ok t := by
  have hmissing : missing? fields entries = none := by
    rw [missing?, Option.map_eq_none_iff, List.find?_eq_none]
    intro f hf
    have := hrequired f hf
    simp_all
  rw [strictFields, strictTable_eq_ok_iff.2 h]
  simp only [hmissing]
  rfl

theorem Logo.readsBack (t : Logo) : ReadsBack spare path shown (fromTable fields) t := by
  refine fromTable_readsBack ?_ (fun _ => rfl) (by decide) ?_
  · intro s h
    cases s
    cases t
    simpa [shown] using h
  · simp only [fields, List.forall_mem_cons]
    refine ⟨Slot.text_readsBack (some ·.alt) ?_ ?_,
      Slot.need_readsBack (Slot.text_readsBack (some ·.src) ?_ ?_),
      Slot.text_readsBack (·.srcDark) ?_ ?_, List.forall_mem_nil _⟩
    all_goals simp [shown, Shown.set]

/-- The logo is read back where at most its empty alternative text is left out. -/
theorem Logo.strict_pruned (t : Logo) {w : Value}
    (hspare : ∀ k v, spare (path ++ [.key k]) v → k = "alt" ∧ v = .string "")
    (h : Pruned spare path t.toToml w) :
    strict "LogoConfig" fields ⟨"", "", none⟩ w = .ok t := by
  cases h with
  | @table _ _ _ rest hfields horder =>
    have hpruned : Pruned spare path (.table t.shown.entries) (.table rest) := .table hfields horder
    refine strictFields_eq_ok (hpruned.restores t.readsBack ?_ ?_) ?_
    · intro k v hk
      obtain ⟨rfl, rfl⟩ := hspare k v hk
      exact List.mem_cons_self
    · intro k hk
      have hdark : k = "src_dark" := by simp_all [shown]
      simp [shown, hdark]
    · have hsrc : "src" ∈ rest.map (·.1) := by
        refine hpruned.mem_keys (v := .string t.src) ?_ ?_
        · simp [Shown.mem_entries, shown]
        · intro hk
          exact absurd (hspare _ _ hk).1 (by decide)
      simpa [fields, Slot.of, Slot.need] using hsrc

theorem Logo.toToml_injective : Function.Injective Logo.toToml := fun _ t h =>
  (@Logo.readsBack (fun _ _ => False) [] t).eq_of_entries (Value.table.inj h)

/-! ## Navbar items -/

namespace NavItem

/-- The kind of item that has a target. -/
def kindFor : NavTarget → Kind
  | .doc _ => .doc
  | .sidebar _ => .docSidebar
  | .link _ => .link

/-- The text of a target of the given kind. -/
def Kind.text? : Kind → NavTarget → Option String
  | .doc, .doc id => some id
  | .docSidebar, .sidebar id => some id
  | .link, .link href => some href
  | _, _ => none

/-- What an item of the given kind shows besides its kind. -/
def content (kind : Kind) (s : NavItem) : Shown :=
  [(kind.targetKey, (kind.text? s.target).map Value.string), ("label", some (.string s.label)),
    ("position", some (.string s.position.name))]

theorem Kind.text?_target (kind : Kind) (text : String) :
    kind.text? (kind.target text) = some text := by
  cases kind <;> rfl

theorem eq_of_text?_eq {s t : NavTarget} (h : (kindFor t).text? s = (kindFor t).text? t) :
    s = t := by
  cases s <;> cases t <;> simp_all [kindFor, Kind.text?]

theorem content_readsBack (t : NavItem) :
    ReadsBack spare path (content (kindFor t.target)) (fromTable (fields (kindFor t.target))) t := by
  have hheld (side : Side) (w : Value) (h : Pruned spare (path ++ [.key "position"])
      (.string side.name) w) : heldChoice Side.choices w = .ok side := by
    rw [h.string_eq]
    cases side <;> rfl
  refine fromTable_readsBack ?_ (fun _ => rfl) ?_ ?_
  · intro s h
    simp only [content, List.cons.injEq, Prod.mk.injEq, Value.map_string_inj, Option.some.injEq,
      Value.scalar.injEq, Toml.Scalar.string.injEq, Side.name_inj, true_and, and_true] at h
    obtain ⟨htext, hlabel, hposition⟩ := h
    have htarget := eq_of_text?_eq htext
    cases s
    cases t
    simp_all
  · cases kindFor t.target <;> decide
  · generalize kindFor t.target = kind
    simp only [fields, List.forall_mem_cons]
    refine ⟨Slot.need_readsBack (Slot.text_readsBack (kind.text? ·.target) ?_ ?_),
      Slot.need_readsBack (Slot.text_readsBack (some ·.label) ?_ ?_),
      Slot.of_readsBack (some ·.position) (.string ·.name) hheld ?_ ?_, List.forall_mem_nil _⟩
    all_goals cases kind <;> simp [content, Shown.set, Kind.targetKey, Kind.text?_target]

theorem Kind.type_not_mem (kind : Kind) : "type" ∉ [kind.targetKey, "label", "position"] := by
  cases kind <;> decide

theorem Kind.text?_kindFor (target : NavTarget) : (kindFor target).text? target ≠ none := by
  cases target <;> exact Option.some_ne_none _

theorem entries_shown (t : NavItem) :
    ∃ tag, kindOf (.string tag) = .ok (kindFor t.target) ∧
      t.shown.entries = ("type", .string tag) :: (content (kindFor t.target) t).entries := by
  obtain ⟨target, label, position⟩ := t
  cases target with
  | doc id => exact ⟨"doc", rfl, rfl⟩
  | sidebar id => exact ⟨"doc_sidebar", rfl, rfl⟩
  | link href => exact ⟨"link", rfl, rfl⟩

/-- The content of an item is read back where at most the left side is left out. -/
theorem ofKind_pruned (t : NavItem) {rest : List (String × Value)}
    (hspare : ∀ k v, spare (path ++ [.key k]) v → k = "position" ∧ v = .string "left")
    (h : Pruned spare path (.table (content (kindFor t.target) t).entries) (.table rest)) :
    ofKind (kindFor t.target) (.table rest) = .ok t := by
  refine strictFields_eq_ok (h.restores t.content_readsBack ?_ ?_) ?_
  · intro k v hk
    obtain ⟨rfl, rfl⟩ := hspare k v hk
    simp [content, Side.name]
  · intro k hk
    obtain ⟨-, hnone⟩ : k = (kindFor t.target).targetKey ∧
        (kindFor t.target).text? t.target = none := by
      simpa [content, eq_comm (a := none)] using hk
    exact absurd hnone (Kind.text?_kindFor t.target)
  · intro f hf hrequired
    obtain ⟨v, hv⟩ : ∃ v, (f.name, some v) ∈ content (kindFor t.target) t := by
      obtain ⟨text, htext⟩ := Option.ne_none_iff_exists'.1 (Kind.text?_kindFor t.target)
      simp only [fields, List.mem_cons, List.not_mem_nil, or_false] at hf
      obtain rfl | rfl | rfl := hf <;> simp [content, Slot.need, Slot.of, htext]
    refine h.mem_keys (Shown.mem_entries.2 hv) ?_
    intro hk
    simp only [fields, List.mem_cons, List.not_mem_nil, or_false] at hf
    have := (hspare _ _ hk).1
    obtain rfl | rfl | rfl := hf
    · revert this
      cases kindFor t.target <;> decide
    · exact absurd this (by decide)
    · cases hrequired

/-- An item is read back where at most the left side is left out. -/
theorem tagged_pruned (t : NavItem) {w : Value}
    (hspare : ∀ k v, spare (path ++ [.key k]) v → k = "position" ∧ v = .string "left")
    (h : Pruned spare path t.toToml w) :
    ∃ rest, tagged w = .ok (kindFor t.target, rest) ∧ ofKind (kindFor t.target) rest = .ok t := by
  obtain ⟨tag, hkind, hentries⟩ := t.entries_shown
  rw [toToml, hentries] at h
  have htype : "type" ∉ (content (kindFor t.target) t).entries.map (·.1) := fun hmem =>
    (kindFor t.target).type_not_mem ((Shown.keys_entries_sublist _).subset hmem)
  cases h with
  | @table _ _ _ entries hfields horder =>
    obtain ⟨w, hw, hfind, hrest⟩ := Pruned.uncons (.table hfields horder)
      (fun hk => absurd (hspare _ _ hk).1 (by decide)) htype
    refine ⟨_, ?_, t.ofKind_pruned hspare hrest⟩
    rw [hw.string_eq] at hfind
    simp only [tagged, fields?, hfind, hkind]
    rfl

theorem listFrom_pruned {index : Nat} (ts : List NavItem) {vs : List Value}
    (hspare : ∀ i k v, spare (path ++ [.item i] ++ [.key k]) v → k = "position" ∧ v = .string "left")
    (h : PrunedItems spare path index (ts.map toToml) vs) : listFrom index vs = .ok ts := by
  induction ts generalizing index vs with
  | nil => cases h; rfl
  | cons t ts ih =>
    cases h with
    | cons head tail =>
      obtain ⟨rest, htagged, hitem⟩ := t.tagged_pruned (hspare index) head
      rw [listFrom, htagged, ih tail]
      simp only [Except.mapError, bind, Except.bind, hitem]
      rfl

theorem toToml_injective : Function.Injective toToml := by
  intro s t h
  obtain ⟨target, label, position⟩ := s
  obtain ⟨target', label', position'⟩ := t
  cases target <;> cases target' <;>
    simp_all [toToml, shown, NavTarget.shown, Shown.entries]

end NavItem

/-! ## The navbar -/

theorem Navbar.readsBack (t : Navbar)
    (hlogo : ∀ k v, spare (path ++ [.key "logo"] ++ [.key k]) v → k = "alt" ∧ v = .string "")
    (hitems : ∀ i k v, spare (path ++ [.key "items"] ++ [.item i] ++ [.key k]) v →
      k = "position" ∧ v = .string "left") :
    ReadsBack spare path shown (fromTable fields) t := by
  refine fromTable_readsBack ?_ (fun _ => rfl) (by decide) ?_
  · intro s h
    cases s
    cases t
    simpa [shown, (Option.map_injective Logo.toToml_injective).eq_iff,
      NavItem.toToml_injective.list_map.eq_iff] using h
  · simp only [fields, List.forall_mem_cons]
    refine ⟨Slot.text_readsBack (·.title) ?_ ?_,
      Slot.of_readsBack (·.logo) Logo.toToml ?_ ?_ ?_,
      Slot.of_readsBack (some ·.items) (fun ts => .array (ts.map NavItem.toToml)) ?_ ?_ ?_,
      List.forall_mem_nil _⟩
    case refine_3 => exact fun logo w h => logo.strict_pruned hlogo h
    case refine_6 =>
      intro ts w h
      cases h with
      | array h => exact NavItem.listFrom_pruned ts hitems h
    all_goals simp [shown, Shown.set]

end

end DocAtlas
