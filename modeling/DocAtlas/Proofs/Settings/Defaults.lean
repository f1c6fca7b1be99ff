-- SUMMARY: Settings are read back from any value that leaves out nothing but defaults.
import DocAtlas.Proofs.Settings.Sections
import DocAtlas.Proofs.Settings.Tree

/-! # Defaults

What may be left out of the TOML value of some settings is what a default fills
in: a section, a field of a section, the alternative text of the logo, the side
of a navbar item. However much of that is left out, the settings are read back
as they were, and no key is taken for an unknown one. -/

namespace DocAtlas.Settings

open Toml (Value Step Mismatch Shown Pruned PrunedFields PrunedItems ReadsBack)
open Toml.Decoder

/-! ## What may be left out -/

/-- The path leads to a section or field whose default is the value. -/
inductive IsDefault : (path : List Step) → (v : Value) → Prop where
  | sect {k : String} {v : Value} (h : (k, v) ∈ ({} : Settings).shown.entries) :
      IsDefault [.key k] v
  | field {k k' : String} {fields : List (String × Value)} {v : Value}
      (hsect : (k, .table fields) ∈ ({} : Settings).shown.entries) (h : (k', v) ∈ fields) :
      IsDefault [.key k, .key k'] v
  | alt : IsDefault [.key "navbar", .key "logo", .key "alt"] (.string "")
  | position (index : Nat) :
      IsDefault [.key "navbar", .key "items", .item index, .key "position"] (.string "left")

theorem IsDefault.of_logo {k : String} {v : Value}
    (h : IsDefault [.key "navbar", .key "logo", .key k] v) : k = "alt" ∧ v = .string "" := by
  generalize hpath : [Step.key "navbar", .key "logo", .key k] = path at h
  cases h <;> simp_all

theorem IsDefault.of_item {index : Nat} {k : String} {v : Value}
    (h : IsDefault [.key "navbar", .key "items", .item index, .key k] v) :
    k = "position" ∧ v = .string "left" := by
  generalize hpath : [Step.key "navbar", .key "items", .item index, .key k] = path at h
  cases h <;> simp_all

/-! ## Sections -/

/-- A section takes each pruned form of what some settings show under its key, and the settings at
hand then show the same there. -/
def Section.ReadsBack (sect : Section) : Prop :=
  ∀ (t : Settings) v w, (sect.key, some v) ∈ t.shown → Pruned IsDefault [.key sect.key] v w →
    ∀ s, ∃ s', sect.put w s = .ok (s', []) ∧ s'.shown = s.shown.set sect.key v

theorem Section.of_readsBack {σ : Type} {key name : String} {fields : List (Slot σ)} {start : σ}
    {set : σ → Settings → Settings} {shown : σ → Shown} (get : Settings → σ)
    (hread : ∀ t, Toml.ReadsBack IsDefault [.key key] shown (fromTable fields) t)
    (hunset : ∀ t k, (k, none) ∈ shown t → (k, none) ∈ shown start)
    (hshown : ∀ (t : Settings) v, (key, some v) ∈ t.shown → v = .table (shown (get t)).entries)
    (hset : ∀ a s, (set a s).shown = s.shown.set key (.table (shown a).entries))
    (hstart : get {} = start) :
    (Section.of key name fields start set).ReadsBack := by
  intro t v w hv hpruned s
  obtain rfl := hshown t v hv
  have hspare (k : String) (v : Value) (h : IsDefault [.key key, .key k] v) :
      (k, some v) ∈ shown start := by
    cases h with
    | field hsect h =>
      have := hshown {} _ (Shown.mem_entries.1 hsect)
      rw [hstart, Value.table.injEq] at this
      exact Shown.mem_entries.1 (this ▸ h)
  cases hpruned with
  | @table _ _ _ rest hfields horder =>
    have hrun := Pruned.restores (hread (get t)) hspare (hunset (get t)) (.table hfields horder)
    refine ⟨set (get t) s, ?_, hset (get t) s⟩
    change Except.map _ (fromTable fields rest start) = _
    rw [hrun]
    rfl

theorem sections_readsBack : ∀ sect ∈ sections, sect.ReadsBack := by
  simp only [sections, List.forall_mem_cons]
  refine ⟨Section.of_readsBack (·.site) SiteInfo.readsBack ?site ?_ ?_ rfl,
    Section.of_readsBack (·.i18n) Locales.readsBack ?_ ?_ ?_ rfl,
    Section.of_readsBack (·.links) LinkPolicies.readsBack ?_ ?_ ?_ rfl,
    Section.of_readsBack (·.docs) DocsSection.readsBack ?docs ?_ ?_ rfl,
    Section.of_readsBack (·.theme) Theme.readsBack ?theme ?_ ?_ rfl,
    Section.of_readsBack (·.navbar) (fun t => t.readsBack ?logo ?items) ?navbar ?_ ?_ rfl,
    Section.of_readsBack (·.footer) Footer.readsBack ?_ ?_ ?_ rfl,
    Section.of_readsBack (·.prism) Prism.readsBack ?_ ?_ ?_ rfl, List.forall_mem_nil _⟩
  case logo => exact fun _ _ h => h.of_logo
  case items => exact fun _ _ _ h => h.of_item
  -- what may be unset in these sections is unset by default
  case site | docs | theme | navbar =>
    intro t k h
    simp only [SiteInfo.shown, DocsSection.shown, Theme.shown, Navbar.shown, List.mem_cons,
      Prod.mk.injEq, reduceCtorEq, and_false, Option.map_none, and_true, false_or, or_false,
      List.not_mem_nil] at h ⊢
    tauto
  all_goals
    simp [shown, Shown.set, Locales.shown, LinkPolicies.shown, Footer.shown, Prism.shown]

/-! ## All settings -/

theorem eq_of_shown {s t : Settings} (h : s.shown = t.shown) : s = t := by
  cases s
  cases t
  simp only [shown, List.cons.injEq, Prod.mk.injEq, Option.some.injEq, Value.table.injEq,
    true_and, and_true] at h
  obtain ⟨hsite, hi18n, hlinks, hdocs, htheme, hnavbar, hfooter, hprism⟩ := h
  obtain rfl := (@SiteInfo.readsBack IsDefault [] _).eq_of_entries hsite
  obtain rfl := (@Locales.readsBack IsDefault [] _).eq_of_entries hi18n
  obtain rfl := (@LinkPolicies.readsBack IsDefault [] _).eq_of_entries hlinks
  obtain rfl := (@DocsSection.readsBack IsDefault [] _).eq_of_entries hdocs
  obtain rfl := (@Theme.readsBack IsDefault [] _).eq_of_entries htheme
  obtain rfl := (@Navbar.readsBack IsDefault [.key "navbar"] _ (fun _ _ h => h.of_logo)
    fun _ _ _ h => h.of_item).eq_of_entries hnavbar
  obtain rfl := (@Footer.readsBack IsDefault [] _).eq_of_entries hfooter
  obtain rfl := (@Prism.readsBack IsDefault [] _).eq_of_entries hprism
  rfl

theorem fromEntries_readsBack (t : Settings) :
    Toml.ReadsBack IsDefault [] shown fromEntries t where
  eq_of_shown := fun _ => eq_of_shown
  keys := fun _ => rfl
  nodup := by simp [shown, Shown.keys]
  nil := fun _ => rfl
  cons := by
    intro k v w hv hpruned s rest
    have hk : k ∈ sections.map (·.key) := List.mem_map_of_mem (f := Prod.fst) hv
    obtain ⟨sect, hsect, rfl, hfind⟩ := exists_find?_key hk
    obtain ⟨s', hput, hshown⟩ := sections_readsBack sect hsect t v w hv hpruned s
    refine ⟨s', ?_, hshown⟩
    rw [fromEntries_cons_section hfind, hput]
    simp only [Except.mapError, Except.bind, List.map_nil, List.nil_append]
    cases fromEntries rest s' <;> rfl

/-- Settings are read back from every pruned form of their TOML value, and no key of it is
unknown. -/
theorem decode_pruned {s : Settings} {v : Value} (h : Pruned IsDefault [] s.toToml v) :
    decode v = .ok (s, []) := by
  cases h with
  | @table _ _ _ entries hfields horder =>
    have hpruned : Pruned IsDefault [] (.table s.shown.entries) (.table entries) :=
      .table hfields horder
    refine hpruned.restores s.fromEntries_readsBack ?_ ?_
    · intro k v hdefault
      cases hdefault with
      | sect h => exact Shown.mem_entries.1 h
    · intro k hk
      simp [shown] at hk

/-! ## Settings with few keys -/

/-- Settings with a logo and an item that leave most fields at their defaults. -/
def briefSettings : Settings where
  site := { title := "Atlas", trailingSlash := some true }
  navbar := { logo := some ⟨"", "logo.svg", none⟩, items := [⟨.doc "intro", "Guide", .left⟩] }

/-- A value that declares them, in another order, and leaves out all that it can. -/
def briefTree : Value :=
  .table
    [("navbar", .table
        [("items", .array
            [.table [("label", .string "Guide"), ("doc_id", .string "intro"),
              ("type", .string "doc")]]),
          ("logo", .table [("src", .string "logo.svg")])]),
      ("site", .table [("trailing_slash", .boolean true), ("title", .string "Atlas")])]

theorem briefTree_pruned : Pruned IsDefault [] briefSettings.toToml briefTree := by
  have hsect {k v} (h : (k, some v) ∈ ({} : Settings).shown) : IsDefault [.key k] v :=
    .sect (Shown.mem_entries.2 h)
  have hsite {k v} (h : (k, some v) ∈ SiteInfo.shown {}) : IsDefault [.key "site", .key k] v :=
    .field (Shown.mem_entries.2 List.mem_cons_self) (Shown.mem_entries.2 h)
  refine .table ?_ (List.reverse_perm _)
  refine .keep (.table ?_ (List.reverse_perm _)) ?_
  · refine .keep (.scalar _ _) ?_
    refine .drop (hsite (by simp [SiteInfo.shown, briefSettings])) ?_
    refine .drop (hsite (by simp [SiteInfo.shown, briefSettings])) ?_
    refine .drop (hsite (by simp [SiteInfo.shown, briefSettings])) ?_
    exact .keep (.scalar _ _) (.nil _)
  refine .drop (hsect (by simp [shown, briefSettings])) ?_
  refine .drop (hsect (by simp [shown, briefSettings])) ?_
  refine .drop (hsect (by simp [shown, briefSettings])) ?_
  refine .drop (hsect (by simp [shown, briefSettings])) ?_
  refine .keep (.table ?_ (List.reverse_perm _)) ?_
  · refine .keep (.table (.drop .alt (.keep (.scalar _ _) (.nil _))) (.refl _)) ?_
    refine .keep (.array (.cons (.table ?_ (List.reverse_perm _)) (.nil _ _))) (.nil _)
    refine .keep (.scalar _ _) (.keep (.scalar _ _) (.keep (.scalar _ _) ?_))
    exact .drop (.position 0) (.nil _)
  refine .drop (hsect (by simp [shown, briefSettings])) ?_
  exact .drop (hsect (by simp [shown, briefSettings])) (.nil _)

theorem decode_briefTree :
    Pruned IsDefault [] briefSettings.toToml briefTree ∧
      decode briefTree = .ok (briefSettings, []) :=
  ⟨briefTree_pruned, decode_pruned briefTree_pruned⟩

end DocAtlas.Settings
