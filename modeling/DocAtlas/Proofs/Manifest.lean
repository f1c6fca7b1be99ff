-- SUMMARY: The manifest loses nothing: settings, documents and sidebars can be read off its text.
import DocAtlas.Manifest
import DocAtlas.Proofs.Json.Layout
import DocAtlas.Proofs.StringMap
import Mathlib.Data.List.Forall2

/-! # What a manifest determines

The JSON form of each part of a manifest determines the part: optional values
that are `null`, a title that is left out, and sidebar entries that are a bare
text or a tagged object are all told apart. As the text of a JSON value
determines the value, two manifests with one text agree in all that is
published of them. -/

namespace DocAtlas

/-! ## Optional values and lists -/

namespace Json

@[simp] theorem ofOption_inj {a b : Option String} : ofOption a = ofOption b ↔ a = b := by
  cases a <;> cases b <;> simp [ofOption]

@[simp] theorem ofOptionBool_inj {a b : Option Bool} :
    ofOptionBool a = ofOptionBool b ↔ a = b := by
  cases a <;> cases b <;> simp [ofOptionBool]

@[simp] theorem strings_inj {a b : List String} : strings a = strings b ↔ a = b := by
  rw [strings, strings, arr.injEq]
  exact List.map_inj_right fun _ _ => str.inj

end Json

/-! ## Settings -/

@[simp] theorem SiteInfo.toJson_inj {a b : SiteInfo} : a.toJson = b.toJson ↔ a = b := by
  cases a
  cases b
  simp [toJson]

@[simp] theorem Locales.toJson_inj {a b : Locales} : a.toJson = b.toJson ↔ a = b := by
  cases a
  cases b
  simp [toJson]

@[simp] theorem Policy.name_inj {a b : Policy} : a.name = b.name ↔ a = b := by
  cases a <;> cases b <;> simp [name]

@[simp] theorem LinkPolicies.toJson_inj {a b : LinkPolicies} : a.toJson = b.toJson ↔ a = b := by
  cases a
  cases b
  simp [toJson]

@[simp] theorem DocsSection.toJson_inj {a b : DocsSection} : a.toJson = b.toJson ↔ a = b := by
  cases a
  cases b
  simp [toJson]

@[simp] theorem Theme.toJson_inj {a b : Theme} : a.toJson = b.toJson ↔ a = b := by
  cases a
  cases b
  simp [toJson]

@[simp] theorem Logo.toJson_inj {a b : Logo} : a.toJson = b.toJson ↔ a = b := by
  cases a
  cases b
  simp [toJson]

/-- A logo is an object, so that it is never taken for a missing one. -/
theorem Logo.optionToJson_inj {a b : Option Logo} :
    (a.map toJson).getD .null = (b.map toJson).getD .null ↔ a = b := by
  have toJson_ne (logo : Logo) : logo.toJson ≠ .null := by simp [toJson]
  cases a <;> cases b <;> simp [toJson_ne, (toJson_ne _).symm]

@[simp] theorem Side.name_inj {a b : Side} : a.name = b.name ↔ a = b := by
  cases a <;> cases b <;> simp [name]

@[simp] theorem NavItem.toJson_inj {a b : NavItem} : a.toJson = b.toJson ↔ a = b := by
  obtain ⟨s, _, _⟩ := a
  obtain ⟨t, _, _⟩ := b
  -- the second key of a target is another one for each kind
  cases s <;> cases t <;> simp [toJson, NavTarget.toFields]

@[simp] theorem Navbar.toJson_inj {a b : Navbar} : a.toJson = b.toJson ↔ a = b := by
  have hitems {x y : List NavItem} : x.map NavItem.toJson = y.map NavItem.toJson ↔ x = y :=
    List.map_inj_right fun _ _ => NavItem.toJson_inj.1
  cases a
  cases b
  simp [toJson, Logo.optionToJson_inj, hitems]

@[simp] theorem Footer.toJson_inj {a b : Footer} : a.toJson = b.toJson ↔ a = b := by
  cases a
  cases b
  simp [toJson]

theorem StringSet.keys_inj {a b : StringSet} : a.keys = b.keys ↔ a = b := by
  rw [StringMap.keys, StringMap.keys, List.map_inj_right fun _ _ h => Prod.ext h rfl]
  exact StringMap.ext_iff.symm

@[simp] theorem Prism.toJson_inj {a b : Prism} : a.toJson = b.toJson ↔ a = b := by
  cases a
  cases b
  simp [toJson, StringSet.keys_inj]

theorem Settings.toJson_inj {a b : Settings} : a.toJson = b.toJson ↔ a = b := by
  cases a
  cases b
  simp [toJson]

/-! ## Documents -/

/-- Two documents that agree in all that a manifest says of a document. -/
def Document.SamePublished (d e : Document) : Prop :=
  d.id = e.id ∧ d.route = e.route ∧ d.source = e.source ∧ d.title = e.title

theorem Document.toJson_eq_iff {d e : Document} : d.toJson = e.toJson ↔ d.SamePublished e := by
  simp only [toJson, SamePublished]
  cases d.title <;> cases e.title <;> simp

/-! ## Sidebars -/

mutual

theorem SidebarEntry.eq_of_toJson_eq {a b : SidebarEntry} (h : a.toJson = b.toJson) : a = b := by
  match a with
  | .bare _ => cases b <;> simp_all [toJson]
  | .doc _ _ => cases b <;> simp_all [toJson]
  | .link _ _ => cases b <;> simp_all [toJson]
  | .category label page items =>
    cases b with
    | category label' page' items' =>
      simp only [toJson, Json.obj.injEq, List.cons.injEq, Prod.mk.injEq, Json.arr.injEq,
        Json.str.injEq, Json.ofOption_inj, true_and, and_true] at h
      obtain ⟨rfl, rfl, hitems⟩ := h
      rw [eq_of_toJsonList_eq hitems]
    | bare | doc | link => simp [toJson] at h

theorem SidebarEntry.eq_of_toJsonList_eq {a b : List SidebarEntry}
    (h : toJsonList a = toJsonList b) : a = b := by
  match a, b with
  | [], [] => rfl
  | e :: rest, e' :: rest' =>
    rw [toJsonList, toJsonList, List.cons.injEq] at h
    rw [eq_of_toJson_eq h.1, eq_of_toJsonList_eq h.2]
  | [], _ :: _ => simp [toJsonList] at h
  | _ :: _, [] => simp [toJsonList] at h

end

theorem Sidebars.toJson_inj {a b : Sidebars} : a.toJson = b.toJson ↔ a = b := by
  refine ⟨fun h => ?_, fun h => h ▸ rfl⟩
  have hentries : a.all.entries = b.all.entries := by
    refine List.map_inj_right ?_ |>.1 (Json.obj.inj h)
    rintro ⟨id, entries⟩ ⟨id', entries'⟩ he
    obtain ⟨rfl, hitems⟩ := Prod.mk.inj he
    rw [SidebarEntry.eq_of_toJsonList_eq (Json.arr.inj hitems)]
  cases a
  cases b
  rw [mk.injEq]
  exact StringMap.ext hentries

/-! ## Manifests -/

namespace Manifest

theorem toJson_eq_iff {m n : Manifest} :
    m.toJson = n.toJson ↔ m.settings = n.settings ∧
      List.Forall₂ Document.SamePublished m.docs n.docs ∧ m.sidebars = n.sidebars := by
  have hdocs : m.docs.map Document.toJson = n.docs.map Document.toJson ↔
      List.Forall₂ Document.SamePublished m.docs n.docs := by
    rw [← List.forall₂_eq_eq_eq, List.forall₂_map_left_iff, List.forall₂_map_right_iff]
    simp only [Document.toJson_eq_iff]
  simp [toJson, Settings.toJson_inj, Sidebars.toJson_inj, hdocs]

/-- The text of a manifest is indented JSON, and it determines the settings, of each document its
id, route, source and title, and the sidebars. -/
theorem text_lossless :
    (∀ m : Manifest, Json.StartsWithValue 0 m.text.toList m.toJson []) ∧
    ∀ m n : Manifest, m.text = n.text ↔
      m.settings = n.settings ∧
      List.Forall₂ Document.SamePublished m.docs n.docs ∧
      m.sidebars = n.sidebars := by
  refine ⟨fun m => Json.startsWithValue_pretty m.toJson, fun m n => ?_⟩
  rw [← toJson_eq_iff]
  exact Json.pretty_injective.eq_iff

end Manifest

end DocAtlas
