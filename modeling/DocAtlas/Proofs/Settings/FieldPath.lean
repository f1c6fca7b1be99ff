-- SUMMARY: Field paths tell the demands on settings apart: no two demands have the same one.
import DocAtlas.Proofs.Settings.Demand
import Mathlib.Data.List.Basic

/-! # Field paths

The paths of the entries of one list differ in their index. All other paths
differ in their shape, which is what is left of a path without its digits. -/

namespace DocAtlas

open Demand

namespace FieldPath

/-- The text of a path without its digits, the same for all entries of a list. -/
def shape (f : FieldPath) : List Char := f.text.toList.filter (!·.isDigit)

theorem shape_index (f : FieldPath) (i : Nat) : (f.index i).shape = f.shape ++ ['[', ']'] := by
  have hdigits : (Nat.toDigits 10 i).filter (!·.isDigit) = [] := by
    rw [List.filter_eq_nil_iff]
    intro c hc
    simp [Nat.isDigit_of_mem_toDigits (by decide) (by decide) hc]
  have hclose : [']'].filter (!·.isDigit) = [']'] := by decide
  simp [shape, index, hdigits, hclose]

theorem shape_join (f : FieldPath) (key : String) :
    (f.join key).shape = f.shape ++ '.' :: key.toList.filter (!·.isDigit) := by
  simp [shape, join]

theorem index_injective (f : FieldPath) : Function.Injective f.index := by
  intro i j h
  have htext : f.text.toList ++ '[' :: (Nat.toDigits 10 i ++ [']'])
      = f.text.toList ++ '[' :: (Nat.toDigits 10 j ++ [']']) := by
    simpa [index] using congrArg (·.text.toList) h
  have hdigits : Nat.toDigits 10 i = Nat.toDigits 10 j := by simpa using htext
  rw [← Nat.ofDigitChars_toDigits (b := 10) (n := i) (by decide) (by decide), hdigits,
    Nat.ofDigitChars_toDigits (by decide) (by decide)]

theorem join_left_injective {f g : FieldPath} {key : String} (h : f.join key = g.join key) :
    f = g := by
  have htext : f.text.toList ++ '.' :: key.toList = g.text.toList ++ '.' :: key.toList := by
    simpa [join] using congrArg (·.text.toList) h
  have hlist : f.text = g.text := String.toList_inj.1 (by simpa using htext)
  cases f
  cases g
  exact congrArg mk hlist

end FieldPath

/-! ## Demands with different fields -/

/-- No two demands have the same field, and the shapes of the fields are among the given ones. -/
structure Apart (shapes : List (List Char)) (ds : List Demand) : Prop where
  shape_mem : ∀ d ∈ ds, d.field.shape ∈ shapes
  distinct : ds.Pairwise fun a b => a.field ≠ b.field

namespace Apart

theorem append {shapes shapes' : List (List Char)} {ds es : List Demand} (hds : Apart shapes ds)
    (hes : Apart shapes' es) (hdisjoint : ∀ a ∈ shapes, a ∉ shapes') :
    Apart (shapes ++ shapes') (ds ++ es) where
  shape_mem d hd := by
    rw [List.mem_append] at hd ⊢
    exact hd.imp (hds.shape_mem d) (hes.shape_mem d)
  distinct := by
    refine List.pairwise_append.2 ⟨hds.distinct, hes.distinct, fun d hd e he heq => ?_⟩
    refine hdisjoint _ (hds.shape_mem d hd) ?_
    rw [heq]
    exact hes.shape_mem e he

/-- Demands that are written down one by one. -/
theorem ofFields {ds : List Demand} (fields : List FieldPath) (hfields : ds.map (·.field) = fields)
    (h : (fields.map (·.shape)).Nodup) : Apart (fields.map (·.shape)) ds where
  shape_mem d hd := by
    rw [← hfields]
    exact List.mem_map_of_mem (List.mem_map_of_mem hd)
  distinct := by
    rw [← List.pairwise_map (f := Demand.field) (R := (· ≠ ·)), hfields]
    exact (List.pairwise_map.1 h).imp fun hne heq => hne (congrArg _ heq)

/-- Demands on the entries of a list, where those on one entry are apart from each other. -/
theorem ofIndexed {α : Type} {shapes : List (List Char)} (demands : α → Nat → List Demand)
    (hone : ∀ a i, Apart shapes (demands a i))
    (hindex : ∀ a b i j, ∀ d ∈ demands a i, ∀ e ∈ demands b j, d.field = e.field → i = j)
    (xs : List α) : Apart shapes (xs.zipIdx.flatMap fun (a, i) => demands a i) where
  shape_mem d hd := by
    obtain ⟨⟨a, i⟩, -, hd⟩ := List.mem_flatMap.1 hd
    exact (hone a i).shape_mem d hd
  distinct := by
    refine List.pairwise_flatMap.2 ⟨fun ⟨a, i⟩ _ => (hone a i).distinct, ?_⟩
    have hne : xs.zipIdx.Pairwise fun a b => a.2 ≠ b.2 := by
      rw [← List.pairwise_map (f := Prod.snd) (R := (· ≠ ·)), List.zipIdx_map_snd]
      exact List.nodup_range'
    refine hne.imp fun {a b} hab d hd e he heq => hab ?_
    exact hindex a.1 b.1 a.2 b.2 d hd e he heq

/-- One demand on each entry of the list at `field`. -/
theorem ofEntries {α : Type} (field : FieldPath) (met : α → Nat → Prop) (xs : List α) :
    Apart [(field.index 0).shape] (xs.zipIdx.map fun (a, i) => ⟨field.index i, met a i⟩) := by
  rw [List.map_eq_flatMap]
  refine ofIndexed (fun a i => [⟨field.index i, met a i⟩]) (fun a i => ⟨?_, ?_⟩) ?_ xs
  · simp [FieldPath.shape_index]
  · exact List.pairwise_singleton _ _
  · intro a b i j d hd e he heq
    rw [List.mem_singleton.1 hd, List.mem_singleton.1 he] at heq
    exact field.index_injective heq

end Apart

/-! ## Sections -/

namespace SiteInfo

def fieldPaths : List FieldPath :=
  [⟨"site.title"⟩, ⟨"site.tagline"⟩, ⟨"site.url"⟩, ⟨"site.base_url"⟩, ⟨"site.favicon"⟩,
   ⟨"site.organization"⟩, ⟨"site.project"⟩]

theorem demands_apart (s : SiteInfo) : Apart (fieldPaths.map (·.shape)) s.demands :=
  Apart.ofFields fieldPaths rfl (by decide)

end SiteInfo

namespace Locales

/-- The index stands for any other. -/
def fieldPaths : List FieldPath :=
  [⟨"i18n.locales"⟩, .index ⟨"i18n.locales"⟩ 0, ⟨"i18n.default_locale"⟩]

theorem demands_apart (s : Locales) : Apart (fieldPaths.map (·.shape)) s.demands := by
  have hall : Apart _ [⟨⟨"i18n.locales"⟩, s.all ≠ []⟩] :=
    Apart.ofFields [⟨"i18n.locales"⟩] rfl (by decide)
  have heach : Apart _ (s.all.zipIdx.map fun e => localeDemand s.all e.1 e.2) :=
    Apart.ofEntries ⟨"i18n.locales"⟩ (fun locale i => IsLocaleCode locale.toList ∧ locale ∉ s.all.take i)
      s.all
  have hdefault : Apart _ [⟨⟨"i18n.default_locale"⟩, NonBlank s.default ∧ s.default ∈ s.all⟩] :=
    Apart.ofFields [⟨"i18n.default_locale"⟩] rfl (by decide)
  exact (hall.append heach (by decide)).append hdefault (by decide)

end Locales

namespace DocsSection

def fieldPaths : List FieldPath :=
  [⟨"docs.path"⟩, ⟨"docs.sidebar"⟩, ⟨"docs.route_base_path"⟩, ⟨"docs.edit_url"⟩]

theorem demands_apart (s : DocsSection) : Apart (fieldPaths.map (·.shape)) s.demands :=
  Apart.ofFields fieldPaths rfl (by decide)

end DocsSection

namespace Theme

def fieldPaths : List FieldPath :=
  [⟨"theme.custom_css"⟩, .index ⟨"theme.static_dirs"⟩ 0, ⟨"theme.pages"⟩]

theorem demands_apart (s : Theme) : Apart (fieldPaths.map (·.shape)) s.demands := by
  have hcss : Apart _ [⟨⟨"theme.custom_css"⟩, ∀ path ∈ s.customCss, StaysBelow path⟩] :=
    Apart.ofFields [⟨"theme.custom_css"⟩] rfl (by decide)
  have hstatic : Apart _ (s.staticDirs.zipIdx.map fun e => staticDemand e.1 e.2) :=
    Apart.ofEntries ⟨"theme.static_dirs"⟩ (fun dir _ => StaysBelow dir) s.staticDirs
  have hpages : Apart _ [⟨⟨"theme.pages"⟩, StaysBelow s.pages⟩] :=
    Apart.ofFields [⟨"theme.pages"⟩] rfl (by decide)
  exact (hcss.append hstatic (by decide)).append hpages (by decide)

end Theme

namespace NavItem

/-- The keys of an item that a demand can be about. -/
def keys : List String := ["label", "doc_id", "sidebar_id", "href"]

theorem field_of_mem_demands {item : NavItem} {i : Nat} {d : Demand} (h : d ∈ item.demands i) :
    ∃ key ∈ keys, d.field = (FieldPath.index ⟨"navbar.items"⟩ i).join key := by
  simp only [demands, List.mem_cons, List.not_mem_nil, or_false] at h
  rcases h with rfl | rfl
  · exact ⟨"label", by decide, rfl⟩
  · cases item.target with
    | doc id => exact ⟨"doc_id", by decide, rfl⟩
    | sidebar id => exact ⟨"sidebar_id", by decide, rfl⟩
    | link href => exact ⟨"href", by decide, rfl⟩

def fieldPaths : List FieldPath := keys.map (FieldPath.index ⟨"navbar.items"⟩ 0).join

theorem shape_join_index (i : Nat) (key : String) :
    ((FieldPath.index ⟨"navbar.items"⟩ i).join key).shape =
      ((FieldPath.index ⟨"navbar.items"⟩ 0).join key).shape := by
  rw [FieldPath.shape_join, FieldPath.shape_join, FieldPath.shape_index, FieldPath.shape_index]

theorem join_index_injective {i j : Nat} {key key' : String} (hkey : key ∈ keys)
    (hkey' : key' ∈ keys)
    (h : (FieldPath.index ⟨"navbar.items"⟩ i).join key =
      (FieldPath.index ⟨"navbar.items"⟩ j).join key') : key = key' ∧ i = j := by
  have hshape := congrArg FieldPath.shape h
  rw [shape_join_index i, shape_join_index j] at hshape
  have hdistinct : ∀ k ∈ keys, ∀ k' ∈ keys,
      ((FieldPath.index ⟨"navbar.items"⟩ 0).join k).shape =
        ((FieldPath.index ⟨"navbar.items"⟩ 0).join k').shape → k = k' := by
    decide
  have hkeys : key = key' := hdistinct key hkey key' hkey' hshape
  subst hkeys
  exact ⟨rfl, FieldPath.index_injective _ (FieldPath.join_left_injective h)⟩

theorem demands_apart (items : List NavItem) :
    Apart (fieldPaths.map (·.shape)) (items.zipIdx.flatMap fun (item, i) => item.demands i) := by
  refine Apart.ofIndexed demands (fun item i => ⟨fun d hd => ?_, ?_⟩) ?_ items
  · obtain ⟨key, hkey, hfield⟩ := field_of_mem_demands hd
    rw [hfield, shape_join_index]
    exact List.mem_map_of_mem (List.mem_map_of_mem hkey)
  · refine List.pairwise_pair.2 fun heq => ?_
    cases htarget : item.target with
    | doc id =>
      rw [htarget] at heq
      exact absurd (join_index_injective (by decide) (by decide) heq).1 (by decide)
    | sidebar id =>
      rw [htarget] at heq
      exact absurd (join_index_injective (by decide) (by decide) heq).1 (by decide)
    | link href =>
      rw [htarget] at heq
      exact absurd (join_index_injective (by decide) (by decide) heq).1 (by decide)
  · intro a b i j d hd e he heq
    obtain ⟨key, hkey, hd⟩ := field_of_mem_demands hd
    obtain ⟨key', hkey', he⟩ := field_of_mem_demands he
    rw [hd, he] at heq
    exact (join_index_injective hkey hkey' heq).2

end NavItem

namespace Navbar

def fieldPaths : List FieldPath := ⟨"navbar.logo.src"⟩ :: NavItem.fieldPaths

theorem demands_apart (s : Navbar) : Apart (fieldPaths.map (·.shape)) s.demands := by
  have hlogo : Apart _ [⟨⟨"navbar.logo.src"⟩, ∀ logo ∈ s.logo, NonBlank logo.src⟩] :=
    Apart.ofFields [⟨"navbar.logo.src"⟩] rfl (by decide)
  exact hlogo.append (NavItem.demands_apart s.items) (by decide)

end Navbar

namespace Prism

def fieldPaths : List FieldPath :=
  [⟨"prism.theme"⟩, ⟨"prism.dark_theme"⟩, ⟨"prism.additional_languages"⟩]

theorem demands_apart (s : Prism) : Apart (fieldPaths.map (·.shape)) s.demands :=
  Apart.ofFields fieldPaths rfl (by decide)

end Prism

/-- No two demands on settings have the same field. -/
theorem Settings.nodup_demands_fields (s : Settings) : (s.demands.map (·.field)).Nodup := by
  have hapart := ((((s.site.demands_apart.append s.i18n.demands_apart (by decide)).append
    s.docs.demands_apart (by decide)).append s.theme.demands_apart (by decide)).append
    s.navbar.demands_apart (by decide)).append s.prism.demands_apart (by decide)
  exact List.pairwise_map.2 hapart.distinct

end DocAtlas
