-- SUMMARY: The findings about settings name exactly the fields whose demands are not met.
import DocAtlas.Proofs.Settings.FieldPath
import DocAtlas.Proofs.Text
import Mathlib.Data.List.Nodup

/-! # Validation is sound, complete and addressed to fields

Rule after rule, the fields in the findings are the fields of the demands that
fail (`Judges`), which carries over to lists of rules. Since no two demands have
the same field, a field is reported exactly when its own demand fails. -/

namespace DocAtlas

open Text Demand

/-! ## Findings against demands -/

/-- The reported fields are those of the demands that fail. -/
def Judges (findings : List Finding) (demands : List Demand) : Prop :=
  ∀ field, (∃ x ∈ findings, x.field = field) ↔ ∃ d ∈ demands, d.field = field ∧ ¬ d.met

namespace Judges

theorem nil : Judges [] [] := by
  intro field
  simp

theorem append {xs ys : List Finding} {ds es : List Demand} (hxs : Judges xs ds)
    (hys : Judges ys es) : Judges (xs ++ ys) (ds ++ es) := by
  intro field
  simp only [List.mem_append, or_and_right, exists_or, hxs field, hys field]

theorem cons {xs ys : List Finding} {d : Demand} {ds : List Demand} (hxs : Judges xs [d])
    (hys : Judges ys ds) : Judges (xs ++ ys) (d :: ds) :=
  append hxs hys

/-- A rule about one field judges its demand when it finds nothing exactly where that is met. -/
theorem single {xs : List Finding} {field : FieldPath} {met : Prop}
    (hfield : ∀ x ∈ xs, x.field = field) (hmet : xs = [] ↔ met) : Judges xs [⟨field, met⟩] := by
  intro field'
  simp only [List.mem_singleton, exists_eq_left, ← hmet]
  constructor
  · rintro ⟨x, hx, rfl⟩
    exact ⟨(hfield x hx).symm, List.ne_nil_of_mem hx⟩
  · rintro ⟨rfl, hne⟩
    obtain ⟨x, hx⟩ := List.exists_mem_of_ne_nil xs hne
    exact ⟨x, hx, hfield x hx⟩

/-- A rule that complains once unless a condition holds. -/
theorem complaint {ok met : Prop} [Decidable ok] {x : Finding} (h : ok ↔ met) :
    Judges (if ok then [] else [x]) [⟨x.field, met⟩] := by
  refine single (fun y hy => ?_) ?_
  · split at hy
    · cases hy
    · rw [List.mem_singleton.1 hy]
  · rw [← h, ite_eq_left_iff]
    simp

/-- A rule on a value that may be unset asks nothing where it is. -/
theorem option {α : Type} {field : FieldPath} {rule : α → List Finding} {met : α → Prop}
    (h : ∀ a, Judges (rule a) [⟨field, met a⟩]) (o : Option α) :
    Judges ((o.map rule).getD []) [⟨field, ∀ a ∈ o, met a⟩] := by
  cases o with
  | none => exact single (by simp) (by simp)
  | some a => simpa using h a

end Judges

/-! ## Rules on one value -/

namespace Rule

theorem isBlankText_eq_false_iff {value : String} : isBlankText value = false ↔ NonBlank value := by
  simp [isBlankText, NonBlank]

theorem nonBlank_judges (field : FieldPath) (value : String) :
    Judges (nonBlank field value) [⟨field, NonBlank value⟩] := by
  unfold nonBlank
  rw [← ite_not]
  exact Judges.complaint (by rw [Bool.not_eq_true, isBlankText_eq_false_iff])

theorem root_mem_parts_iff {path : List Char} :
    .root ∈ Path.parts path ↔ path.head? = some '/' := by
  have hpieces (pieces : List (List Char)) : .root ∉ pieces.filterMap Path.piece? := by
    simp only [List.mem_filterMap, not_exists, not_and]
    intro piece _ h
    unfold Path.piece? at h
    split at h
    · cases h
    · split at h <;> cases h
  unfold Path.parts
  split
  next => simp
  next hrel =>
    have hhead : path.head? ≠ some '/' := fun h => by
      obtain ⟨rest, rfl⟩ := List.head?_eq_some_iff.1 h
      exact hrel rest rfl
    split
    next => simp [hpieces, hhead]
    next => simp [hpieces, hhead]

theorem findSome?_escape?_eq_none_iff {comps : List Path.Component} :
    comps.findSome? escape? = none ↔ .root ∉ comps ∧ .parent ∉ comps := by
  rw [List.findSome?_eq_none_iff]
  constructor
  · intro h
    refine ⟨fun hroot => ?_, fun hparent => ?_⟩
    · cases h .root hroot
    · cases h .parent hparent
  · rintro ⟨hroot, hparent⟩ comp hcomp
    cases comp with
    | root => exact absurd hcomp hroot
    | parent => exact absurd hcomp hparent
    | here => rfl
    | name text => rfl

theorem relativePath_judges (field : FieldPath) (path : String) :
    Judges (relativePath field path) [⟨field, StaysBelow path⟩] := by
  unfold relativePath StaysBelow
  have habs : .root ∉ Path.components path ↔ Path.isAbsolute path = false := by
    simp [Path.components, root_mem_parts_iff, Path.isAbsolute]
  split
  next h => exact Judges.single (by simp) (by simp [h])
  next h =>
    split
    next reason hreason =>
      refine Judges.single (by simp) ?_
      have hescapes : ¬ (.root ∉ Path.components path ∧ .parent ∉ Path.components path) := by
        rw [← findSome?_escape?_eq_none_iff, hreason]
        simp
      rw [habs] at hescapes
      simp [h, hescapes]
    next hnone =>
      refine Judges.single (by simp) ?_
      rw [findSome?_escape?_eq_none_iff, habs] at hnone
      simp [h, hnone]

theorem webUrl_eq_ok_iff {field : FieldPath} {value : String} {url : Url} :
    webUrl field value = .ok url ↔ IsWebUrl value url := by
  unfold webUrl IsWebUrl
  cases hparse : Url.parse value with
  | error e => simp
  | ok u =>
    simp only [Except.ok.injEq]
    split
    next hscheme =>
      constructor
      · intro h
        cases h
      · rintro ⟨rfl, hweb, -⟩
        rcases hweb with hweb | hweb <;> simp [hweb] at hscheme
    next hscheme =>
      have hweb : u.scheme = "http" ∨ u.scheme = "https" := by
        rw [Decidable.not_and_iff_or_not, Decidable.not_not, Decidable.not_not] at hscheme
        exact hscheme
      split
      next hhost =>
        constructor
        · intro h
          cases h
        · rintro ⟨rfl, -, hsome⟩
          simp [Option.isNone_iff_eq_none.1 hhost] at hsome
      next hhost =>
        constructor
        · intro h
          cases h
          exact ⟨rfl, hweb, by simpa [Option.isSome_iff_ne_none] using hhost⟩
        · rintro ⟨rfl, -, -⟩
          rfl

/-- A text that is no URL of the web makes a finding about its field. -/
theorem webUrl_error {field : FieldPath} {value : String} {xs : List Finding}
    (h : webUrl field value = .error xs) : (∀ x ∈ xs, x.field = field) ∧ xs ≠ [] := by
  unfold webUrl at h
  split at h
  next => cases h; simp
  next =>
    split at h
    next => cases h; simp
    next =>
      split at h
      next => cases h; simp
      next => cases h

theorem isWebUrl_judges (field : FieldPath) (value : String) :
    Judges (isWebUrl field value) [⟨field, ∃ url, IsWebUrl value url⟩] := by
  have hiff : (∃ url, IsWebUrl value url) ↔ ∃ url, webUrl field value = .ok url :=
    exists_congr fun url => webUrl_eq_ok_iff.symm
  unfold isWebUrl
  cases hweb : webUrl field value with
  | error xs =>
    obtain ⟨hfield, hne⟩ := webUrl_error hweb
    exact Judges.single hfield (by simp [hiff, hweb, hne])
  | ok url => exact Judges.single (by simp) (by simp [hiff, hweb])

end Rule

open Rule

/-! ## Site -/

namespace SiteInfo

theorem urlFindings_judges (s : SiteInfo) :
    Judges s.urlFindings [⟨⟨"site.url"⟩, IsOrigin s.url⟩] := by
  simp only [urlFindings, IsOrigin]
  split
  next hblank =>
    have hnot : ¬ NonBlank s.url := by
      rw [← isBlankText_eq_false_iff, hblank]
      simp
    exact Judges.single (by simp) (by simp [hnot])
  next hblank =>
    have hset : NonBlank s.url := isBlankText_eq_false_iff.1 (Bool.not_eq_true _ ▸ hblank)
    split
    next xs hweb =>
      obtain ⟨hfield, hne⟩ := webUrl_error hweb
      have hnot (url : Url) : ¬ IsWebUrl s.url url := by
        rw [← webUrl_eq_ok_iff, hweb]
        simp
      exact Judges.single hfield (by simp [hne, hnot])
    next url hweb =>
      have hurl : IsWebUrl s.url url := webUrl_eq_ok_iff.1 hweb
      have hunique (u : Url) (h : IsWebUrl s.url u) : u = url := by
        have := h.1.symm.trans hurl.1
        exact Except.ok.inj this
      refine Judges.single (fun x hx => ?_) ?_
      · rcases List.mem_append.1 hx with hx | hx <;> split at hx <;> simp_all
      · simp only [List.append_eq_nil_iff, ite_eq_left_iff, ite_eq_right_iff]
        constructor
        · rintro ⟨hpath, htail⟩
          refine ⟨hset, url, hurl, ?_, ?_, ?_⟩
          · simpa using hpath
          · cases hq : url.query <;> simp_all
          · cases hf : url.fragment <;> simp_all
        · rintro ⟨-, u, hu, hpath, hquery, hfragment⟩
          obtain rfl := hunique u hu
          simp [hpath, hquery, hfragment]

theorem isBasePath_iff {base : List Char} : isBasePath base = true ↔ IsBasePath base := by
  simp [isBasePath, IsBasePath, List.singleton_prefix_iff_head?_eq_some,
    List.singleton_suffix_iff_getLast?_eq_some, ← contains_iff, and_assoc]

theorem baseUrlFindings_judges (s : SiteInfo) :
    Judges s.baseUrlFindings [⟨⟨"site.base_url"⟩, IsBasePath s.baseUrl.toList⟩] :=
  Judges.complaint isBasePath_iff

/-- Where only one of organization and project is set, the other one is reported. -/
theorem repositoryFindings_judges (s : SiteInfo) :
    Judges s.repositoryFindings
      [⟨⟨"site.organization"⟩,
         (∀ name ∈ s.organization, NonBlank name) ∧ (s.organization = none → s.project = none)⟩,
       ⟨⟨"site.project"⟩,
         (∀ name ∈ s.project, NonBlank name) ∧ (s.project = none → s.organization = none)⟩] := by
  unfold repositoryFindings
  cases s.organization with
  | none =>
    cases s.project with
    | none =>
      intro field
      simp
    | some project =>
      intro field
      have := nonBlank_judges ⟨"site.project"⟩ project field
      simp_all [or_comm, or_and_right, exists_or]
  | some organization =>
    cases s.project with
    | none =>
      intro field
      have := nonBlank_judges ⟨"site.organization"⟩ organization field
      simp_all [or_and_right, exists_or]
    | some project =>
      simpa using (nonBlank_judges ⟨"site.organization"⟩ organization).append
        (nonBlank_judges ⟨"site.project"⟩ project)

theorem findings_judges (s : SiteInfo) : Judges s.findings s.demands := by
  simp only [findings, List.append_assoc]
  refine (nonBlank_judges _ _).cons <| (nonBlank_judges _ _).cons <| s.urlFindings_judges.cons <|
    s.baseUrlFindings_judges.cons <| Judges.cons ?_ s.repositoryFindings_judges
  exact Judges.option (relativePath_judges _) s.favicon

end SiteInfo

/-! ## Locales -/

namespace Locales

theorem dash_not_mem {part : List Char} (h : ∀ c ∈ part, c.isAlphanum = true) : '-' ∉ part :=
  fun hmem => absurd (h '-' hmem) (by decide)

/-- A code is recognised by the parts between its dashes. -/
theorem isCode_iff {code : String} : isCode code = true ↔ IsLocaleCode code.toList := by
  unfold isCode IsLocaleCode
  constructor
  · intro h
    cases hsplit : splitOn '-' code.toList with
    | nil => exact absurd hsplit (splitOn_ne_nil _ _)
    | cons language parts =>
      refine ⟨language, parts, ?_, ?_⟩
      · rw [← joinWith_cons, ← hsplit, joinWith_splitOn]
      · simpa [hsplit, and_assoc] using h
  · rintro ⟨language, parts, hcode, hmin, hmax, hletters, hparts⟩
    have hsplit : splitOn '-' code.toList = language :: parts := by
      rw [hcode, ← joinWith_cons]
      refine splitOn_joinWith (List.cons_ne_nil _ _) fun piece hpiece => ?_
      rcases List.mem_cons.1 hpiece with rfl | hpiece
      · exact dash_not_mem fun c hc => by simp [Char.isAlphanum, hletters c hc]
      · exact dash_not_mem (hparts piece hpiece).2.2
    rw [hsplit]
    simpa [and_assoc] using ⟨hmin, hmax, hletters, hparts⟩

/-- The locales `done` are behind, and `before` holds the same ones. -/
theorem eachFindings_judges (done before rest : List String)
    (hbefore : ∀ locale, locale ∈ before ↔ locale ∈ done) :
    Judges (eachFindings before done.length rest)
      ((rest.zipIdx done.length).map fun (locale, i) => localeDemand (done ++ rest) locale i) := by
  induction rest generalizing done before with
  | nil => exact Judges.nil
  | cons locale rest ih =>
    rw [eachFindings, List.zipIdx_cons, List.map_cons]
    refine Judges.cons (Judges.single (fun x hx => ?_) ?_) ?_
    · rcases List.mem_append.1 hx with hx | hx <;> split at hx <;> simp_all
    · simp [isCode_iff, hbefore, List.take_left']
    · have hdone : done ++ locale :: rest = (done ++ [locale]) ++ rest := by simp
      have hlength : done.length + 1 = (done ++ [locale]).length := by simp
      rw [hdone, hlength]
      refine ih (done ++ [locale]) (locale :: before) fun l => ?_
      simp [hbefore, or_comm]

theorem defaultFindings_judges (s : Locales) :
    Judges s.defaultFindings [⟨⟨"i18n.default_locale"⟩, NonBlank s.default ∧ s.default ∈ s.all⟩] := by
  simp only [defaultFindings, ← isBlankText_eq_false_iff]
  split
  next hblank => exact Judges.single (by simp) (by simp [hblank])
  next hblank =>
    refine Judges.complaint ?_
    simp [hblank]

theorem findings_judges (s : Locales) : Judges s.findings s.demands := by
  refine Judges.append (Judges.append ?_ ?_) s.defaultFindings_judges
  · rw [← ite_not]
    exact Judges.complaint (by simp)
  · exact eachFindings_judges [] [] s.all fun _ => Iff.rfl

end Locales

/-! ## Documents and theme -/

theorem DocsSection.findings_judges (s : DocsSection) : Judges s.findings s.demands := by
  simp only [findings, List.append_assoc]
  refine (relativePath_judges _ _).cons <| (relativePath_judges _ _).cons <| Judges.cons ?_ ?_
  · exact Judges.complaint (by simp [isRouteSegment, IsRoute, ← contains_iff, and_assoc])
  · exact Judges.option (isWebUrl_judges _) s.editUrl

namespace Theme

theorem staticFindings_judges (index : Nat) (dirs : List String) :
    Judges (staticFindings index dirs)
      ((dirs.zipIdx index).map fun (dir, i) => staticDemand dir i) := by
  induction dirs generalizing index with
  | nil => exact Judges.nil
  | cons dir rest ih => exact (relativePath_judges _ dir).cons (ih (index + 1))

theorem findings_judges (s : Theme) : Judges s.findings s.demands :=
  ((Judges.option (relativePath_judges _) s.customCss).append
    (staticFindings_judges 0 s.staticDirs)).append (relativePath_judges _ s.pages)

end Theme

/-! ## Navbar -/

namespace NavItem

theorem isDocId_iff {id : List Char} : isDocId id = true ↔ IsDocId id := by
  simp [isDocId, IsDocId, List.singleton_prefix_iff_head?_eq_some,
    List.singleton_suffix_iff_getLast?_eq_some, and_assoc]

theorem hrefFindings_judges (field : FieldPath) (href : String) :
    Judges (hrefFindings field href) [⟨field, IsHref href⟩] := by
  unfold hrefFindings IsHref
  split
  next hexternal =>
    cases hparse : Url.parse href with
    | error e => exact Judges.single (by simp) (by simp)
    | ok url => exact Judges.single (by simp) (by simp)
  next hsite => exact Judges.complaint List.singleton_prefix_iff_head?_eq_some.symm

theorem targetFindings_judges (field : FieldPath) (target : NavTarget) :
    Judges (targetFindings field target) [targetDemand field target] := by
  cases target with
  | doc id => exact Judges.complaint isDocId_iff
  | sidebar id => exact nonBlank_judges _ id
  | link href => exact hrefFindings_judges _ href

theorem listFindings_judges (index : Nat) (items : List NavItem) :
    Judges (listFindings index items)
      ((items.zipIdx index).flatMap fun (item, i) => item.demands i) := by
  induction items generalizing index with
  | nil => exact Judges.nil
  | cons item rest ih =>
    rw [listFindings, List.append_assoc]
    exact (nonBlank_judges _ item.label).cons
      ((targetFindings_judges _ item.target).cons (ih (index + 1)))

end NavItem

theorem Navbar.findings_judges (s : Navbar) : Judges s.findings s.demands := by
  have hlogo (logo : Logo) : Judges (nonBlank ⟨"navbar.logo.src"⟩ logo.src)
      [⟨⟨"navbar.logo.src"⟩, NonBlank logo.src⟩] :=
    nonBlank_judges _ logo.src
  exact (Judges.option hlogo s.logo).append (NavItem.listFindings_judges 0 s.items)

/-! ## Highlighting -/

namespace Prism

theorem isName_iff {name : List Char} : isName name = true ↔ IsName name := by
  simp [isName, IsName, or_assoc]

theorem languageFindings_judges (languages : List String) :
    Judges (languages.flatMap languageFindings)
      [⟨⟨"prism.additional_languages"⟩, ∀ language ∈ languages, IsName language.toList⟩] := by
  refine Judges.single (fun x hx => ?_) ?_
  · obtain ⟨language, -, hx⟩ := List.mem_flatMap.1 hx
    unfold languageFindings at hx
    split at hx <;> simp_all
  · simp [languageFindings, isName_iff]

theorem findings_judges (s : Prism) : Judges s.findings s.demands := by
  simp only [findings, List.append_assoc]
  refine Judges.cons ?_ (Judges.cons ?_ (languageFindings_judges _))
  · exact Judges.complaint isName_iff
  · exact Judges.complaint isName_iff

end Prism

theorem Settings.findings_judges (s : Settings) : Judges s.findings s.demands :=
  ((((s.site.findings_judges.append s.i18n.findings_judges).append s.docs.findings_judges).append
    s.theme.findings_judges).append s.navbar.findings_judges).append s.prism.findings_judges

/-! ## All settings -/

theorem Judges.eq_nil_iff {xs : List Finding} {ds : List Demand} (h : Judges xs ds) :
    xs = [] ↔ ∀ d ∈ ds, d.met := by
  constructor
  · rintro rfl d hd
    by_contra hmet
    obtain ⟨x, hx, -⟩ := (h d.field).2 ⟨d, hd, rfl, hmet⟩
    cases hx
  · intro hall
    rw [List.eq_nil_iff_forall_not_mem]
    intro x hx
    obtain ⟨d, hd, -, hmet⟩ := (h x.field).1 ⟨x, hx, rfl⟩
    exact hmet (hall d hd)

theorem Judges.eq_nil_iff_met {xs : List Finding} {field : FieldPath} {met : Prop}
    (h : Judges xs [⟨field, met⟩]) : xs = [] ↔ met := by
  rw [h.eq_nil_iff, List.forall_mem_singleton]

theorem Settings.docs_demands_met {s : Settings} (h : s.findings = []) :
    ∀ d ∈ s.docs.demands, d.met := by
  intro d hd
  refine s.findings_judges.eq_nil_iff.1 h d ?_
  have hprefix : d ∈ s.site.demands ++ s.i18n.demands ++ s.docs.demands :=
    List.mem_append_right _ hd
  exact List.mem_append_left _ (List.mem_append_left _ (List.mem_append_left _ hprefix))

theorem Settings.isBasePath_baseUrl {s : Settings} (h : s.findings = []) :
    IsBasePath s.site.baseUrl.toList := by
  have hmem : ⟨⟨"site.base_url"⟩, IsBasePath s.site.baseUrl.toList⟩ ∈ s.site.demands :=
    .tail _ (.tail _ (.tail _ (.head _)))
  have hall : ⟨⟨"site.base_url"⟩, IsBasePath s.site.baseUrl.toList⟩ ∈ s.demands :=
    List.mem_append_left _ (List.mem_append_left _ (List.mem_append_left _
      (List.mem_append_left _ (List.mem_append_left _ hmem))))
  exact s.findings_judges.eq_nil_iff.1 h _ hall

/-- There are no findings exactly when all demands are met. A field with a demand is reported
exactly when that demand fails, and no other field is reported. -/
theorem Settings.findings_exact (s : Settings) :
    (s.findings = [] ↔ ∀ d ∈ s.demands, d.met) ∧
    (∀ d ∈ s.demands, (∃ x ∈ s.findings, x.field = d.field) ↔ ¬ d.met) ∧
    ∀ x ∈ s.findings, ∃ d ∈ s.demands, d.field = x.field := by
  have hjudges := s.findings_judges
  refine ⟨hjudges.eq_nil_iff, fun d hd => ?_, fun x hx => ?_⟩
  · rw [hjudges d.field]
    constructor
    · rintro ⟨e, he, hfield, hmet⟩
      -- The failing demand at this field is the demand itself.
      have heq : e = d := List.inj_on_of_nodup_map s.nodup_demands_fields he hd hfield
      exact heq ▸ hmet
    · intro hmet
      exact ⟨d, hd, rfl, hmet⟩
  · obtain ⟨d, hd, hfield, -⟩ := (hjudges x.field).1 ⟨x, hx, rfl⟩
    exact ⟨d, hd, hfield⟩

end DocAtlas
