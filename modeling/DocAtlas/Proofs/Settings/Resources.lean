-- SUMMARY: The paths that accepted settings name lie below the root of the site, and seen from there they are as written.
import DocAtlas.Proofs.Path
import DocAtlas.Proofs.Settings.Validation
import DocAtlas.Site.Basic

/-! # Resources of a site

The settings name files and directories that are taken from the root of the site.
Where the settings are accepted, none of these paths leads out of the root,
however the root and the path are spelled. -/

namespace DocAtlas

namespace Settings

variable {s : Settings}

/-- The files and directories that the settings name. -/
def resourcePaths (s : Settings) : List String :=
  [s.docs.path, s.docs.sidebar, s.theme.pages] ++ s.theme.customCss.toList ++ s.site.favicon.toList
    ++ s.theme.staticDirs

theorem theme_demands_met (h : s.findings = []) : ∀ d ∈ s.theme.demands, d.met := fun d hd =>
  s.findings_judges.eq_nil_iff.1 h d (by simp [demands, hd])

theorem staysBelow_of_mem_resourcePaths (h : s.findings = []) {path : String}
    (hpath : path ∈ s.resourcePaths) : Demand.StaysBelow path := by
  have hicon : ∀ path ∈ s.site.favicon, Demand.StaysBelow path :=
    s.findings_judges.eq_nil_iff.1 h ⟨⟨"site.favicon"⟩, _⟩ (by simp [demands, SiteInfo.demands])
  have hdocs : ∀ path ∈ [s.docs.path, s.docs.sidebar], Demand.StaysBelow path := by
    have hmet := docs_demands_met h
    simp only [DocsSection.demands, List.forall_mem_cons] at hmet ⊢
    exact ⟨hmet.1, hmet.2.1, by simp⟩
  have htheme := theme_demands_met h
  simp only [Theme.demands, List.mem_append, or_imp, forall_and, List.forall_mem_singleton,
    List.forall_mem_map] at htheme
  obtain ⟨⟨hcss, hstatic⟩, hpages⟩ := htheme
  simp only [resourcePaths, List.mem_append, List.mem_cons, List.not_mem_nil, or_false,
    Option.mem_toList] at hpath
  rcases hpath with (((rfl | rfl | rfl) | hpath) | hpath) | hpath
  · exact hdocs _ (by simp)
  · exact hdocs _ (by simp)
  · exact hpages
  · exact hcss path hpath
  · exact hicon path hpath
  · obtain ⟨i, hi⟩ := List.mem_iff_getElem?.1 hpath
    exact hstatic (path, i) (List.mk_mem_zipIdx_iff_getElem?.2 hi)

end Settings

namespace Site

variable {site : Site} {path : String}

/-- A path that accepted settings name is cleaned to the root with the names of the path behind it,
and seen from the root it is the path again. -/
theorem resources_below_root (hsettings : site.settings.findings = [])
    (hroot : Path.isAbsolute site.root = true) (hup : .parent ∉ Path.components site.root)
    (hpath : path ∈ site.settings.resourcePaths) :
    (∃ target, Path.clean (site.join path) = some target ∧
      Path.components target = Path.components site.root ++ (Path.names path).map .name) ∧
    Path.toSlash (site.relative (site.join path)) = Path.toSlash path := by
  obtain ⟨-, hrelative, hparent⟩ := Settings.staysBelow_of_mem_resourcePaths hsettings hpath
  have hcomps : Path.components (site.join path)
      = Path.components site.root ++ (Path.names path).map .name := by
    rw [join, Path.components_join hroot hrelative, Path.inner_eq_names hparent]
  constructor
  · have hnames : Path.components (site.join path)
        = .root :: (Path.names site.root ++ Path.names path).map .name := by
      rw [hcomps, Path.components_of_isAbsolute hroot, Path.inner_eq_names hup, List.map_append,
        List.cons_append]
    obtain ⟨target, hclean, htarget⟩ := Path.clean_of_names hnames
    exact ⟨target, hclean, htarget.trans hcomps⟩
  · have hseen : Path.components (site.relative (site.join path)) = (Path.names path).map .name :=
      Path.components_relativeTo hroot (Path.isAbsolute_join hroot) hcomps
    have hnames : Path.names (site.relative (site.join path)) = Path.names path := by
      rw [Path.names, hseen]
      simp [List.filterMap_map]
    rw [Path.toSlash, hnames, Path.toSlash]

/-- Paths with repeated and trailing slashes, and with dots at the start and inside. -/
def spelledSite : Site where
  settings := {
    site := { title := "t", tagline := "t", url := "http://[::]", favicon := some "././/f.ico" }
    docs := { path := ".//x/./y/", sidebar := "s..t/." }
    theme := { customCss := some "...", staticDirs := [".", "a//b"] } }
  root := "/r//./s/"

theorem resources_below_root_spelled :
    spelledSite.settings.findings = [] ∧ Path.isAbsolute spelledSite.root = true ∧
      .parent ∉ Path.components spelledSite.root ∧
      ".//x/./y/" ∈ spelledSite.settings.resourcePaths ∧
      (∃ target, Path.clean (spelledSite.join ".//x/./y/") = some target ∧
        Path.components target
          = Path.components spelledSite.root ++ (Path.names ".//x/./y/").map .name) ∧
      Path.toSlash (spelledSite.relative (spelledSite.join ".//x/./y/")) = Path.toSlash ".//x/./y/" := by
  have hsettings : spelledSite.settings.findings = [] := by decide
  have hroot : Path.isAbsolute spelledSite.root = true := by decide
  have hup : .parent ∉ Path.components spelledSite.root := by decide
  have hpath : ".//x/./y/" ∈ spelledSite.settings.resourcePaths := by decide
  exact ⟨hsettings, hroot, hup, hpath, resources_below_root hsettings hroot hup hpath⟩

end Site

end DocAtlas
