-- SUMMARY: The settings file of a new site is read as the starter settings, which obey all the rules.
import DocAtlas.Proofs.Settings.UnknownKeys
import DocAtlas.Proofs.Url
import DocAtlas.Scaffold

/-! # Starter settings

The settings file of a new site spells out the defaults, and adds a title, an
origin and two items of the navbar. -/

namespace DocAtlas.Scaffold

/-- The settings of a new site. -/
def starter : Settings where
  site := {
    title := "My Site"
    tagline := "Documentation for my project"
    url := "https://example.com" }
  navbar := {
    title := some "My Site"
    items := [
      { target := .sidebar "docs", label := "Docs" },
      { target := .link "https://github.com", label := "GitHub", position := .right }] }

theorem toList_joined_lines (lines : List String) :
    (String.join (lines.map (· ++ "\n"))).toList = lines.flatMap fun line => line.toList ++ ['\n'] := by
  rw [String.toList_join, List.flatMap_map]
  simp only [String.toList_append]
  rfl

theorem toList_settingsText :
    settingsText.toList = "# docsite configuration file (v0.1.0)\n\n".toList
      ++ sectionLines.flatMap fun line => line.toList ++ ['\n'] := by
  unfold settingsText
  generalize sectionLines = lines
  rw [String.toList_append, toList_joined_lines]

set_option maxRecDepth 100000 in
/-- The text is read and decoded, with no unknown keys. -/
theorem decode_settingsText :
    (Toml.read settingsText).toOption.bind (fun tree => (Settings.decode tree.value).toOption)
      = some (starter, []) := by
  unfold Toml.read
  rw [toList_settingsText]
  decide +kernel

/-- The two addresses in the settings are URLs of the web. -/
theorem isOrigin_starter : Demand.IsOrigin starter.site.url := by
  have hname : Url.IsHostName "example.com".toList := by decide
  exact ⟨⟨'h', by decide, by decide⟩, _, ⟨Url.parse_https hname, .inr rfl, rfl⟩, rfl, rfl, rfl⟩

theorem isHref_starter : Demand.IsHref "https://github.com" := by
  have hname : Url.IsHostName "github.com".toList := by decide
  have hexternal : Link.isExternal "https://github.com" = true := by decide
  rw [Demand.IsHref, if_pos hexternal]
  exact ⟨_, Url.parse_https hname⟩

theorem findings_starter : starter.findings = [] := by
  have hsite : starter.site.findings = [] := by
    rw [SiteInfo.findings, starter.site.urlFindings_judges.eq_nil_iff_met.2 isOrigin_starter]
    decide
  have hitems : NavItem.listFindings 0 starter.navbar.items = [] := by
    have hhref (field : FieldPath) : NavItem.hrefFindings field "https://github.com" = [] :=
      (NavItem.hrefFindings_judges field "https://github.com").eq_nil_iff_met.2 isHref_starter
    simp only [starter, NavItem.listFindings, NavItem.targetFindings, hhref]
    decide
  have hnavbar : starter.navbar.findings = [] := by
    rw [Navbar.findings, hitems]
    decide
  rw [Settings.findings, hsite, hnavbar]
  decide

theorem resolve_settingsText : Settings.resolve settingsText = .ok starter :=
  Settings.resolve_of_decode decode_settingsText findings_starter

end DocAtlas.Scaffold
