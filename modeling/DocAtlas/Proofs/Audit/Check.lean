-- SUMMARY: When the check of a site passes.
import DocAtlas.Audit.Check
import DocAtlas.Proofs.Audit.Policies
import DocAtlas.Proofs.Catalog.Load

/-! # The check

A check passes exactly when the catalogue can be loaded and no class of links
that fails the check has a broken link. -/

namespace DocAtlas

theorem Told.result_bind {α β : Type} (x : Told α) (f : α → Told β) :
    (x >>= f).result = x.result.bind fun a => (f a).result := by
  change (Told.bind x f).result = _
  unfold Told.bind
  cases x.result <;> rfl

namespace Site

variable {disk : Disk} {site : Site} {lenient : Bool} {catalog : Catalog}

/-- The policies that a check applies. -/
def policies (site : Site) (lenient : Bool) : LinkPolicies :=
  if lenient then site.settings.links.softened else site.settings.links

theorem check_of_load_error {e : Failure} (h : (Catalog.load disk site).result = .error e) :
    (site.check disk lenient).result = .error e := by
  unfold check
  rw [Told.result_bind, h]
  rfl

theorem check_of_load (lenient : Bool) (h : (Catalog.load disk site).result = .ok catalog) :
    (site.check disk lenient).result
      = ((judge (Surroundings.mk site catalog disk).report (site.policies lenient)).result).map
          fun _ => catalog := by
  unfold check policies
  rw [Told.result_bind, h]
  simp only [Except.bind]
  rw [Told.result_bind]
  simp only [Told.tell, Except.bind]
  rw [Told.result_bind]
  cases (judge (Surroundings.mk site catalog disk).report
      (if lenient = true then site.settings.links.softened else site.settings.links)).result with
  | error e => rfl
  | ok outcome =>
    simp only [Except.bind]
    split <;> rfl

/-- A loaded catalogue fails the check by its broken links only. -/
theorem check_error_iff_fails (h : (Catalog.load disk site).result = .ok catalog) :
    (∃ e, (site.check disk lenient).result = .error e) ↔
      (Surroundings.mk site catalog disk).report.Fails (site.policies lenient) := by
  rw [check_of_load lenient h]
  unfold judge
  by_cases hfails : (Surroundings.mk site catalog disk).report.Fails (site.policies lenient)
  · obtain ⟨printed, happly⟩ := Report.apply_of_fails _ _ hfails
    rw [happly]
    exact iff_of_true ⟨_, rfl⟩ hfails
  · rw [Report.apply_of_not_fails _ _ hfails]
    exact iff_of_false nofun hfails

theorem check_eq_ok_iff :
    (site.check disk lenient).result = .ok catalog ↔
      (Catalog.load disk site).result = .ok catalog ∧
        ¬ (Surroundings.mk site catalog disk).report.Fails (site.policies lenient) := by
  cases hload : (Catalog.load disk site).result with
  | error e =>
    rw [check_of_load_error hload]
    simp
  | ok catalog' =>
    have hcheck := check_of_load lenient hload
    constructor
    · intro hok
      have hsame : catalog' = catalog := by
        rw [hok] at hcheck
        cases hjudge : (judge (Surroundings.mk site catalog' disk).report
            (site.policies lenient)).result with
        | error e => rw [hjudge] at hcheck; cases hcheck
        | ok outcome => rw [hjudge] at hcheck; cases hcheck; rfl
      subst hsame
      refine ⟨rfl, fun hfails => ?_⟩
      obtain ⟨e, he⟩ := (check_error_iff_fails hload).2 hfails
      rw [hok] at he
      cases he
    · rintro ⟨hsame, hpasses⟩
      obtain rfl := Except.ok.inj hsame
      rw [hcheck, judge, Report.apply_of_not_fails _ _ hpasses]
      rfl

end Site

end DocAtlas
