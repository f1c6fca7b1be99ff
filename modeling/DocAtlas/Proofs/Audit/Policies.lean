-- SUMMARY: Policies decide exactly: a class fails, is warned about link by link or is counted and passed over, as its policy says.
import DocAtlas.Audit.Policy
import DocAtlas.Proofs.Audit.Grouping
import Mathlib.Data.List.Basic

/-! # What policies decide

The links of a report are counted and listed by different ways through its groups.
Both see the same links, so what the policies make of a report can be said in
terms of the lists of its broken links: one warning for each link in a class with
warnings, and a failure exactly where a class that fails the check has a link. -/

namespace DocAtlas

def Notice.isWarning : Notice → Bool
  | .log tag _ => tag = "warning"
  | _ => false

/-- The number for a class. -/
def BrokenCounts.ofClass (b : BrokenCounts) : LinkClass → Nat
  | .doc => b.doc
  | .markdown => b.markdown

/-! ## Broken links by class -/

theorem LinkClass.mem_all (c : LinkClass) : c ∈ LinkClass.all := by cases c <;> decide

/-- The classes with a policy, in the order of reports. -/
def LinkPolicies.under (policies : LinkPolicies) (p : Policy) : List LinkClass :=
  LinkClass.all.filter (policies.policy · = p)

theorem LinkPolicies.mem_under {policies : LinkPolicies} {p : Policy} {c : LinkClass} :
    c ∈ policies.under p ↔ policies.policy c = p := by
  rw [under, List.mem_filter, decide_eq_true_iff]
  exact and_iff_right c.mem_all

namespace Report

/-- The broken links of some classes with their class and their source. -/
def brokenIn (r : Report) (classes : List LinkClass) : List (LinkClass × String × BrokenLink) :=
  classes.flatMap fun c => (r.links c).map (c, ·)

variable (r : Report) (policies : LinkPolicies)

theorem brokenIn_cons (c : LinkClass) (classes : List LinkClass) :
    r.brokenIn (c :: classes) = (r.links c).map (c, ·) ++ r.brokenIn classes := rfl

theorem countUnder_eq (p : Policy) :
    r.countUnder policies p = (r.brokenIn (policies.under p)).length := by
  have hfold (classes : List LinkClass) (n : Nat) :
      classes.foldl (fun n c => n + r.count c) n = n + (r.brokenIn classes).length := by
    induction classes generalizing n with
    | nil => rfl
    | cons c classes ih =>
      rw [List.foldl_cons, ih, brokenIn_cons, List.length_append, List.length_map, count_eq,
        Nat.add_assoc]
  rw [countUnder, hfold, Nat.zero_add]
  rfl

/-- A class without broken links does not matter. -/
theorem brokenIn_filter_congr {p q : LinkClass → Bool} (classes : List LinkClass)
    (h : ∀ c, r.links c ≠ [] → p c = q c) :
    r.brokenIn (classes.filter p) = r.brokenIn (classes.filter q) := by
  induction classes with
  | nil => rfl
  | cons c classes ih =>
    rw [List.filter_cons, List.filter_cons]
    by_cases hc : r.links c = []
    · have hskip (rest : List LinkClass) : r.brokenIn (c :: rest) = r.brokenIn rest := by
        rw [brokenIn_cons, hc, List.map_nil, List.nil_append]
      split <;> split <;> simp only [hskip, ih]
    · rw [h c hc]
      split
      · rw [brokenIn_cons, brokenIn_cons, ih]
      · exact ih

/-- Each link falls under the policy of its class. -/
theorem length_brokenIn (classes : List LinkClass) :
    (r.brokenIn classes).length
      = (r.brokenIn (classes.filter (policies.policy · = .throw))).length
        + (r.brokenIn (classes.filter (policies.policy · = .warn))).length
        + (r.brokenIn (classes.filter (policies.policy · = .ignore))).length := by
  induction classes with
  | nil => rfl
  | cons c classes ih =>
    cases hpolicy : policies.policy c <;>
      simp only [brokenIn_cons, List.length_append, List.length_map, List.filter_cons, hpolicy,
        reduceCtorEq, decide_true, decide_false, Bool.false_eq_true, if_true, if_false] <;>
      omega

/-! ## Warnings and failures -/

/-- The warning about a broken link. -/
def warningAbout : LinkClass × String × BrokenLink → Notice
  | (c, source, link) =>
    .warning ("broken " ++ c.name ++ " link in " ++ source ++ ": " ++ link.shown)

theorem filter_map_warningAbout (broken : List (LinkClass × String × BrokenLink)) :
    (broken.map warningAbout).filter Notice.isWarning = broken.map warningAbout := by
  rw [List.filter_eq_self]
  intro notice hnotice
  obtain ⟨_, -, rfl⟩ := List.mem_map.1 hnotice
  rfl

theorem flatMap_warnings :
    LinkClass.all.flatMap (r.warnings policies)
      = (r.brokenIn (policies.under .warn)).map warningAbout := by
  have hclasses (classes : List LinkClass) : classes.flatMap (r.warnings policies)
      = (r.brokenIn (classes.filter (policies.policy · = .warn))).map warningAbout := by
    induction classes with
    | nil => rfl
    | cons c classes ih =>
      rw [List.flatMap_cons, ih, List.filter_cons]
      by_cases hwarn : policies.policy c = .warn
      · have hmap : (r.links c).map (warningAbout ∘ (c, ·)) = r.warnings policies c := by
          rw [warnings, if_pos hwarn]
          rfl
        rw [if_pos (decide_eq_true hwarn), brokenIn_cons, List.map_append, List.map_map, hmap]
      · rw [warnings, if_neg hwarn, if_neg (by simpa using hwarn), List.nil_append]
  exact hclasses LinkClass.all

theorem fails_iff (c : LinkClass) :
    r.fails policies c = true ↔ policies.policy c = .throw ∧ r.links c ≠ [] := by
  simp [fails, count_eq]

/-- Whether a class with a broken link has the policy to fail. -/
def Fails : Prop := ∃ c, policies.policy c = .throw ∧ r.links c ≠ []

theorem isEmpty_failing_iff :
    (LinkClass.all.filter (r.fails policies)).isEmpty = true ↔ ¬ r.Fails policies := by
  simp only [List.isEmpty_iff, List.filter_eq_nil_iff, fails_iff, Fails, not_exists]
  exact ⟨fun h c => h c c.mem_all, fun h c _ => h c⟩

theorem length_brokenIn_of_not_fails (h : ¬ r.Fails policies) :
    (r.brokenIn (policies.under .warn)).length + (r.brokenIn (policies.under .ignore)).length
      = (r.brokenIn LinkClass.all).length := by
  have hthrow : r.brokenIn (policies.under .throw) = [] := by
    refine List.flatMap_eq_nil_iff.2 fun c hc => List.map_eq_nil_iff.2 ?_
    by_contra hlinks
    exact h ⟨c, LinkPolicies.mem_under.1 hc, hlinks⟩
  have hsplit : (r.brokenIn LinkClass.all).length = (r.brokenIn (policies.under .throw)).length
      + (r.brokenIn (policies.under .warn)).length + (r.brokenIn (policies.under .ignore)).length :=
    r.length_brokenIn policies LinkClass.all
  rw [hsplit, hthrow, List.length_nil, Nat.zero_add]

theorem apply_of_not_fails (h : ¬ r.Fails policies) :
    r.apply policies = ((r.brokenIn (policies.under .warn)).map warningAbout,
      .ok ⟨(r.brokenIn (policies.under .warn)).length,
        (r.brokenIn (policies.under .ignore)).length⟩) := by
  rw [apply, if_pos ((r.isEmpty_failing_iff policies).2 h), flatMap_warnings, countUnder_eq,
    countUnder_eq]

/-- The number of broken links that a class adds to a failure. -/
def failing (c : LinkClass) : Nat :=
  if policies.policy c = .throw then (r.links c).length else 0

theorem count_of_contains (c : LinkClass) :
    (if (LinkClass.all.filter (r.fails policies)).contains c then r.count c else 0)
      = r.failing policies c := by
  have hcontains : (LinkClass.all.filter (r.fails policies)).contains c = true ↔
      policies.policy c = .throw ∧ r.links c ≠ [] := by
    rw [List.contains_iff_mem, List.mem_filter, fails_iff]
    exact and_iff_right c.mem_all
  by_cases hthrow : policies.policy c = .throw
  · by_cases hlinks : r.links c = []
    · simp [failing, count_eq, hlinks]
    · rw [if_pos (hcontains.2 ⟨hthrow, hlinks⟩), count_eq, failing, if_pos hthrow]
  · rw [if_neg fun h => hthrow (hcontains.1 h).1, failing, if_neg hthrow]

/-- Behind the warnings, a failure prints to the error stream only. -/
theorem apply_of_fails (h : r.Fails policies) :
    ∃ printed : List String, r.apply policies
      = ((r.brokenIn (policies.under .warn)).map warningAbout ++ printed.map .error,
        .error ⟨r.failing policies .doc, r.failing policies .markdown⟩) := by
  have hfailing : ¬ (LinkClass.all.filter (r.fails policies)).isEmpty = true :=
    fun hempty => (r.isEmpty_failing_iff policies).1 hempty h
  refine ⟨(LinkClass.all.filter (r.fails policies)).map r.shown ++ ["\n"], ?_⟩
  rw [apply, if_neg hfailing, flatMap_warnings]
  dsimp only
  rw [count_of_contains, count_of_contains, List.map_append, List.map_map, List.append_assoc]
  rfl

/-! ## The decision -/

/-- The notices and the result are what the policies say about the report. -/
structure Decides (notices : List Notice) (result : Except BrokenCounts PolicyOutcome) : Prop where
  /-- One warning for each link that is warned about, also in a failure. -/
  warnings : notices.filter Notice.isWarning
    = (r.brokenIn (policies.under .warn)).map warningAbout
  error_iff : (∃ b, result = .error b) ↔ r.Fails policies
  failed : ∀ b, result = .error b → ∀ c, b.ofClass c = r.failing policies c
  passed : ∀ o, result = .ok o →
    o.warned = (r.brokenIn (policies.under .warn)).length ∧
      o.ignored = (r.brokenIn (policies.under .ignore)).length ∧
      o.warned + o.ignored = (r.brokenIn LinkClass.all).length

theorem apply_decides : r.Decides policies (r.apply policies).1 (r.apply policies).2 := by
  by_cases h : r.Fails policies
  · obtain ⟨printed, happly⟩ := r.apply_of_fails policies h
    have hprinted : (printed.map Notice.error).filter Notice.isWarning = [] := by
      rw [List.filter_eq_nil_iff]
      intro notice hnotice
      obtain ⟨_, -, rfl⟩ := List.mem_map.1 hnotice
      exact Bool.false_ne_true
    rw [happly]
    refine ⟨?_, iff_of_true ⟨_, rfl⟩ h, ?_, nofun⟩
    · rw [List.filter_append, filter_map_warningAbout, hprinted, List.append_nil]
    · rintro _ ⟨⟩ c
      cases c <;> rfl
  · rw [apply_of_not_fails r policies h]
    refine ⟨filter_map_warningAbout _, iff_of_false nofun h, nofun, ?_⟩
    rintro _ ⟨⟩
    exact ⟨rfl, rfl, r.length_brokenIn_of_not_fails policies h⟩

end Report

/-! ## Policies without failure -/

theorem LinkPolicies.policy_softened (policies : LinkPolicies) (c : LinkClass) :
    policies.softened.policy c = (policies.policy c).softened := by
  cases c <;> rfl

theorem Policy.softened_ne_throw (p : Policy) : p.softened ≠ .throw := by cases p <;> decide

theorem Policy.softened_eq_warn_iff {p : Policy} : p.softened = .warn ↔ p ≠ .ignore := by
  cases p <;> decide

theorem Policy.softened_of_ne_throw {p : Policy} (h : p ≠ .throw) : p.softened = p := by
  cases p with
  | throw => exact absurd rfl h
  | warn | ignore => rfl

namespace Report

variable (r : Report) (policies : LinkPolicies)

theorem not_fails_softened : ¬ r.Fails policies.softened := by
  rintro ⟨c, hthrow, -⟩
  rw [LinkPolicies.policy_softened] at hthrow
  exact Policy.softened_ne_throw _ hthrow

theorem brokenIn_under_softened (h : ¬ r.Fails policies) (p : Policy) :
    r.brokenIn (policies.softened.under p) = r.brokenIn (policies.under p) := by
  refine r.brokenIn_filter_congr LinkClass.all fun c hc => ?_
  have hpolicy : policies.policy c ≠ .throw := fun hthrow => h ⟨c, hthrow, hc⟩
  rw [LinkPolicies.policy_softened, Policy.softened_of_ne_throw hpolicy]

theorem apply_softened_of_not_fails (h : ¬ r.Fails policies) :
    r.apply policies.softened = r.apply policies := by
  rw [apply_of_not_fails r policies h, apply_of_not_fails r _ (r.not_fails_softened policies)]
  simp only [r.brokenIn_under_softened policies h]

/-- One broken Markdown link. -/
def sample : Report := ({} : Report).add .markdown "a.md" ⟨"b.md", some 1, ""⟩

end Report

end DocAtlas
