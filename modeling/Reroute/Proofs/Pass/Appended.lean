import Reroute.Proofs.Pass.Firing
import Reroute.Proofs.Pass.Walks

/-!
# Directives behind the end of a pass

Directives that are appended to others come into a pass only when it runs off the end of these. A
rule that ends the pass and a fault both keep it from getting there, however often it was begun anew
before. The budget counts the directives that are appended; but it counts them in favour of the pass,
and one that is over needs no more of it.
-/

namespace Reroute.Pass

variable {directives : List Directive} {path : Text} {c c' : Config} {visits : List Visit}

def Config.append (c : Config) (more : List Directive) : Config :=
  { c with rest := c.rest ++ more }

/-- A pass comes to its end with this report, and this is the last of its firings. -/
def EndsAfter (directives : List Directive) (facts : Facts) (options : Options) (report : Report)
    (f : Firing) : Prop :=
  Report.ofDirectives directives facts options = .ok report ∧
    ∃ visits c, Reaches directives facts visits c ∧ c.rest = [] ∧ report = .ofConfig c ∧
      (firings facts.applicationPath visits).getLast? = some f

theorem step_append (more : List Directive) {d : Directive} {ahead : List Directive}
    (hrest : c.rest = d :: ahead) (hstep : step directives path c = some (.ok c')) :
    (step (directives ++ more) path (c.append more) = some (.ok (c'.append more)) ∧
        ∀ f, Visit.firing? ⟨d, c.state⟩ path = some f → f.rule.flags.stops = false) ∨
      (step (directives ++ more) path (c.append more) = some (.ok c') ∧ c'.rest = [] ∧
        ∃ f, Visit.firing? ⟨d, c.state⟩ path = some f ∧ f.rule.flags.stops = true) := by
  have hrest' : (c.append more).rest = d :: (ahead ++ more) := by
    simp [Config.append, hrest]
  have hstate : (c.append more).state = c.state := rfl
  rw [step_of_rest hrest', hstate]
  obtain ⟨state, hvisit, rfl⟩ | ⟨rule, state, course, rfl, hvisit, rfl⟩ := step_cases hrest hstep
  · refine .inl ⟨by rw [hvisit]; rfl, ?_⟩
    simp [firing?_of_visit_none hvisit]
  · have hvisit' : (Directive.rule rule).visit path c.state = .ok (state, some course) := hvisit
    obtain ⟨groups, hfiring⟩ := exists_firing_rule hvisit
    have hcourse : course =
        if rule.flags.stops then .stop else if rule.flags.next then .restart else .next :=
      Rule.course_of_visit hvisit
    rw [hvisit', hfiring]
    cases hstops : rule.flags.stops with
    | true =>
        rw [if_pos hstops] at hcourse
        subst hcourse
        exact .inr ⟨rfl, rfl, _, rfl, hstops⟩
    | false =>
        refine .inl ⟨?_, by simp [hstops]⟩
        rw [if_neg (by simp [hstops])] at hcourse
        subst hcourse
        -- The pass goes on behind the rule or from the first directive; more are appended to either.
        cases rule.flags.next <;> rfl

/-- Whatever is appended, a pass makes the same visits until a rule ends it, and then it is over. -/
theorem History.append (more : List Directive) (hvisits : History directives path c visits c') :
    (History (directives ++ more) path (c.append more) visits (c'.append more) ∧
        ∀ f ∈ firings path visits, f.rule.flags.stops = false) ∨
      (History (directives ++ more) path (c.append more) visits c' ∧ c'.rest = [] ∧
        ∃ f, (firings path visits).getLast? = some f ∧ f.rule.flags.stops = true) := by
  induction hvisits with
  | nil => exact .inl ⟨.nil, by simp [firings]⟩
  | @snoc visits d ahead c' c'' _ hrest hstep ih =>
      rw [firings_concat]
      obtain ⟨hvisits, hall⟩ | ⟨-, hempty, -⟩ := ih
      · have hrest' : (c'.append more).rest = d :: (ahead ++ more) := by
          simp [Config.append, hrest]
        obtain ⟨hstep', hgoesOn⟩ | ⟨hstep', hempty, f, hfiring, hstops⟩ :=
          step_append more hrest hstep
        · refine .inl ⟨hvisits.snoc hrest' hstep', ?_⟩
          rw [List.forall_mem_append]
          exact ⟨hall, fun f hf => hgoesOn f (by simpa using hf)⟩
        · refine .inr ⟨hvisits.snoc hrest' hstep', hempty, f, ?_, hstops⟩
          simp [hfiring]
      · -- A pass that is over makes no further visit.
        rw [hempty] at hrest
        cases hrest

theorem step_append_of_error (more : List Directive) {e : Evaluation}
    (hfault : step directives path c = some (.error e)) :
    step (directives ++ more) path (c.append more) = some (.error e) := by
  cases hrest : c.rest with
  | nil =>
      rw [step_eq_none_iff.mpr hrest] at hfault
      cases hfault
  | cons d ahead =>
      have hrest' : (c.append more).rest = d :: (ahead ++ more) := by
        simp [Config.append, hrest]
      have hstate : (c.append more).state = c.state := rfl
      rw [step_of_rest hrest] at hfault
      rw [step_of_rest hrest', hstate]
      cases hvisit : d.visit path c.state with
      | error fault => rwa [hvisit] at hfault
      | ok result =>
          obtain ⟨state, course⟩ := result
          cases course <;> simp [hvisit] at hfault

theorem Ends.append_of_error (more : List Directive) {p : Nat} {e : Evaluation}
    (hends : Ends directives path c p (.error e)) :
    Ends (directives ++ more) path (c.append more) p (.error e) := by
  cases hends with
  | fault hvisits hfault =>
      obtain ⟨hvisits', -⟩ | ⟨-, hempty, -⟩ := hvisits.append more
      · exact .fault hvisits' (step_append_of_error more hfault)
      · rw [step_eq_none_iff.mpr hempty] at hfault
        cases hfault

theorem History.ends_append (more : List Directive) (hvisits : History directives path c visits c')
    {f : Firing} (hlast : (firings path visits).getLast? = some f)
    (hstops : f.rule.flags.stops = true) :
    Ends (directives ++ more) path (c.append more) visits.length (.ok c') := by
  obtain ⟨-, hall⟩ | ⟨hvisits', hempty, -⟩ := hvisits.append more
  · have hgoesOn := hall f (List.mem_of_getLast? hlast)
    rw [hstops] at hgoesOn
    cases hgoesOn
  · exact .settled hvisits' (step_eq_none_iff.mpr hempty)

theorem ofDirectives_append_of_ends {directives more : List Directive} {facts : Facts}
    {options : Options} {p : Nat} {result : Except Evaluation Config}
    (hends : Ends directives facts.applicationPath (.start directives facts) p result)
    (hends' : Ends (directives ++ more) facts.applicationPath
      ((Config.start directives facts).append more) p result)
    (hbudget : p ≤ options.budget directives.length) :
    Report.ofDirectives (directives ++ more) facts options =
      Report.ofDirectives directives facts options := by
  have hcount : directives.length ≤ (directives ++ more).length := by
    rw [List.length_append]
    exact Nat.le_add_right _ _
  have hbudget' := Nat.le_trans hbudget (options.budget_mono_count hcount)
  rw [Report.ofDirectives_of_ends hends hbudget, Report.ofDirectives_of_ends hends' hbudget']

/-- **Directives behind the end of a pass are dead.** If the last rule that fires in a pass ends it,
or a fault does, the result is the same with any directives appended, whatever they are, and although
the budget is larger then. -/
theorem ofDirectives_append_eq (directives more : List Directive) (facts : Facts)
    (options : Options)
    (hends : (∃ report f, EndsAfter directives facts options report f ∧
        f.rule.flags.stops = true) ∨
      ∃ e, Report.ofDirectives directives facts options = .error (.evaluation e)) :
    Report.ofDirectives (directives ++ more) facts options =
      Report.ofDirectives directives facts options := by
  rcases hends with ⟨_, f, ⟨hreport, visits, c, hvisits, hrest, -, hlast⟩, hstops⟩ | ⟨e, herror⟩
  · have hsettled : Ends directives facts.applicationPath (.start directives facts) visits.length
        (.ok c) := .settled hvisits (step_eq_none_iff.mpr hrest)
    exact ofDirectives_append_of_ends hsettled (hvisits.ends_append more hlast hstops)
      (Report.length_le_budget hvisits hreport)
  · have hsettled : ∀ p url,
        Report.ofDirectives directives facts options ≠ .error (.unsettled p url) := by
      simp [herror]
    obtain ⟨p, hp, result, hresult⟩ := Report.exists_ends_of_ne_unsettled hsettled
    have hreport := Report.ofDirectives_of_ends hresult hp
    cases result with
    | ok c => simp [herror, Except.map, Except.mapError] at hreport
    | error e' => exact ofDirectives_append_of_ends hresult (hresult.append_of_error more) hp

/-- The first rule begins the pass anew, and the second ends it in the second walk. -/
private def endingRules : List Directive :=
  [.rule (.onChar 1 'a' "/b" ["N"]), .rule (.onChar 2 'b' "/b" ["L"])]

private def endingRequest : Facts where
  url := "/a".toList
  now := ⟨2000, 1, 1, 0, 0, 0⟩

private def uselessRule : Directive :=
  .rule { Rule.onChar 3 'b' "/b" ["S=x"] with pattern := none }

private def endingReport : Report where
  outcome := { action := .transfer "/b".toList, cookies := [], contentType := none }
  fired := [1, 2]
  processed := 3
  restarts := 1

theorem ofDirectives_append_eq_of_useless :
    (∃ f, EndsAfter endingRules endingRequest {} endingReport f ∧ f.rule.flags.stops = true) ∧
      Report.ofDirectives (endingRules ++ [uselessRule]) endingRequest {} = .ok endingReport := by
  have hreport : Report.ofDirectives endingRules endingRequest {} = .ok endingReport := rfl
  have hvisits : Reaches endingRules endingRequest _ _ :=
    .snoc (.snoc (.snoc .nil rfl rfl) rfl rfl) rfl rfl
  have hends : EndsAfter endingRules endingRequest {} endingReport _ :=
    ⟨hreport, _, _, hvisits, rfl, rfl, rfl⟩
  have happended := ofDirectives_append_eq endingRules [uselessRule] endingRequest {}
    (.inl ⟨_, _, hends, rfl⟩)
  exact ⟨⟨_, hends, rfl⟩, happended.trans hreport⟩

end Reroute.Pass
