import Mathlib.Algebra.Group.Nat.Defs
import Reroute.Proofs.Pass.History
import Reroute.Report

/-!
# What a budget does to a pass

A pass without a budget ends or goes on for ever. With a budget it has the same result if it ends
within it, and otherwise it fails at the point that the budget takes it to: a budget cuts a pass
short and changes nothing else.
-/

namespace Reroute

open Pass

namespace Pass

variable {directives : List Directive} {path : Text} {c c' : Config} {visits : List Visit}

/-- A pass without a budget ends after so many visits, with this result. Either nothing is left to
visit, or the last of the visits ends in a fault. -/
inductive Ends (directives : List Directive) (path : Text) (c : Config) :
    Nat → Except Evaluation Config → Prop
  | settled {visits : List Visit} {c' : Config} (hvisits : History directives path c visits c')
      (hsettled : step directives path c' = none) :
      Ends directives path c visits.length (.ok c')
  | fault {visits : List Visit} {c' : Config} {e : Evaluation}
      (hvisits : History directives path c visits c')
      (hfault : step directives path c' = some (.error e)) :
      Ends directives path c (visits.length + 1) (.error e)

theorem run_of_settled (hsettled : step directives path c = none) (budget : Nat) :
    run directives path budget c = .ok c := by
  cases budget with
  | zero => simp [run, step_eq_none_iff.mp hsettled]
  | succ budget => rw [run, hsettled]

theorem Ends.run_eq {p budget : Nat} {result : Except Evaluation Config}
    (hends : Ends directives path c p result) (hbudget : p ≤ budget) :
    run directives path budget c = result.mapError .evaluation := by
  obtain ⟨left, rfl⟩ := Nat.exists_eq_add_of_le hbudget
  cases hends with
  | settled hvisits hsettled =>
      rw [hvisits.run_add, run_of_settled hsettled]
      rfl
  | fault hvisits hfault =>
      rw [Nat.add_assoc, hvisits.run_add, Nat.add_comm 1 left, run, hfault]
      rfl

theorem Ends.processed_eq {p : Nat} (hends : Ends directives path c p (.ok c')) :
    c'.processed = c.processed + p := by
  cases hends with
  | settled hvisits _ => exact hvisits.processed_eq

theorem exists_history_of_not_ends (n : Nat)
    (hends : ¬ ∃ p ≤ n, ∃ result, Ends directives path c p result) :
    ∃ visits c', History directives path c visits c' ∧ visits.length = n ∧ c'.rest ≠ [] := by
  induction n with
  | zero =>
      refine ⟨[], c, .nil, rfl, fun hrest => hends ?_⟩
      exact ⟨0, Nat.le_refl _, .ok c, .settled .nil (step_eq_none_iff.mpr hrest)⟩
  | succ n ih =>
      obtain ⟨visits, c', hvisits, hlength, hrest⟩ :=
        ih fun ⟨p, hp, hresult⟩ => hends ⟨p, by omega, hresult⟩
      obtain ⟨d, ahead, hahead⟩ := List.exists_cons_of_ne_nil hrest
      cases hstep : step directives path c' with
      | none => exact absurd (step_eq_none_iff.mp hstep) hrest
      | some result =>
          cases result with
          | error e =>
              have hfault : Ends directives path c (n + 1) (.error e) :=
                hlength ▸ .fault hvisits hstep
              exact (hends ⟨n + 1, Nat.le_refl _, _, hfault⟩).elim
          | ok c'' =>
              have hvisits' := hvisits.snoc hahead hstep
              have hlength' : (visits ++ [(⟨d, c'.state⟩ : Visit)]).length = n + 1 := by
                simp [hlength]
              refine ⟨_, c'', hvisits', hlength', fun hrest' => hends ?_⟩
              have hsettled : Ends directives path c (n + 1) (.ok c'') :=
                hlength' ▸ .settled hvisits' (step_eq_none_iff.mpr hrest')
              exact ⟨n + 1, Nat.le_refl _, _, hsettled⟩

theorem History.run_length (hvisits : History directives path c visits c')
    (hrest : c'.rest ≠ []) :
    run directives path visits.length c =
      .error (.unsettled (c.processed + visits.length) c'.state.url) := by
  have hrun := hvisits.run_add 0
  rw [Nat.add_zero] at hrun
  rw [hrun, run, if_neg (by simpa using hrest), hvisits.processed_eq]

theorem History.run_of_lt (hvisits : History directives path c visits c') {budget : Nat}
    (hbudget : budget < visits.length) :
    ∃ url, run directives path budget c = .error (.unsettled (c.processed + budget) url) := by
  induction hvisits with
  | nil => simp at hbudget
  | @snoc visits d ahead c' c'' hvisits hrest _ ih =>
      rw [List.length_append, List.length_singleton] at hbudget
      by_cases hlast : budget = visits.length
      · subst hlast
        exact ⟨_, hvisits.run_length (by simp [hrest])⟩
      · exact ih (by omega)

theorem next_of_visit_restart {r : Rule} {state state' : State}
    (hvisit : r.visit path state = .ok (state', some .restart)) : r.flags.next = true := by
  have hcourse := Rule.course_of_visit hvisit
  split_ifs at hcourse
  assumption

/-- As long as no rule begins the pass anew, every visit brings its end nearer. -/
theorem History.length_add_rest_le (hvisits : History directives path c visits c')
    (hnext : ∀ v ∈ visits, ∀ r, v.Fires path r → r.flags.next = false) :
    visits.length + c'.rest.length ≤ c.rest.length := by
  induction hvisits with
  | nil => simp
  | @snoc visits d ahead c' c'' _ hrest hstep ih =>
      have hbefore := ih fun v hv => hnext v (List.mem_append_left _ hv)
      have hlast := hnext ⟨d, c'.state⟩ (List.mem_append_right _ (List.mem_singleton_self _))
      have hafter : c''.rest.length ≤ ahead.length := by
        obtain ⟨state, _, rfl⟩ | ⟨rule, state, course, rfl, hvisit, rfl⟩ := step_cases hrest hstep
        · exact Nat.le_refl _
        · cases course with
          | next => exact Nat.le_refl _
          | stop => exact Nat.zero_le _
          | restart =>
              have hflag := hlast rule ⟨rfl, state, _, hvisit⟩
              rw [next_of_visit_restart hvisit] at hflag
              cases hflag
      rw [hrest, List.length_cons] at hbefore
      rw [List.length_append, List.length_singleton]
      omega

end Pass

namespace Options

theorem budget_eq (options : Options) (count : Nat) :
    options.budget count = min (max count 1 * max options.maxPasses 1) (2 ^ 64 - 1) := by
  have hbound : Count.bound = 2 ^ 64 := by decide
  rw [budget, Count.product, hbound]

theorem le_budget (options : Options) {count : Nat} (hcount : count < 2 ^ 64) :
    count ≤ options.budget count := by
  have hwalk : max count 1 * 1 ≤ max count 1 * max options.maxPasses 1 :=
    Nat.mul_le_mul_left _ (Nat.le_max_right _ _)
  rw [budget_eq]
  omega

theorem budget_mono {options more : Options} (hmore : options.maxPasses ≤ more.maxPasses)
    (count : Nat) : options.budget count ≤ more.budget count := by
  have hpasses : max options.maxPasses 1 ≤ max more.maxPasses 1 := by omega
  have hproduct : max count 1 * max options.maxPasses 1 ≤ max count 1 * max more.maxPasses 1 :=
    Nat.mul_le_mul_left _ hpasses
  rw [budget_eq, budget_eq]
  omega

theorem budget_mono_count (options : Options) {count count' : Nat} (hcount : count ≤ count') :
    options.budget count ≤ options.budget count' := by
  have hwalk : max count 1 ≤ max count' 1 := by omega
  have hproduct : max count 1 * max options.maxPasses 1 ≤ max count' 1 * max options.maxPasses 1 :=
    Nat.mul_le_mul_right _ hwalk
  rw [budget_eq, budget_eq]
  omega

end Options

namespace Report

variable {directives : List Directive} {facts : Facts} {options : Options}

theorem ofDirectives_of_ends {p : Nat} {result : Except Evaluation Config}
    (hends : Ends directives facts.applicationPath (.start directives facts) p result)
    (hbudget : p ≤ options.budget directives.length) :
    ofDirectives directives facts options = (result.map ofConfig).mapError .evaluation := by
  rw [ofDirectives, hends.run_eq hbudget]
  cases result <;> rfl

theorem ofDirectives_of_not_ends
    (hends : ¬ ∃ p ≤ options.budget directives.length, ∃ result,
      Ends directives facts.applicationPath (.start directives facts) p result) :
    ∃ visits c, Reaches directives facts visits c ∧
      visits.length = options.budget directives.length ∧ c.rest ≠ [] ∧
      ofDirectives directives facts options =
        .error (.unsettled (options.budget directives.length) c.state.url) := by
  obtain ⟨visits, c, hvisits, hlength, hrest⟩ := exists_history_of_not_ends _ hends
  refine ⟨visits, c, hvisits, hlength, hrest, ?_⟩
  rw [ofDirectives, ← hlength, hvisits.run_length hrest]
  simp [Except.map, Config.start]

theorem ofDirectives_cases (directives : List Directive) (facts : Facts) (options : Options) :
    (∃ visits c, Reaches directives facts visits c ∧ c.rest = [] ∧
      ofDirectives directives facts options = .ok (ofConfig c)) ∨
    (∃ visits c e, Reaches directives facts visits c ∧
      step directives facts.applicationPath c = some (.error e) ∧
      ofDirectives directives facts options = .error (.evaluation e)) ∨
    ∃ p url, ofDirectives directives facts options = .error (.unsettled p url) := by
  by_cases hends : ∃ p ≤ options.budget directives.length, ∃ result,
      Ends directives facts.applicationPath (.start directives facts) p result
  · obtain ⟨p, hp, result, hresult⟩ := hends
    have hreport := ofDirectives_of_ends hresult hp
    cases hresult with
    | @settled visits c hvisits hsettled =>
        exact .inl ⟨visits, c, hvisits, step_eq_none_iff.mp hsettled, hreport⟩
    | @fault visits c e hvisits hfault =>
        exact .inr (.inl ⟨visits, c, e, hvisits, hfault, hreport⟩)
  · obtain ⟨_, _, _, _, _, hunsettled⟩ := ofDirectives_of_not_ends hends
    exact .inr (.inr ⟨_, _, hunsettled⟩)

theorem reaches_of_ofDirectives {report : Report}
    (hreport : ofDirectives directives facts options = .ok report) :
    ∃ visits c, Reaches directives facts visits c ∧ c.rest = [] ∧ report = ofConfig c := by
  obtain ⟨visits, c, hvisits, hrest, hok⟩ | ⟨_, _, _, _, _, herror⟩ | ⟨_, _, herror⟩ :=
    ofDirectives_cases directives facts options
  · rw [hok, Except.ok.injEq] at hreport
    exact ⟨visits, c, hvisits, hrest, hreport.symm⟩
  · simp [herror] at hreport
  · simp [herror] at hreport

/-- A result that is not that of a spent budget is the one that the pass has without a budget. -/
theorem exists_ends_of_ne_unsettled
    (hsettled : ∀ p url, ofDirectives directives facts options ≠ .error (.unsettled p url)) :
    ∃ p ≤ options.budget directives.length, ∃ result,
      Ends directives facts.applicationPath (.start directives facts) p result := by
  refine Classical.byContradiction fun hends => ?_
  obtain ⟨_, _, _, _, _, hunsettled⟩ := ofDirectives_of_not_ends hends
  exact hsettled _ _ hunsettled

theorem length_le_budget {visits : List Visit} {c : Config} {report : Report}
    (hvisits : Reaches directives facts visits c)
    (hreport : ofDirectives directives facts options = .ok report) :
    visits.length ≤ options.budget directives.length := by
  refine Nat.le_of_not_lt fun hlt => ?_
  obtain ⟨url, hrun⟩ := hvisits.run_of_lt hlt
  rw [ofDirectives, hrun] at hreport
  cases hreport

theorem ofDirectives_of_le {more : Options} (hmore : options.maxPasses ≤ more.maxPasses)
    (hsettled : ∀ p url, ofDirectives directives facts options ≠ .error (.unsettled p url)) :
    ofDirectives directives facts more = ofDirectives directives facts options := by
  obtain ⟨p, hp, result, hresult⟩ := exists_ends_of_ne_unsettled hsettled
  have hp' := Nat.le_trans hp (Options.budget_mono hmore directives.length)
  rw [ofDirectives_of_ends hresult hp, ofDirectives_of_ends hresult hp']

/-- **A budget is exact.** A pass that ends without a budget after `p` visits has the same result
with every budget of at least `p`; with any other it fails when the budget is spent, and at the
URL at which it is then. So a result stays with every larger budget, a budget of no walk is one of
one walk, and only a rule that begins the pass anew can spend a budget. A list in memory has fewer
than `2 ^ 64` entries; that is all that the last part needs to know of the directives. -/
theorem ofDirectives_exact_budget (directives : List Directive) (facts : Facts)
    (options : Options) :
    let limit := min (max directives.length 1 * max options.maxPasses 1) (2 ^ 64 - 1)
    (∀ p result,
      Ends directives facts.applicationPath (.start directives facts) p result → p ≤ limit →
        ofDirectives directives facts options =
          (result.map ofConfig).mapError Failure.evaluation ∧
        ∀ report, ofDirectives directives facts options = .ok report → report.processed = p) ∧
    ((¬ ∃ p ≤ limit, ∃ result,
        Ends directives facts.applicationPath (.start directives facts) p result) →
      ∃ visits c, Reaches directives facts visits c ∧ visits.length = limit ∧
        ofDirectives directives facts options = .error (.unsettled limit c.state.url)) ∧
    (∀ more : Options, options.maxPasses ≤ more.maxPasses →
      (∀ report, ofDirectives directives facts options = .ok report →
        ofDirectives directives facts more = .ok report) ∧
      ∀ e, ofDirectives directives facts options = .error (.evaluation e) →
        ofDirectives directives facts more = .error (.evaluation e)) ∧
    ofDirectives directives facts { maxPasses := 0 } =
      ofDirectives directives facts { maxPasses := 1 } ∧
    (directives.length < 2 ^ 64 →
      (∀ visits c, Reaches directives facts visits c → visits.length ≤ limit →
        ∀ v ∈ visits, ∀ r, v.Fires facts.applicationPath r → r.flags.next = false) →
      ∀ p url, ofDirectives directives facts options ≠ .error (.unsettled p url)) := by
  intro limit
  have hlimit : limit = options.budget directives.length := (options.budget_eq _).symm
  rw [hlimit]
  refine ⟨?_, ?_, ?_, rfl, ?_⟩
  · intro p result hends hp
    have hreport := ofDirectives_of_ends hends hp
    refine ⟨hreport, fun report hok => ?_⟩
    cases result with
    | error e => simp [hreport, Except.map, Except.mapError] at hok
    | ok c =>
        simp only [hreport, Except.map, Except.mapError, Except.ok.injEq] at hok
        subst hok
        have hprocessed := hends.processed_eq
        rwa [Config.start, Nat.zero_add] at hprocessed
  · intro hends
    obtain ⟨visits, c, hvisits, hlength, -, hreport⟩ := ofDirectives_of_not_ends hends
    exact ⟨visits, c, hvisits, hlength, hreport⟩
  · intro more hmore
    constructor
    · intro report hok
      rw [ofDirectives_of_le hmore (by simp [hok]), hok]
    · intro e herror
      rw [ofDirectives_of_le hmore (by simp [herror]), herror]
  · intro hcount hnext p url hunsettled
    by_cases hends : ∃ p ≤ options.budget directives.length, ∃ result,
        Ends directives facts.applicationPath (.start directives facts) p result
    · obtain ⟨p, hp, result, hresult⟩ := hends
      rw [ofDirectives_of_ends hresult hp] at hunsettled
      cases result <;> simp [Except.map, Except.mapError] at hunsettled
    · -- The budget lasts for one walk, and a walk that is never begun anew has no more visits.
      obtain ⟨visits, c, hvisits, hlength, hrest, -⟩ := ofDirectives_of_not_ends hends
      have hwalk := hvisits.length_add_rest_le (hnext visits c hvisits (Nat.le_of_eq hlength))
      have hahead : 0 < c.rest.length := List.length_pos_iff.mpr hrest
      have hbudget := options.le_budget hcount
      simp only [Config.start] at hwalk
      omega

private def restartingRule : List Directive := [
  .rule {
    line := 1
    text := []
    pattern := some {
      groupCount := 1
      program := .ofExpr (.concat [.look .start, .text "/a".toList, .look .stop]) }
    negated := false
    substitution := .target "/b".toList
    flags := { next := true } }]

private def restartingRequest : Facts where
  url := "/a".toList
  now := ⟨2000, 1, 1, 0, 0, 0⟩

/-- The second visit spends the budget and finds nothing more to do, so that the pass has ended.
A budget of one visit is spent when the rule has begun the pass anew. -/
theorem ofDirectives_exact_budget_of_restart :
    ∃ c, Ends restartingRule [] (.start restartingRule restartingRequest) 2 (.ok c) ∧
      ofDirectives restartingRule restartingRequest { maxPasses := 2 } = .ok (ofConfig c) ∧
      (ofConfig c).processed = 2 ∧ (ofConfig c).restarts = 1 ∧
      ofDirectives restartingRule restartingRequest { maxPasses := 1 } =
        .error (.unsettled 1 "/b".toList) := by
  have hvisits : Reaches restartingRule restartingRequest _ _ :=
    .snoc (.snoc .nil rfl rfl) rfl rfl
  have hends : Ends restartingRule [] (.start restartingRule restartingRequest) 2 (.ok _) :=
    .settled hvisits rfl
  have hreport :=
    ((ofDirectives_exact_budget restartingRule restartingRequest { maxPasses := 2 }).1
      2 _ hends (by decide)).1
  exact ⟨_, hends, hreport, rfl, rfl, rfl⟩

end Report

end Reroute
