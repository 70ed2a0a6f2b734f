import Reroute.Proofs.Pass.Budget
import Reroute.Proofs.Pass.Mentioned
import Reroute.Proofs.Rules.OneChar

/-!
# Passes that come back to where they were

What a pass does next depends on the directives that are ahead, on the URL, the variables, the groups
and the skips; on what it is going to answer it does not depend. A rule that begins the pass anew
leaves no conditions behind, and it has just fired. So a pass that is begun anew twice in the same
situation goes the same way from both points, and comes to the second one again and again.
-/

namespace Reroute

open Pass

variable {directives : List Directive} {facts : Facts} {path : Text} {state : State}

/-! ### What steers a pass -/

namespace Pass.State

def steering (state : State) : State :=
  { state with action := .serve, cookies := [], contentType := none }

/-- Two states differ at most in what the pass is going to answer, and in how variables come by their
texts. -/
def SameSteering (s t : State) : Prop := s.steering.SameUnder (fun _ => True) id t.steering

theorem SameUnder.sameSteering {s t : State} (h : s.SameUnder (fun _ => True) id t) :
    s.SameSteering t :=
  { h with action := rfl, cookies := rfl, contentType := rfl }

end Pass.State

def Directive.steered (d : Directive) (path : Text) (state : State) :
    Except Fault (State × Option Course) :=
  (d.visit path state).map fun (state, course) => (state.steering, course)

theorem Condition.steered_steering (c : Condition) :
    (Directive.condition c).steered path state.steering =
      (Directive.condition c).steered path state := by
  have hevaluated : c.isEvaluated state.steering = c.isEvaluated state := rfl
  have hverdict : c.verdict state.steering = c.verdict state := rfl
  unfold Directive.steered Directive.visit visit
  dsimp only
  rw [hevaluated, hverdict]
  split_ifs
  · cases c.verdict state <;> rfl
  · rfl

theorem Rule.steered_steering (r : Rule) :
    (Directive.rule r).steered path state.steering = (Directive.rule r).steered path state := by
  have htried : r.isTried state.steering = r.isTried state := rfl
  unfold Directive.steered Directive.visit visit
  dsimp only
  rw [htried]
  split_ifs
  · have hmatch : r.match? (Url.pathBelow state.steering.url path) =
        r.match? (Url.pathBelow state.url path) := rfl
    rw [attempt_eq, attempt_eq, hmatch]
    cases r.match? (Url.pathBelow state.url path) with
    | error fault => rfl
    | ok matched =>
        cases matched with
        | none => rfl
        | some groups =>
            have hurl : r.newUrl (Url.pathBelow state.steering.url path) groups state.steering =
                r.newUrl (Url.pathBelow state.url path) groups state := rfl
            dsimp only
            rw [fire, fire, hurl]
            cases r.flags.invalid with
            | some token => rfl
            | none =>
                cases r.newUrl (Url.pathBelow state.url path) groups state with
                | error fault => rfl
                | ok url =>
                    simp only [Except.map, apply, State.steering]
                    split_ifs <;> rfl
  · have hskip : state.steering.skip = state.skip := rfl
    unfold State.passOver
    rw [hskip]
    split_ifs <;> rfl

theorem Directive.steered_steering (d : Directive) (path : Text) (state : State) :
    d.steered path state.steering = d.steered path state := by
  cases d with
  | condition c => exact c.steered_steering
  | rule r => exact r.steered_steering

/-- What a pass is going to answer has no influence on its way. -/
theorem Directive.steered_alike (d : Directive) (path : Text) {s t : State}
    (h : s.SameSteering t) :
    Alike Eq (fun a b => a.1.SameSteering b.1 ∧ a.2 = b.2)
      (d.visit path s) (d.visit path t) := by
  have hvisit := d.visit_alike (Url.isView_id path) h fun _ _ => trivial
  have hsteered : Alike Eq (fun a b => a.1.SameUnder (fun _ => True) id b.1 ∧ a.2 = b.2)
      (d.steered path s) (d.steered path t) := by
    rw [← d.steered_steering path s, ← d.steered_steering path t]
    refine hvisit.map ?_
    rintro ⟨s', course⟩ ⟨t', _⟩ ⟨h', rfl⟩
    exact ⟨h'.sameSteering, rfl⟩
  exact hsteered.of_map

namespace Pass

variable {c d c' : Config} {visits visits' : List Visit} {period : Nat}

/-! ### Passes on the same way -/

structure Config.SameWay (period : Nat) (c d : Config) : Prop where
  rest : c.rest = d.rest
  state : c.state.SameSteering d.state
  processed : d.processed = c.processed + period

theorem step_sameWay (h : c.SameWay period d) :
    Option.Rel (Alike (fun _ _ => True) (Config.SameWay period))
      (step directives path c) (step directives path d) := by
  cases hrest : c.rest with
  | nil =>
      rw [step_eq_none_iff.mpr hrest, step_eq_none_iff.mpr (h.rest ▸ hrest)]
      exact .none
  | cons e ahead =>
      have hprocessed : d.processed + 1 = c.processed + 1 + period := by
        rw [h.processed, Nat.add_right_comm]
      refine step_alike_of_visit hrest (h.rest ▸ hrest) (e.steered_alike path h.state)
        (fun _ => trivial) ?_ ?_
      · exact fun s t hstate => ⟨rfl, hstate, hprocessed⟩
      · exact fun s t course hstate => ⟨rfl, hstate, hprocessed⟩

theorem unsettled_of_sameWay (h : c.SameWay period d) {budget processed : Nat} {url : Text}
    (hrun : run directives path budget c = .error (.unsettled processed url)) :
    run directives path budget d = .error (.unsettled (processed + period) url) := by
  have hspent : ∀ c d : Config, c.SameWay period d → ∀ p u,
      Failure.unsettled c.processed c.state.url = .unsettled p u →
        Failure.unsettled d.processed d.state.url = .unsettled (p + period) u := by
    rintro c d hsame p u ⟨⟩
    have hurl : c.state.url = d.state.url := hsame.state.url
    rw [hsame.processed, hurl]
  have hsame : Alike (fun e e' => ∀ p u, e = .unsettled p u → e' = .unsettled (p + period) u)
      (Config.SameWay period) (run directives path budget c) (run directives path budget d) :=
    run_alike (fun _ _ => step_sameWay) (by simp) hspent budget h
  rw [hrun] at hsame
  generalize run directives path budget d = y at hsame ⊢
  cases hsame with
  | error hfailure => rw [hfailure _ _ rfl]

/-! ### Passes begun anew -/

/-- A pass for a request has been begun anew by the last of its visits. -/
def BegunAnew (directives : List Directive) (facts : Facts) (visits : List Visit)
    (c : Config) : Prop :=
  Reaches directives facts visits c ∧
    ∃ v ∈ visits.getLast?, ∃ r state, v.directive = .rule r ∧
      r.visit facts.applicationPath v.state = .ok (state, some .restart)

theorem BegunAnew.rest_eq (h : BegunAnew directives facts visits c) :
    c.rest = directives ∧ c.state.conditionsHold = true ∧ c.state.previousFired = true := by
  obtain ⟨hvisits, v, hv, r, state, hrule, hvisit⟩ := h
  cases hvisits with
  | nil => cases hv
  | @snoc visits e ahead c' c hvisits hrest hstep =>
      rw [List.getLast?_concat, Option.mem_some_iff] at hv
      subst hv
      subst hrule
      -- A rule fires only if no skip is left, and then its conditions are forgotten.
      have hhold := Rule.conditionsHold_of_visit hvisit
      rw [if_pos (Rule.skip_eq_zero_of_visit hvisit)] at hhold
      have hfired := Rule.previousFired_of_visit hvisit
      rw [step_of_rest hrest, Directive.visit, hvisit, Option.some.injEq, Except.ok.injEq] at hstep
      subst hstep
      exact ⟨rfl, hhold, hfired⟩

theorem BegunAnew.sameWay (hc : BegunAnew directives facts visits c)
    (hc' : BegunAnew directives facts visits' c')
    (hlength : visits'.length = visits.length + period) (hurl : c.state.url = c'.state.url)
    (hskip : c.state.skip = c'.state.skip) (hgroups : c.state.groups = c'.state.groups)
    (hread : ∀ name url,
      c.state.environment.read name url = c'.state.environment.read name url) :
    c.SameWay period c' := by
  obtain ⟨hrest, hhold, hfired⟩ := hc.rest_eq
  obtain ⟨hrest', hhold', hfired'⟩ := hc'.rest_eq
  have henv : c.state.environment.AgreeOn (fun _ => True) id c'.state.environment := by
    rintro name - url _ rfl
    exact hread name url
  have hstate : c.state.SameSteering c'.state :=
    ⟨hurl, henv, hhold.trans hhold'.symm, hfired.trans hfired'.symm, hskip, hgroups, rfl, rfl, rfl⟩
  have hprocessed : c'.processed = c.processed + period := by
    rw [hc.1.processed_eq, hc'.1.processed_eq, hlength, Nat.add_assoc]
  exact ⟨hrest.trans hrest'.symm, hstate, hprocessed⟩

/-- A pass that comes back to where it was spends every budget. -/
theorem unsettled_of_recurrence (hc : Reaches directives facts visits c)
    (hc' : Reaches directives facts visits' c')
    (hperiod : 0 < period) (hlength : visits'.length = visits.length + period)
    (h : c.SameWay period c') (budget : Nat) :
    ∃ url, run directives facts.applicationPath budget (.start directives facts) =
      .error (.unsettled budget url) := by
  induction budget using Nat.strong_induction_on with
  | _ budget ih =>
      by_cases hbefore : budget < visits'.length
      · obtain ⟨url, hrun⟩ := hc'.run_of_lt hbefore
        rw [Config.start, Nat.zero_add] at hrun
        exact ⟨url, hrun⟩
      · -- Behind its return the pass does what it has done a period before.
        obtain ⟨left, rfl⟩ := Nat.exists_eq_add_of_le (Nat.le_of_not_lt hbefore)
        obtain ⟨url, hrun⟩ := ih (visits.length + left) (by omega)
        rw [hc.run_add] at hrun
        refine ⟨url, ?_⟩
        rw [hc'.run_add, unsettled_of_sameWay h hrun, hlength, Nat.add_right_comm]

/-- **A pass that is begun anew twice in the same situation never settles.** With the same URL, the
same skip, the same groups and variables that have the same texts at every URL, it goes the same way
from both points, whatever it has made up its mind to answer by then. So its budget is spent, however
large it is, and no fault is found before. -/
theorem ofDirectives_unsettled_of_recurrence (directives : List Directive) (facts : Facts)
    {visits visits' : List Visit} {c c' : Config} (hc : BegunAnew directives facts visits c)
    (hc' : BegunAnew directives facts visits' c') (hdifferent : visits.length ≠ visits'.length)
    (hurl : c.state.url = c'.state.url) (hskip : c.state.skip = c'.state.skip)
    (hgroups : c.state.groups = c'.state.groups)
    (hread : ∀ name url,
      c.state.environment.read name url = c'.state.environment.read name url)
    (options : Options) :
    ∃ url, Report.ofDirectives directives facts options =
      .error (.unsettled
        (min (max directives.length 1 * max options.maxPasses 1) (2 ^ 64 - 1)) url) := by
  wlog hlt : visits.length < visits'.length generalizing visits visits' c c'
  · exact this hc' hc hdifferent.symm hurl.symm hskip.symm hgroups.symm
      (fun name url => (hread name url).symm) (by omega)
  obtain ⟨period, hperiod⟩ := Nat.exists_eq_add_of_le (Nat.le_of_lt hlt)
  have hway := hc.sameWay hc' hperiod hurl hskip hgroups hread
  obtain ⟨url, hrun⟩ := unsettled_of_recurrence hc.1 hc'.1 (by omega) hperiod hway
    (options.budget directives.length)
  refine ⟨url, ?_⟩
  rw [Report.ofDirectives, hrun, options.budget_eq]
  rfl

/-- Two rules that send a request back and forth. The second of them sets a cookie. -/
private def recurrentRules : List Directive :=
  [.rule (.onChar 1 'a' "/b" ["N"]), .rule (.onChar 2 'b' "/a" ["N", "CO=x:y:z"])]

private def recurrentRequest : Facts where
  url := "/a".toList
  now := ⟨2000, 1, 1, 0, 0, 0⟩

private def recurrentState (url : Text) (cookies : List Cookie) : State where
  url := url
  environment := .ofFacts recurrentRequest
  action := .transfer url
  cookies := cookies

private def setCookie : Cookie where
  name := ['x']
  value := ['y']
  domain := ['z']
  path := none

/-- The first visit begins the pass anew, and so does the fourth, with a cookie set by then. -/
theorem ofDirectives_unsettled_of_recurrence_of_cookie :
    ∃ visits c visits' c', BegunAnew recurrentRules recurrentRequest visits c ∧
      BegunAnew recurrentRules recurrentRequest visits' c' ∧
      visits.length ≠ visits'.length ∧ c.state = recurrentState "/b".toList [] ∧
      c'.state = recurrentState "/b".toList [setCookie] ∧
      ∃ url, Report.ofDirectives recurrentRules recurrentRequest { maxPasses := 7 } =
        .error (.unsettled 14 url) := by
  have hvisits : Reaches recurrentRules recurrentRequest _
      { rest := recurrentRules, state := recurrentState "/b".toList [], fired := [1], processed := 1,
        restarts := 1 } := .snoc .nil rfl rfl
  have hmissed : Reaches recurrentRules recurrentRequest _
      { rest := recurrentRules.tail
        state := { recurrentState "/b".toList [] with previousFired := false }
        fired := [1], processed := 2, restarts := 1 } := hvisits.snoc rfl rfl
  have hback : Reaches recurrentRules recurrentRequest _
      { rest := recurrentRules, state := recurrentState "/a".toList [setCookie], fired := [2, 1],
        processed := 3, restarts := 2 } := hmissed.snoc rfl rfl
  have hvisits' : Reaches recurrentRules recurrentRequest _
      { rest := recurrentRules, state := recurrentState "/b".toList [setCookie], fired := [1, 2, 1],
        processed := 4, restarts := 3 } := hback.snoc rfl rfl
  have hc : BegunAnew recurrentRules recurrentRequest _ _ :=
    ⟨hvisits, _, rfl, _, _, rfl, rfl⟩
  have hc' : BegunAnew recurrentRules recurrentRequest _ _ :=
    ⟨hvisits', _, rfl, _, _, rfl, rfl⟩
  exact ⟨_, _, _, _, hc, hc', by decide, rfl, rfl,
    ofDirectives_unsettled_of_recurrence recurrentRules recurrentRequest hc hc' (by decide) rfl rfl
      rfl (fun _ _ => rfl) { maxPasses := 7 }⟩

end Pass

end Reroute
