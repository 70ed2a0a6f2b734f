import Reroute.Proofs.Pass.Budget
import Reroute.Proofs.Pass.Firing
import Reroute.Proofs.Rules.Flags
import Reroute.Proofs.Rules.OneChar

/-!
# The rule that fired last

Every rule that fires makes a new URL and a new action, whatever the rules before it made, and nothing
else makes either. So the rule that fired last decides what becomes of a request, and a request for
which no rule fired is left as it is.
-/

namespace Reroute.Pass

variable {directives : List Directive} {facts : Facts} {path url : Text} {c : Config}
  {visits : List Visit} {f : Firing}

structure Firing.Leaves (f : Firing) (path url : Text) (action : Action) : Prop where
  keep : f.rule.substitution = .keep → url = Url.pathBelow f.state.url path
  target : ∀ target, f.rule.substitution = .target target →
    ∃ expanded,
      f.state.environment.expandAll f.state.url f.state.groups f.groups target = .ok expanded ∧
        url = Url.carryQuery expanded (Url.query f.state.url) f.rule.flags.appendQuery
  forbidden : f.rule.flags.forbidden = true → action = .forbidden
  gone : f.rule.flags.forbidden = false → f.rule.flags.gone = true → action = .gone
  redirect : f.rule.flags.forbidden = false → f.rule.flags.gone = false →
    ∀ kind, f.rule.flags.redirect = some kind → action = .redirect url (kind == .permanent)
  transfer : f.rule.flags.forbidden = false → f.rule.flags.gone = false →
    f.rule.flags.redirect = none → action = .transfer url

theorem Firing.Makes.leaves (h : f.Makes path url) : f.Leaves path url (f.after url).1.action := by
  have haction : (f.after url).1.action =
      if f.rule.flags.forbidden then .forbidden
      else if f.rule.flags.gone then .gone
      else f.rule.flags.action url := Rule.apply_action
  rw [haction]
  exact {
    keep := by
      intro hkeep
      rw [Makes, Rule.newUrl, hkeep] at h
      exact (Except.ok.inj h).symm
    target := by
      intro target htarget
      rw [Makes, Rule.newUrl, htarget] at h
      dsimp only at h
      cases hexpanded : f.state.environment.expandAll f.state.url f.state.groups f.groups target with
      | error fault => simp [hexpanded, bind, Except.bind] at h
      | ok expanded =>
          rw [hexpanded] at h
          exact ⟨expanded, rfl, (Except.ok.inj h).symm⟩
    forbidden := fun hforbidden => by rw [if_pos hforbidden]
    gone := fun hforbidden hgone => by simp [hforbidden, hgone]
    redirect := fun hforbidden hgone kind hkind => by
      simp [hforbidden, hgone, RuleFlags.action, hkind]
    transfer := fun hforbidden hgone hnone => by
      simp [hforbidden, hgone, RuleFlags.action, hnone] }

theorem Firing.Leaves.ne_serve {action : Action} (h : f.Leaves path url action) :
    action ≠ .serve := by
  cases hforbidden : f.rule.flags.forbidden with
  | true => simp [h.forbidden hforbidden]
  | false =>
      cases hgone : f.rule.flags.gone with
      | true => simp [h.gone hforbidden hgone]
      | false =>
          cases hredirect : f.rule.flags.redirect with
          | none => simp [h.transfer hforbidden hgone hredirect]
          | some kind => simp [h.redirect hforbidden hgone kind hredirect]

theorem History.leaves_of_last (hvisits : Reaches directives facts visits c)
    (hlast : (firings facts.applicationPath visits).getLast? = some f) :
    f.Leaves facts.applicationPath c.state.url c.state.action := by
  obtain ⟨url, hmakes, hsame⟩ := hvisits.sameResult_after_last.2 f hlast
  have hurl : c.state.url = url := hsame.url.trans Rule.apply_url
  rw [hsame.action, hurl]
  exact hmakes.leaves

theorem History.outcome_of_no_firing (hvisits : Reaches directives facts visits c)
    (hnone : firings facts.applicationPath visits = []) : c.state.outcome = .untouched :=
  (hvisits.sameResult_after_last.1 hnone).outcome_eq

theorem History.eq_of_same_last {visits' : List Visit} {c' : Config}
    (hvisits : Reaches directives facts visits c) (hvisits' : Reaches directives facts visits' c')
    (hlast : (firings facts.applicationPath visits).getLast? = some f)
    (hlast' : (firings facts.applicationPath visits').getLast? = some f) :
    c'.state.url = c.state.url ∧ c'.state.action = c.state.action := by
  obtain ⟨url, hmakes, hsame⟩ := hvisits.sameResult_after_last.2 f hlast
  obtain ⟨url', hmakes', hsame'⟩ := hvisits'.sameResult_after_last.2 f hlast'
  have hurl : url = url' := Except.ok.inj (hmakes.symm.trans hmakes')
  subst hurl
  exact ⟨hsame'.url.trans hsame.url.symm, hsame'.action.trans hsame.action.symm⟩

/-- **The rule that fired last decides.** A report without a firing is on a request that was left as
it is. With a firing, the last one made the URL and the action of the report, from the URL at which
its rule was visited, and they were the same at every point of the pass after it. -/
theorem action_of_last_firing {options : Options} {report : Report}
    (hreport : Report.ofDirectives directives facts options = .ok report) :
    ∃ visits c, Reaches directives facts visits c ∧ c.rest = [] ∧ report = .ofConfig c ∧
      report.fired = (firings facts.applicationPath visits).map (·.rule.line) ∧
      (report.fired = [] ↔ report.outcome.action = .serve) ∧
      (report.fired = [] → report.outcome = .untouched) ∧
      ∀ f, (firings facts.applicationPath visits).getLast? = some f →
        f.Leaves facts.applicationPath c.state.url report.outcome.action ∧
        (∀ visits' c', Reaches directives facts visits' c' →
          (firings facts.applicationPath visits').getLast? = some f →
            c'.state.url = c.state.url ∧ c'.state.action = report.outcome.action) ∧
        ∀ tokens, f.rule.flags = RuleFlags.ofTokens tokens →
          f.rule.flags.redirect =
            ((tokens.filter fun token => FlagToken.flag? token = some .redirect).getLast?).map
              fun token =>
                if FlagToken.argument? token = some "301".toList then .permanent
                else .temporary := by
  obtain ⟨visits, c, hvisits, hrest, rfl⟩ := Report.reaches_of_ofDirectives hreport
  have hfired : (Report.ofConfig c).fired =
      (firings facts.applicationPath visits).map (·.rule.line) := hvisits.fired_eq
  have huntouched : (Report.ofConfig c).fired = [] → (Report.ofConfig c).outcome = .untouched := by
    intro hempty
    rw [hfired, List.map_eq_nil_iff] at hempty
    exact hvisits.outcome_of_no_firing hempty
  refine ⟨visits, c, hvisits, hrest, rfl, hfired, ⟨fun hempty => ?_, fun hserve => ?_⟩,
    huntouched, fun f hlast => ⟨hvisits.leaves_of_last hlast, fun visits' c' hvisits' hlast' => ?_,
      fun tokens htokens => ?_⟩⟩
  · rw [huntouched hempty]
    rfl
  · rw [hfired, List.map_eq_nil_iff]
    cases hlast : (firings facts.applicationPath visits).getLast? with
    | none => exact List.getLast?_eq_none_iff.mp hlast
    | some f => exact absurd hserve (hvisits.leaves_of_last hlast).ne_serve
  · exact hvisits.eq_of_same_last hvisits' hlast hlast'
  · rw [htokens]
    exact RuleFlags.redirect_ofTokens tokens

private def movingRules : List Directive := [
  .rule (.onChar 1 'a' "/b?x" ["CO=k:v:d"]),
  .rule (.onChar 2 'b' "/c?z" ["R=302", "QSA", "R=301"]),
  .rule (.onChar 3 'd' "/e" ["F"])]

private def movingRequest : Facts where
  url := "/a?y".toList
  now := ⟨2000, 1, 1, 0, 0, 0⟩

/-- The second rule is the last that fires. It appends the query string that the first has left to
its own. -/
theorem action_of_last_firing_of_moved :
    ∃ report visits c f, Report.ofDirectives movingRules movingRequest {} = .ok report ∧
      Reaches movingRules movingRequest visits c ∧ (firings [] visits).getLast? = some f ∧
      f.rule.line = 2 ∧ f.Leaves [] c.state.url report.outcome.action ∧
      report.outcome.action = .redirect "/c?z&x".toList true := by
  have hreport : Report.ofDirectives movingRules movingRequest {} = .ok {
      outcome := {
        action := .redirect "/c?z&x".toList true
        cookies := [{ name := ['k'], value := ['v'], domain := ['d'], path := none }]
        contentType := none }
      fired := [1, 2]
      processed := 3
      restarts := 0 } := by
    rfl
  obtain ⟨visits, c, hvisits, -, -, hfired, -, -, hlast⟩ := action_of_last_firing hreport
  have hline := congrArg List.getLast? hfired
  rw [List.getLast?_map] at hline
  obtain ⟨f, hf, hsecond⟩ := Option.map_eq_some_iff.mp hline.symm
  exact ⟨_, visits, c, f, hreport, hvisits, hf, hsecond, (hlast f hf).1, rfl⟩

end Reroute.Pass
