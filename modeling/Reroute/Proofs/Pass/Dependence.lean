import Reroute.Proofs.Agreement
import Reroute.Proofs.Pass.Parallel
import Reroute.Report

/-!
# What a pass depends on

Two passes through the same directives go side by side if their environments agree on the variables
that the directives mention, and their URLs through a view that shows what rules are matched
against. Seen through the view that shows all of a URL, the passes have the same result: variables
that no directive mentions count for nothing. Seen through the view that shows the path, they have
the same result up to the query strings: these count for nothing if no directive mentions them.
-/

namespace Reroute

open Pass

/-- A view shows enough of a URL for what rules do with it: to match it, and to give its query
string to another. -/
structure Url.IsView (view : Text → Text) (path : Text) : Prop where
  pathBelow {u v : Text} (h : view u = view v) : Url.pathBelow u path = Url.pathBelow v path
  carryQuery {u v : Text} (h : view u = view v) (url : Text) (append : Bool) :
    view (Url.carryQuery url (Url.query u) append) = view (Url.carryQuery url (Url.query v) append)

namespace Action

def mapUrl (view : Text → Text) : Action → Action
  | .serve => .serve
  | .redirect url permanent => .redirect (view url) permanent
  | .transfer url => .transfer (view url)
  | .forbidden => .forbidden
  | .gone => .gone

end Action

def Report.mapUrl (view : Text → Text) (report : Report) : Report :=
  { report with outcome.action := report.outcome.action.mapUrl view }

def Evaluation.mapUrl (view : Text → Text) (e : Evaluation) : Evaluation :=
  { e with url := view e.url }

def Failure.mapUrl (view : Text → Text) : Failure → Failure
  | .malformed e => .malformed e
  | .evaluation e => .evaluation (e.mapUrl view)
  | .unsettled processed url => .unsettled processed (view url)
  | .invalidUrl e => .invalidUrl e

def Pass.seenThrough (view : Text → Text) (result : Except Failure Report) :
    Except Failure Report :=
  (result.map (·.mapUrl view)).mapError (·.mapUrl view)

/-- Two states look the same through a view of URLs and to whoever reads only some variables. -/
structure Pass.State.SameUnder (names : Text → Prop) (view : Text → Text) (s t : State) : Prop where
  url : view s.url = view t.url
  environment : s.environment.AgreeOn names view t.environment
  conditionsHold : s.conditionsHold = t.conditionsHold
  previousFired : s.previousFired = t.previousFired
  skip : s.skip = t.skip
  groups : s.groups = t.groups
  action : s.action.mapUrl view = t.action.mapUrl view
  cookies : s.cookies = t.cookies
  contentType : s.contentType = t.contentType

/-! ### One visit

A visit to a directive reads no variable that the directive does not mention, and looks at a URL
only in the ways that a view allows for. -/

variable {names : Text → Prop} {view : Text → Text} {s t : State} {path : Text}

theorem Condition.visit_alike {c : Condition} (h : s.SameUnder names view t)
    (hnames : ∀ name, (Directive.condition c).Mentions name → names name) :
    Alike Eq (State.SameUnder names view) (c.visit s) (c.visit t) := by
  have hevaluated : c.isEvaluated s = c.isEvaluated t := by
    rw [isEvaluated, isEvaluated, h.conditionsHold]
  have hverdict : c.verdict s = c.verdict t := by
    have hmentions : ∀ name, variableReference name <:+: c.subject → names name :=
      fun name hname => hnames name ⟨c.subject, rfl, hname⟩
    rw [verdict, verdict, h.environment.expand_eq h.url hmentions]
  unfold visit
  rw [hevaluated, hverdict]
  split_ifs
  · refine Alike.map (R := Eq) (Alike.refl _ fun _ => rfl) ?_
    rintro verdict _ rfl
    exact { h with conditionsHold := by rw [h.conditionsHold], groups := rfl }
  · exact .ok h

namespace Rule

variable {r : Rule}

theorem newUrl_alike (hview : Url.IsView view path) (h : s.SameUnder names view t)
    (hnames : ∀ name, (Directive.rule r).Mentions name → names name) (below : Text)
    (groups : Groups) :
    Alike Eq (fun u v => view u = view v) (r.newUrl below groups s) (r.newUrl below groups t) := by
  unfold newUrl
  cases hsubstitution : r.substitution with
  | keep => exact .ok rfl
  | target target =>
      have hmentions : ∀ name, variableReference name <:+: target → names name := by
        intro name hname
        exact hnames name ⟨target, by simp [Directive.expanded?, hsubstitution], hname⟩
      have hexpand : s.environment.expandAll s.url s.groups groups target =
          t.environment.expandAll t.url t.groups groups target := by
        rw [Environment.expandAll, Environment.expandAll,
          h.environment.expand_eq h.url hmentions, h.groups]
      simp only [hexpand]
      refine Alike.map (R := Eq) (Alike.refl _ fun _ => rfl) ?_
      rintro url _ rfl
      exact hview.carryQuery h.url url r.flags.appendQuery

theorem apply_sameUnder (groups : Groups) (h : s.SameUnder names view t) :
    (r.apply groups s).1.SameUnder names view (r.apply groups t).1 ∧
      (r.apply groups s).2 = (r.apply groups t).2 := by
  refine ⟨?_, by rw [apply_course, apply_course]⟩
  unfold apply
  split_ifs
  · exact { h with action := rfl }
  · exact { h with action := rfl }
  · refine { h with environment := ?_, skip := ?_, action := ?_, cookies := ?_, contentType := ?_ }
    · rw [h.groups]
      exact h.environment.changes _ _ _
    · rw [h.skip]
    · unfold RuleFlags.action
      cases r.flags.redirect <;> simp [Action.mapUrl, h.url]
    · rw [h.cookies]
    · rw [h.contentType]

theorem fire_alike (hview : Url.IsView view path) (h : s.SameUnder names view t)
    (hnames : ∀ name, (Directive.rule r).Mentions name → names name) (below : Text)
    (groups : Groups) :
    Alike Eq (fun a b => a.1.SameUnder names view b.1 ∧ a.2 = b.2)
      (r.fire below groups s) (r.fire below groups t) := by
  unfold fire
  cases r.flags.invalid with
  | some token => exact .error rfl
  | none =>
      refine (newUrl_alike hview h hnames below groups).map fun u v huv => ?_
      exact apply_sameUnder groups { h with url := huv, previousFired := rfl }

theorem visit_alike (hview : Url.IsView view path) (h : s.SameUnder names view t)
    (hnames : ∀ name, (Directive.rule r).Mentions name → names name) :
    Alike Eq (fun a b => a.1.SameUnder names view b.1 ∧ a.2 = b.2)
      (r.visit path s) (r.visit path t) := by
  have htried : r.isTried s = r.isTried t := by
    rw [isTried, isTried, h.skip, h.conditionsHold, h.previousFired]
  unfold visit
  rw [htried]
  split_ifs
  · rw [attempt_eq, attempt_eq, hview.pathBelow h.url]
    cases r.match? (Url.pathBelow t.url path) with
    | error fault => exact .error rfl
    | ok matched =>
        cases matched with
        | none => exact .ok ⟨{ h with previousFired := rfl }, rfl⟩
        | some groups =>
            refine (fire_alike hview h hnames _ groups).map ?_
            rintro ⟨s', course⟩ ⟨t', _⟩ ⟨hs, rfl⟩
            exact ⟨hs, rfl⟩
  · refine .ok ⟨?_, rfl⟩
    unfold State.passOver
    rw [h.skip]
    split_ifs
    · exact { h with skip := rfl }
    · exact { h with conditionsHold := rfl, skip := rfl }

end Rule

theorem Directive.visit_alike {d : Directive} (hview : Url.IsView view path)
    (h : s.SameUnder names view t) (hnames : ∀ name, d.Mentions name → names name) :
    Alike Eq (fun a b => a.1.SameUnder names view b.1 ∧ a.2 = b.2)
      (d.visit path s) (d.visit path t) := by
  cases d with
  | condition c => exact (c.visit_alike h hnames).map fun _ _ hs => ⟨hs, rfl⟩
  | rule r => exact r.visit_alike hview h hnames

/-! ### Whole passes -/

namespace Pass

variable {directives : List Directive} {c d : Config}

structure Config.SameUnder (directives : List Directive) (names : Text → Prop)
    (view : Text → Text) (c d : Config) : Prop where
  rest : c.rest = d.rest
  rest_subset : ∀ e ∈ c.rest, e ∈ directives
  state : c.state.SameUnder names view d.state
  fired : c.fired = d.fired
  processed : c.processed = d.processed
  restarts : c.restarts = d.restarts

theorem step_alike (hview : Url.IsView view path)
    (hnames : ∀ e ∈ directives, ∀ name, e.Mentions name → names name)
    (h : c.SameUnder directives names view d) :
    Option.Rel
      (Alike (fun e e' => e.mapUrl view = e'.mapUrl view) (Config.SameUnder directives names view))
      (step directives path c) (step directives path d) := by
  cases hrest : c.rest with
  | nil =>
      rw [step_eq_none_iff.mpr hrest, step_eq_none_iff.mpr (h.rest ▸ hrest)]
      exact .none
  | cons e ahead =>
      have hsubset : ∀ e' ∈ ahead, e' ∈ directives := by
        intro e' he'
        exact h.rest_subset e' (hrest ▸ List.mem_cons_of_mem _ he')
      have hvisit := Directive.visit_alike hview h.state
        (hnames e (h.rest_subset e (hrest ▸ List.mem_cons_self)))
      have hprocessed : c.processed + 1 = d.processed + 1 := by rw [h.processed]
      refine step_alike_of_visit hrest (h.rest ▸ hrest) hvisit ?_ ?_ ?_
      · intro fault
        simp [Evaluation.mapUrl, h.state.url]
      · exact fun s t hstate => ⟨rfl, hsubset, hstate, h.fired, hprocessed, h.restarts⟩
      · intro s t course hstate
        refine ⟨rfl, ?_, hstate, ?_, hprocessed, ?_⟩
        · cases course with
          | next => exact hsubset
          | restart => exact fun _ he' => he'
          | stop => simp [Config.fire]
        · simp [Config.fire, h.fired]
        · simp [Config.fire, h.restarts]

theorem Config.SameUnder.report_eq (h : c.SameUnder directives names view d) :
    (Report.ofConfig c).mapUrl view = (Report.ofConfig d).mapUrl view := by
  simp [Report.mapUrl, Report.ofConfig, State.outcome, h.state.action, h.state.cookies,
    h.state.contentType, h.fired, h.processed, h.restarts]

theorem run_sameUnder (hview : Url.IsView view path)
    (hnames : ∀ e ∈ directives, ∀ name, e.Mentions name → names name)
    (h : c.SameUnder directives names view d) (budget : Nat) :
    seenThrough view ((run directives path budget c).map Report.ofConfig) =
      seenThrough view ((run directives path budget d).map Report.ofConfig) := by
  have hrun := run_alike (F := fun e e' => e.mapUrl view = e'.mapUrl view)
    (fun c d hcd => step_alike hview hnames hcd)
    (fun e e' he => by rw [Failure.mapUrl, Failure.mapUrl, he])
    (fun c d hcd => by rw [Failure.mapUrl, Failure.mapUrl, hcd.processed, hcd.state.url])
    budget h
  exact Alike.map_eq (hrun.map fun c d hcd => hcd.report_eq)

theorem start_sameUnder {facts facts' : Facts} (hurl : view facts.url = view facts'.url)
    (hagree : (Environment.ofFacts facts).AgreeOn names view (Environment.ofFacts facts')) :
    (Config.start directives facts).SameUnder directives names view
      (.start directives facts') where
  rest := rfl
  rest_subset _ he := he
  state := ⟨hurl, hagree, rfl, rfl, rfl, rfl, rfl, rfl, rfl⟩
  fired := rfl
  processed := rfl
  restarts := rfl

end Pass

end Reroute
