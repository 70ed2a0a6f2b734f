import Reroute.Proofs.Pass.Step
import Reroute.Report

/-!
# The image of a pass

Directives can be changed in parts that no visit looks at, or that a visit hands on to the state and
never looks at again. If a visit of the changed directive does to the changed state what the visit of
the directive does to the state, then a pass through the changed directives is the image of the pass
through the directives, visit by visit, with the same faults in the same places (`run_image`).
-/

namespace Reroute

def Evaluation.mapLine (line : Nat → Nat) (e : Evaluation) : Evaluation :=
  { e with line := line e.line }

def Failure.mapLine (line : Nat → Nat) : Failure → Failure
  | .malformed e => .malformed e
  | .evaluation e => .evaluation (e.mapLine line)
  | .unsettled processed url => .unsettled processed url
  | .invalidUrl e => .invalidUrl e

namespace Pass

structure Image where
  directive : Directive → Directive
  state : State → State
  line : Nat → Nat

namespace Image

variable {m : Image} {path : Text}

/-- No visit tells a directive and a state from their images. -/
structure Commutes (m : Image) (path : Text) : Prop where
  line (d : Directive) : (m.directive d).line = m.line d.line
  text (d : Directive) : (m.directive d).text = d.text
  url (s : State) : (m.state s).url = s.url
  visit (d : Directive) (s : State) :
    (m.directive d).visit path (m.state s) =
      (d.visit path s).map fun (state, course) => (m.state state, course)

def config (m : Image) (c : Config) : Config where
  rest := c.rest.map m.directive
  state := m.state c.state
  fired := c.fired.map m.line
  processed := c.processed
  restarts := c.restarts

theorem Commutes.step_image (h : m.Commutes path) (directives : List Directive) (c : Config) :
    step (directives.map m.directive) path (m.config c) =
      (step directives path c).map fun result =>
        (result.map m.config).mapError (Evaluation.mapLine m.line) := by
  cases hrest : c.rest with
  | nil =>
      have hrest' : (m.config c).rest = [] := by simp [config, hrest]
      rw [step_eq_none_iff.mpr hrest, step_eq_none_iff.mpr hrest']
      rfl
  | cons d ahead =>
      have hrest' : (m.config c).rest = m.directive d :: ahead.map m.directive := by
        simp [config, hrest]
      have hstate : (m.config c).state = m.state c.state := rfl
      rw [step_of_rest hrest, step_of_rest hrest', hstate, h.visit, h.line, h.text, h.url]
      cases d.visit path c.state with
      | error fault => rfl
      | ok result =>
          obtain ⟨state, course⟩ := result
          cases course with
          | none => rfl
          | some course => cases course <;> rfl

/-- **A pass through the image of directives is the image of the pass through the directives.** -/
theorem Commutes.run_image (h : m.Commutes path) (directives : List Directive) (budget : Nat)
    (c : Config) :
    run (directives.map m.directive) path budget (m.config c) =
      ((run directives path budget c).map m.config).mapError (Failure.mapLine m.line) := by
  induction budget generalizing c with
  | zero =>
      have hends : (m.config c).rest.isEmpty = c.rest.isEmpty := List.isEmpty_map
      have hurl : (m.config c).state.url = c.state.url := h.url c.state
      unfold run
      rw [hends, hurl]
      split_ifs <;> rfl
  | succ budget ih =>
      unfold run
      rw [h.step_image]
      cases step directives path c with
      | none => rfl
      | some result =>
          cases result with
          | error e => rfl
          | ok c' => exact ih c'

/-- The result of a pass through the image of directives, if the pass begins in the image of the
state in which a pass begins and `report` is what becomes of the report at its end. -/
theorem Commutes.ofDirectives_image {facts : Facts} {report : Report → Report}
    (h : m.Commutes facts.applicationPath) (hstart : m.state (.start facts) = .start facts)
    (hreport : ∀ c, Report.ofConfig (m.config c) = report (.ofConfig c))
    (directives : List Directive) (options : Options) :
    Report.ofDirectives (directives.map m.directive) facts options =
      ((Report.ofDirectives directives facts options).map report).mapError
        (Failure.mapLine m.line) := by
  have hconfig : Config.start (directives.map m.directive) facts =
      m.config (.start directives facts) := by
    rw [Config.start, ← hstart]
    rfl
  rw [Report.ofDirectives, Report.ofDirectives, List.length_map, hconfig, h.run_image]
  cases run directives facts.applicationPath (options.budget directives.length)
      (.start directives facts) with
  | error failure => rfl
  | ok c => exact congrArg Except.ok (hreport c)

end Image

end Pass

end Reroute
