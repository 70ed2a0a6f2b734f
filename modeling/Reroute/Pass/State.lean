import Reroute.Environment
import Reroute.Outcome

/-!
What a pass carries from one directive to the next.
-/

namespace Reroute.Pass

structure State where
  url : Text
  environment : Environment
  /-- Whether the conditions since the last rule let the next rule through. -/
  conditionsHold : Bool := true
  /-- Whether the last rule that was tried fired. Holds as long as none was tried. -/
  previousFired : Bool := true
  skip : Nat := 0
  /-- The groups of the last condition that was evaluated; none if it had no pattern. -/
  groups : Option Groups := none
  action : Action := .serve
  cookies : List Cookie := []
  contentType : Option Text := none
  deriving DecidableEq, Repr

namespace State

def start (facts : Facts) : State where
  url := facts.url
  environment := .ofFacts facts

def outcome (state : State) : Outcome where
  action := state.action
  cookies := state.cookies
  contentType := state.contentType

/-- The state after a rule that was not tried. A skip is used up; if there was none, the conditions
before the rule are done with. -/
def passOver (state : State) : State :=
  if 0 < state.skip then { state with skip := state.skip - 1 }
  else { state with conditionsHold := true }

end State

end Reroute.Pass
