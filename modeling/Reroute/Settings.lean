import Reroute.Report

/-!
Settings: whether requests are led elsewhere at all, and by which rules.
-/

namespace Reroute

structure Settings where
  enabled : Bool := false
  rules : Text := []
  options : Options := {}
  deriving DecidableEq, Repr

namespace Settings

def ofRules (rules : Text) : Settings where
  enabled := true
  rules := rules

def isActive (settings : Settings) : Bool := settings.enabled && !settings.rules.trim.isEmpty

def run (settings : Settings) (facts : Facts) : Except Failure Outcome :=
  if settings.isActive then do (← RuleSet.read settings.rules).run facts settings.options
  else .ok .untouched

/-- Runs the rules for a request and lets it pass through on any failure. -/
def outcome (settings : Settings) (facts : Facts) : Outcome :=
  match settings.run facts with
  | .ok outcome => outcome
  | .error _ => .untouched

end Settings

end Reroute
