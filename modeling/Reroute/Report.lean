import Reroute.Count
import Reroute.Pass.Run
import Reroute.Rules.RuleSet

/-!
Rule sets run for requests, with a report of what happened.
-/

namespace Reroute

structure Options where
  /-- How often the directives may be walked through. Zero counts as one. -/
  maxPasses : Nat := 32
  deriving DecidableEq, Repr

structure Report where
  outcome : Outcome
  fired : List Nat
  processed : Nat
  restarts : Nat
  deriving DecidableEq, Repr

namespace Options

def ofMaxPasses (count : Nat) : Options where
  maxPasses := max count 1

/-- The number of visits that a pass over so many directives may take. -/
def budget (options : Options) (directives : Nat) : Nat :=
  Count.product (max directives 1) (max options.maxPasses 1)

end Options

namespace Report

def ofConfig (c : Pass.Config) : Report where
  outcome := c.state.outcome
  fired := c.fired.reverse
  processed := c.processed
  restarts := c.restarts

def ofDirectives (directives : List Directive) (facts : Facts) (options : Options) :
    Except Failure Report :=
  (Pass.run directives facts.applicationPath (options.budget directives.length)
    (.start directives facts)).map ofConfig

def display (report : Report) : Text :=
  "action: ".toList ++ report.outcome.action.display ++ ", fired: [".toList ++
    Text.join ", ".toList (report.fired.map Text.ofNat) ++ "], processed: ".toList ++
    Text.ofNat report.processed ++ ", restarts: ".toList ++ Text.ofNat report.restarts

end Report

namespace RuleSet

def report (rules : RuleSet) (facts : Facts) (options : Options) : Except Failure Report :=
  Report.ofDirectives rules.directives facts options

def run (rules : RuleSet) (facts : Facts) (options : Options) : Except Failure Outcome :=
  (rules.report facts options).map (·.outcome)

def read (t : Text) : Except Failure RuleSet := (ofText t).mapError .malformed

def runText (t : Text) (facts : Facts) : Except Failure Outcome := do
  (← read t).run facts {}

end RuleSet

end Reroute
