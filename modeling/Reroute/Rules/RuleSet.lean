import Reroute.Rules.Directive

/-!
Rule sets: a rule text made ready for passes.
-/

namespace Reroute

structure RuleSet where
  lines : List Line
  directives : List Directive

namespace RuleSet

def ofSource (source : Source) : RuleSet where
  lines := source.lines
  directives := source.statements.map .ofStatement

/-- The rule set of a text, or its first malformed line. -/
def ofText (t : Text) : Except Malformed RuleSet := (Source.ofText t).map ofSource

def count (rules : RuleSet) (category : Category) : Nat :=
  rules.lines.countP (·.category = category)

def ruleCount (rules : RuleSet) : Nat := rules.count .rule

def conditionCount (rules : RuleSet) : Nat := rules.count .condition

def isEmpty (rules : RuleSet) : Bool := rules.directives.isEmpty

def display (rules : RuleSet) : Text :=
  "RuleSet(".toList ++ Text.ofNat rules.conditionCount ++ " conditions, ".toList ++
    Text.ofNat rules.ruleCount ++ " rules, ".toList ++ Text.ofNat rules.lines.length ++
    " lines)".toList

end RuleSet

end Reroute
