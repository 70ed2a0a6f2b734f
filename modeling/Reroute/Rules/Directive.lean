import Reroute.Criterion
import Reroute.Fault
import Reroute.Rules.Flags
import Reroute.Rules.Source

/-!
Directives: statements with their patterns and flags made out.

A pattern that is not valid and a flag that cannot be used stay with their directive. They do harm
only when a pass gets as far as to need them.
-/

namespace Reroute

inductive Substitution where
  | keep
  | target (text : Text)
  deriving DecidableEq, Repr

structure Condition where
  line : Nat
  text : Text
  subject : Text
  /-- Missing if the pattern is not valid. -/
  criterion : Option Criterion
  flags : ConditionFlags

structure Rule where
  line : Nat
  text : Text
  /-- Missing if the pattern is not valid. -/
  pattern : Option Pattern
  negated : Bool
  substitution : Substitution
  flags : RuleFlags

inductive Directive where
  | condition (c : Condition)
  | rule (r : Rule)

namespace Substitution

def ofText (t : Text) : Substitution := if t = ['-'] then .keep else .target t

end Substitution

namespace Condition

def ofFields (line : Nat) (text : Text) (fields : Fields) : Condition :=
  let flags := ConditionFlags.ofTokens fields.flags
  { line, text, subject := fields.first
    criterion := Criterion.ofText? fields.second flags.noCase, flags }

end Condition

namespace Rule

def ofFields (line : Nat) (text : Text) (fields : Fields) : Rule :=
  let flags := RuleFlags.ofTokens fields.flags
  let (negated, pattern) := fields.first.cutNegation
  { line, text, pattern := Pattern.ofText? pattern flags.noCase, negated
    substitution := .ofText fields.second, flags }

/-- The groups with which a rule fires on a path, if it does. A negated rule fires where its
pattern does not match, and no group takes part then. -/
def match? (rule : Rule) (path : Text) : Except Fault (Option Groups) :=
  match rule.pattern with
  | none => .error .invalidPattern
  | some pattern =>
    match pattern.groups? path with
    | some groups => .ok (if rule.negated then none else some groups)
    | none => .ok (if rule.negated then some (.unmatched pattern.groupCount) else none)

end Rule

namespace Directive

def line : Directive → Nat
  | .condition c => c.line
  | .rule r => r.line

def text : Directive → Text
  | .condition c => c.text
  | .rule r => r.text

def ofStatement (s : Statement) : Directive :=
  match s.kind with
  | .condition => .condition (.ofFields s.line s.text s.fields)
  | .rule => .rule (.ofFields s.line s.text s.fields)

end Directive

end Reroute
