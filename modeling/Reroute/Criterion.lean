import Reroute.Pattern.Basic
import Reroute.Unicode.Lower

/-!
The test that a condition puts to a text: an optional `!`, then `=`, `<` or `>` and a text, or a
pattern.
-/

namespace Reroute

inductive Comparand where
  | equal (text : Text)
  | less (text : Text)
  | greater (text : Text)
  | pattern (p : Pattern)

structure Criterion where
  comparand : Comparand
  negated : Bool
  /-- Whether `=` disregards case. A pattern has this built in, and order knows no case. -/
  noCase : Bool

/-- What came out of a test. There are groups exactly if the text was searched for a pattern. -/
structure Verdict where
  matched : Bool
  groups : Option Groups
  deriving DecidableEq, Repr

namespace Text

def cutNegation (t : Text) : Bool × Text :=
  match t with
  | '!' :: rest => (true, rest)
  | _ => (false, t)

end Text

namespace Comparand

def ofText? (t : Text) (noCase : Bool) : Option Comparand :=
  match t with
  | '=' :: text => some (.equal text)
  | '<' :: text => some (.less text)
  | '>' :: text => some (.greater text)
  | _ => (Pattern.ofText? t noCase).map .pattern

/-- Compares a value, leaving negation aside. Texts are ordered by their characters. -/
def judge (comparand : Comparand) (noCase : Bool) (value : Text) : Verdict :=
  match comparand with
  | .equal text =>
    { matched := if noCase then value.lower == text.lower else value == text, groups := none }
  | .less text => { matched := decide (value < text), groups := none }
  | .greater text => { matched := decide (text < value), groups := none }
  | .pattern p =>
    match p.groups? value with
    | some groups => { matched := true, groups := some groups }
    | none => { matched := false, groups := some (.unmatched p.groupCount) }

end Comparand

namespace Criterion

def ofText? (t : Text) (noCase : Bool) : Option Criterion :=
  let (negated, body) := t.cutNegation
  (Comparand.ofText? body noCase).map fun comparand => { comparand, negated, noCase }

def judge (c : Criterion) (value : Text) : Verdict :=
  let verdict := c.comparand.judge c.noCase value
  { verdict with matched := verdict.matched != c.negated }

end Criterion

end Reroute
