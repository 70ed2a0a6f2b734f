import Reroute.Text

/-!
What can go wrong in one directive.
-/

namespace Reroute

/-- Where a group reference looks: in the last pattern of a condition or in that of the rule. -/
inductive GroupSource where
  | condition
  | rule
  deriving DecidableEq, Repr

inductive Fault where
  | undefinedVariable (name : Text)
  | missingGroup (source : GroupSource) (index : Nat)
  | invalidFlag (token : Text)
  | invalidPattern
  deriving DecidableEq, Repr

namespace GroupSource

def sigil : GroupSource → Char
  | .condition => '%'
  | .rule => '$'

end GroupSource

namespace Fault

/-- What the fault is about: a name, a reference or a token. -/
def detail? : Fault → Option Text
  | .undefinedVariable name => some name
  | .missingGroup source index => some (source.sigil :: Text.ofNat index)
  | .invalidFlag token => some token
  | .invalidPattern => none

/-- The wording of a fault. What is wrong with a pattern is not recorded. -/
def message? : Fault → Option Text
  | .undefinedVariable name =>
    some ("environment variable not found: %\x7b".toList ++ name ++ "\x7d".toList)
  | .missingGroup source index =>
    some ("back reference not found: ".toList ++ source.sigil :: Text.ofNat index)
  | .invalidFlag token => some ("invalid flag argument: ".toList ++ token)
  | .invalidPattern => none

end Fault

end Reroute
