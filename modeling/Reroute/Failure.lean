import Reroute.Fault
import Reroute.Rules.Source
import Reroute.Target

/-!
Why a request gets no outcome.
-/

namespace Reroute

/-- A fault, the directive that has it, and the URL at which the pass was. -/
structure Evaluation where
  fault : Fault
  line : Nat
  text : Text
  url : Text
  deriving DecidableEq, Repr

inductive Failure where
  | malformed (e : Malformed)
  | evaluation (e : Evaluation)
  /-- So many directives were visited, and the pass has not come to its end. -/
  | unsettled (processed : Nat) (url : Text)
  | invalidUrl (e : TargetError)
  deriving DecidableEq, Repr

namespace Evaluation

def message? (e : Evaluation) : Option Text :=
  e.fault.message?.map fun fault =>
    fault ++ " (line ".toList ++ Text.ofNat e.line ++ ": `".toList ++ e.text ++ "`, url `".toList ++
      e.url ++ "`)".toList

end Evaluation

namespace Failure

def message? : Failure → Option Text
  | .malformed e =>
    some ("malformed directive on line ".toList ++ Text.ofNat e.line ++ ": `".toList ++ e.text ++
      "`".toList)
  | .evaluation e => e.message?
  | .unsettled processed url =>
    some ("rewrite did not settle after ".toList ++ Text.ofNat processed ++
      " directives (url `".toList ++ url ++ "`)".toList)
  | .invalidUrl e => some ("invalid request url: ".toList ++ e.message)

end Failure

end Reroute
