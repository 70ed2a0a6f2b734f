import Reroute.Unicode.CharSet

/-!
What a pattern means: an expression over sets of characters, free of switches and spellings.
-/

namespace Reroute.Pattern

open Unicode (CharSet)

inductive WordPlace where
  | boundary
  | notBoundary
  | start
  | stop
  | startHalf
  | stopHalf
  deriving DecidableEq, Repr

inductive Look where
  | start
  | stop
  | lineStart (crlf : Bool)
  | lineStop (crlf : Bool)
  | word (place : WordPlace) (unicode : Bool)
  deriving DecidableEq, Repr

/-- An expression. Branches of a choice that stand earlier are preferred, and a greedy repetition
prefers one more round. -/
inductive Expr where
  | empty
  | text (t : Text)
  | set (chars : CharSet)
  | look (l : Look)
  | capture (index : Nat) (body : Expr)
  | repetition (body : Expr) (min : Nat) (max : Option Nat) (greedy : Bool)
  | concat (parts : List Expr)
  | choice (branches : List Expr)

namespace Expr

mutual

def same : Expr → Expr → Bool
  | .empty, .empty => true
  | .text t, .text t' => t == t'
  | .set chars, .set chars' => chars == chars'
  | .look l, .look l' => l == l'
  | .capture index body, .capture index' body' => index == index' && same body body'
  | .repetition body min max greedy, .repetition body' min' max' greedy' =>
    min == min' && max == max' && greedy == greedy' && same body body'
  | .concat parts, .concat parts' => sameAll parts parts'
  | .choice branches, .choice branches' => sameAll branches branches'
  | _, _ => false

def sameAll : List Expr → List Expr → Bool
  | [], [] => true
  | e :: es, e' :: es' => same e e' && sameAll es es'
  | _, _ => false

end

mutual

def isEmptyOnly : Expr → Bool
  | .empty => true
  | .text t => t.isEmpty
  | .set _ => false
  | .look _ => true
  | .capture _ body => isEmptyOnly body
  | .repetition body _ max _ => max.isSome && isEmptyOnly body
  | .concat parts => allEmptyOnly parts
  | .choice branches => allEmptyOnly branches

def allEmptyOnly : List Expr → Bool
  | [] => true
  | e :: es => isEmptyOnly e && allEmptyOnly es

end

mutual

/-- The least number of characters of a match; nothing if a part that is needed, or one of several
branches, matches nothing at all. -/
def minLength? : Expr → Option Nat
  | .empty => some 0
  | .text t => some t.length
  | .set chars => if chars.isEmpty then none else some 1
  | .look _ => some 0
  | .capture _ body => minLength? body
  | .repetition body min _ _ => (minLength? body).map (· * min)
  | .concat parts => do return (← minLengths? parts).sum
  | .choice branches => do return (← minLengths? branches).min?.getD 0

def minLengths? : List Expr → Option (List Nat)
  | [] => some []
  | e :: es => do return (← minLength? e) :: (← minLengths? es)

end

def takesCharacter (e : Expr) : Bool := e.minLength?.any (0 < ·)

mutual

/-- One more than the largest index of a capturing group, or one if there is none. -/
def groupCount : Expr → Nat
  | .capture index body => max (index + 1) (groupCount body)
  | .repetition body _ _ _ => groupCount body
  | .concat parts => groupCountAll parts
  | .choice branches => groupCountAll branches
  | _ => 1

def groupCountAll : List Expr → Nat
  | [] => 1
  | e :: es => max (groupCount e) (groupCountAll es)

end

end Expr

end Reroute.Pattern
