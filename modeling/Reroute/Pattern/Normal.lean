import Reroute.Pattern.Expr

/-!
Expressions in normal form, put together from their parts.

Characters in a row form one text. A sequence is no part of a sequence and a choice no branch of a
choice. A choice between single characters, or between sets, is a set. What all branches of a
choice start with stands in front of the choice, so that its own choices come before theirs.
-/

namespace Reroute.Pattern

open Unicode (CharSet)

namespace Expr

def surrogates : CharSet := ⟨[(0xD800, 0xDFFF)]⟩

/-- One character of a set; a set of one character is a text. -/
def ofSet (chars : CharSet) : Expr :=
  let chars := chars.difference surrogates
  match chars.ranges with
  | [(first, last)] => if first = last then .text [Char.ofNat first] else .set chars
  | _ => .set chars

def parts : Expr → List Expr
  | .empty => []
  | .concat parts => parts
  | e => [e]

def branches : Expr → List Expr
  | .choice branches => branches
  | e => [e]

def sequence? : Expr → Option (List Expr)
  | .concat parts => some parts
  | _ => none

def text? : Expr → Option Text
  | .text t => some t
  | _ => none

def char? : Expr → Option Char
  | .text [c] => some c
  | _ => none

def chars? : Expr → Option CharSet
  | .set chars => some chars
  | _ => none

def joinTexts : List Expr → List Expr
  | [] => []
  | .text t :: rest =>
    match joinTexts rest with
    | .text u :: rest => .text (t ++ u) :: rest
    | rest => .text t :: rest
  | e :: rest => e :: joinTexts rest

def ofParts (es : List Expr) : Expr :=
  match joinTexts (es.flatMap parts) with
  | [] => .empty
  | [e] => e
  | es => .concat es

def ofAny (es : List Expr) : Expr :=
  match es.flatMap branches with
  | [e] => e
  | es =>
    match es.mapM char?, es.mapM chars? with
    | some cs, _ => ofSet (.ofList cs)
    | none, some sets => ofSet (sets.foldl CharSet.union .empty)
    | none, none => .choice es

def sharedStart : List Expr → List Expr → List Expr
  | e :: es, e' :: es' => if same e e' then e :: sharedStart es es' else []
  | _, _ => []

def commonStart (branches : List Expr) : List Expr :=
  match branches.mapM sequence? with
  | some (first :: others) => others.foldl sharedStart first
  | _ => []

/-- A choice between expressions. What all branches start with comes first, and then a choice
between the rests. -/
def ofBranches (es : List Expr) : Expr :=
  match ofAny es with
  | .choice branches =>
    match commonStart branches with
    | [] => .choice branches
    | start =>
      let rests := branches.map fun e => ofParts (e.parts.drop start.length)
      ofParts (start ++ [ofAny rests])
  | e => e

/-- Repeats an expression. One that matches the empty text alone is matched once at most, and a
repetition of no rounds is empty, so that its groups are no groups of the pattern. -/
def repeated (body : Expr) (min : Nat) (max : Option Nat) (greedy : Bool) : Expr :=
  let (min, max) :=
    if body.isEmptyOnly then (Nat.min min 1, some (Nat.min (max.getD 1) 1)) else (min, max)
  if max = some 0 then .empty
  else if min = 1 ∧ max = some 1 then body
  else .repetition body min max greedy

end Expr

end Reroute.Pattern
