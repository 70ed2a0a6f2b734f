import Reroute.Rules.Line

/-!
A rule text read into its lines and its statements. Reading stops at the first malformed line.
-/

namespace Reroute

structure Statement where
  kind : Kind
  line : Nat
  text : Text
  fields : Fields
  deriving DecidableEq, Repr

/-- A condition or rule line that breaks the grammar. -/
structure Malformed where
  line : Nat
  text : Text
  deriving DecidableEq, Repr

/-- A rule text: every line, and the statements in their order. -/
structure Source where
  lines : List Line
  statements : List Statement
  deriving DecidableEq, Repr

namespace Malformed

def message (e : Malformed) : Text :=
  "parse error on line ".toList ++ Text.ofNat e.line ++ ": malformed directive `".toList ++
    e.text ++ "`".toList

end Malformed

namespace Statement

def ofReading? (number : Nat) (text : Text) : Reading → Option Statement
  | .statement kind fields => some { kind, line := number, text, fields }
  | _ => none

end Statement

namespace Source

def ofLines : List (Nat × Text) → Except Malformed Source
  | [] => .ok { lines := [], statements := [] }
  | (number, text) :: rest =>
    match Reading.ofText text with
    | .malformed => .error { line := number, text }
    | reading =>
      match ofLines rest with
      | .error e => .error e
      | .ok source => .ok {
          lines := { number, text, category := reading.category } :: source.lines
          statements := (Statement.ofReading? number text reading).toList ++ source.statements }

def ofText (t : Text) : Except Malformed Source := ofLines (Line.numbered t)

end Source

end Reroute
