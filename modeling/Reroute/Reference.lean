import Reroute.Fault
import Reroute.Pattern.Basic
import Reroute.Unicode.Digit

/-!
References in texts. A text is cut into characters and references from left to right, and each
reference is replaced once: what replaces it is not looked at again.
-/

namespace Reroute

inductive Piece (α : Type) where
  | char (c : Char)
  | reference (r : α)
  deriving DecidableEq, Repr

namespace Piece

/-- The text of pieces, with a value for every reference. The leftmost reference without a value
decides what is wrong. -/
def expand {α : Type} (value : α → Except Fault Text) : List (Piece α) → Except Fault Text
  | [] => .ok []
  | .char c :: rest => (expand value rest).map (c :: ·)
  | .reference r :: rest => do
    let text ← value r
    return text ++ (← expand value rest)

end Piece

/-- The group references of a text: the sigil and one decimal digit. Digits that are not ASCII
stand for zero. -/
def groupPieces (sigil : Char) : Text → List (Piece Nat)
  | [] => []
  | [c] => [.char c]
  | c :: d :: rest =>
    if c = sigil ∧ Unicode.Digit.isDigit d then
      .reference (Unicode.Digit.asciiValue d) :: groupPieces sigil rest
    else .char c :: groupPieces sigil (d :: rest)

namespace Groups

def read (source : GroupSource) (groups : Option Groups) (index : Nat) : Except Fault Text :=
  match groups.bind (value? · index) with
  | some text => .ok text
  | none => .error (.missingGroup source index)

def expand (source : GroupSource) (groups : Option Groups) (t : Text) : Except Fault Text :=
  Piece.expand (read source groups) (groupPieces source.sigil t)

end Groups

/-- The variable references of a text: `%`, a name in braces. A brace that nothing closes opens
no reference. The first argument is the part of a name that has been read. -/
def variablePiecesFrom : Option Text → Text → List (Piece Text)
  | _, [] => []
  | none, '%' :: '\x7b' :: rest =>
    if '\x7d' ∈ rest then variablePiecesFrom (some []) rest
    else .char '%' :: .char '\x7b' :: variablePiecesFrom none rest
  | none, c :: rest => .char c :: variablePiecesFrom none rest
  | some name, c :: rest =>
    if c = '\x7d' then .reference name :: variablePiecesFrom none rest
    else variablePiecesFrom (some (name ++ [c])) rest

def variablePieces (t : Text) : List (Piece Text) := variablePiecesFrom none t

end Reroute
