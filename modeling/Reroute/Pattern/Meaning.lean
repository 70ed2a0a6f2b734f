import Reroute.Pattern.CharClass
import Reroute.Pattern.Normal
import Reroute.Pattern.Reader

/-!
From the written pattern to its meaning. Switches hold from their place to the end of the group,
the later branches included.
-/

namespace Reroute.Pattern

open Unicode (CharSet)

structure Switches where
  ignoreCase : Bool := false
  multiLine : Bool := false
  dotAll : Bool := false
  swapGreed : Bool := false
  crlf : Bool := false
  unicode : Bool := true
  deriving DecidableEq, Repr

namespace Switches

def change (s : Switches) : SwitchChange → Switches
  | (.ignoreCase, on) => { s with ignoreCase := on }
  | (.multiLine, on) => { s with multiLine := on }
  | (.dotAll, on) => { s with dotAll := on }
  | (.swapGreed, on) => { s with swapGreed := on }
  | (.crlf, on) => { s with crlf := on }
  | (.unicode, on) => { s with unicode := on }
  | (.verbose, _) => s

def fold (s : Switches) (chars : CharSet) : CharSet :=
  if !s.ignoreCase then chars
  else if s.unicode then CharClass.foldUnicode chars
  else CharClass.foldAscii chars

/-- The set or its complement. Without the Unicode switch a complement would take in bytes that
are no characters. -/
def negate? (s : Switches) (negated : Bool) (chars : CharSet) : Option CharSet :=
  if !negated then some chars
  else if s.unicode then some chars.complement
  else none

def short? (s : Switches) (kind : ShortClass) (negated : Bool) : Option CharSet :=
  s.negate? negated (CharClass.short s.unicode kind)

def property? (s : Switches) (name : PropertyName) (negated : Bool) : Option CharSet :=
  if s.unicode then (CharClass.ofProperty? name).bind fun chars => s.negate? negated (s.fold chars)
  else none

def classChar? (s : Switches) (l : Literal) : Option Char :=
  if s.unicode || l.char.toNat < 0x80 then some l.char else none

/-- The characters of a literal. A byte that is no ASCII character matches no text. -/
def literal? (s : Switches) (l : Literal) : Option CharSet :=
  if !s.unicode && l.byte && 0x80 ≤ l.char.toNat then none
  else some (s.fold (.singleton l.char))

def dot? (s : Switches) : Option CharSet :=
  if !s.unicode then none
  else if s.dotAll then some .full
  else if s.crlf then some (CharSet.ofList ['\n', '\r']).complement
  else some (CharSet.ofList ['\n']).complement

def look (s : Switches) : Anchor → Look
  | .lineStart => if s.multiLine then .lineStart s.crlf else .start
  | .lineEnd => if s.multiLine then .lineStop s.crlf else .stop
  | .textStart => .start
  | .textEnd => .stop
  | .wordBoundary => .word .boundary s.unicode
  | .notWordBoundary => .word .notBoundary s.unicode
  | .wordStart => .word .start s.unicode
  | .wordEnd => .word .stop s.unicode
  | .wordStartHalf => .word .startHalf s.unicode
  | .wordEndHalf => .word .stopHalf s.unicode

end Switches

namespace ClassNode

mutual

/-- The characters of a class. Case is folded before a class is negated or an operator is
applied. -/
def chars? (s : Switches) : ClassNode → Option CharSet
  | .empty => some .empty
  | .literal l => (s.classChar? l).map .singleton
  | .range first last => do
    let first ← s.classChar? first
    let last ← s.classChar? last
    return ⟨[(first.toNat, last.toNat)]⟩
  | .ascii name negated => s.negate? negated (s.fold (CharClass.ascii name))
  | .short kind negated => s.short? kind negated
  | .property name negated => s.property? name negated
  | .bracket negated body => do s.negate? negated (s.fold (← chars? s body))
  | .union items => unionChars? s items
  | .operation operator left right => do
    let left := s.fold (← chars? s left)
    let right := s.fold (← chars? s right)
    match operator with
    | .intersection => return left.inter right
    | .difference => return left.difference right
    | .symmetricDifference => return left.symmetricDifference right

def unionChars? (s : Switches) : List ClassNode → Option CharSet
  | [] => some .empty
  | item :: items => do
    let chars ← chars? s item
    return chars.union (← unionChars? s items)

end

end ClassNode

namespace Node

mutual

def meaning? (s : Switches) : Node → Option (Expr × Switches)
  | .empty => some (.empty, s)
  | .switches changes => some (.empty, changes.foldl Switches.change s)
  | .literal l => (s.literal? l).map fun chars => (.ofSet chars, s)
  | .dot => s.dot?.map fun chars => (.ofSet chars, s)
  | .anchor a => some (.look (s.look a), s)
  | .short kind negated => (s.short? kind negated).map fun chars => (.ofSet chars, s)
  | .property name negated => (s.property? name negated).map fun chars => (.ofSet chars, s)
  | .bracket negated body =>
    ((ClassNode.bracket negated body).chars? s).map fun chars => (.ofSet chars, s)
  | .repetition body min max greedy => do
    let (body, s) ← meaning? s body
    return (body.repeated min max (greedy != s.swapGreed), s)
  | .capture index body => do
    let (body, _) ← meaning? s body
    return (.capture index body, s)
  | .group changes body => do
    let (body, _) ← meaning? (changes.foldl Switches.change s) body
    return (body, s)
  | .concat parts => do
    let (parts, s) ← meanings? s parts
    return (.ofParts parts, s)
  | .alternation branches => do
    let (branches, s) ← meanings? s branches
    return (.ofBranches branches, s)

def meanings? (s : Switches) : List Node → Option (List Expr × Switches)
  | [] => some ([], s)
  | node :: nodes => do
    let (e, s) ← meaning? s node
    let (es, s) ← meanings? s nodes
    return (e :: es, s)

end

end Node

def Expr.ofText? (t : Text) (ignoreCase : Bool) : Option Expr := do
  let node ← Node.ofText? t
  let (e, _) ← node.meaning? { ignoreCase }
  return e

end Reroute.Pattern
