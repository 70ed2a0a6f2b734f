import Reroute.Text

/-!
Patterns as they are written: a tree of the constructs of the pattern language.
-/

namespace Reroute.Pattern

inductive Switch where
  | ignoreCase
  | multiLine
  | dotAll
  | swapGreed
  | unicode
  | crlf
  | verbose
  deriving DecidableEq, Repr

abbrev SwitchChange := Switch × Bool

inductive Anchor where
  | lineStart
  | lineEnd
  | textStart
  | textEnd
  | wordBoundary
  | notWordBoundary
  | wordStart
  | wordEnd
  | wordStartHalf
  | wordEndHalf
  deriving DecidableEq, Repr

inductive ShortClass where
  | digit
  | space
  | word
  deriving DecidableEq, Repr

inductive PropertyName where
  | single (name : Text)
  | withValue (name value : Text)
  deriving DecidableEq, Repr

/-- A character of a pattern. `byte` marks the form with two hexadecimal digits. -/
structure Literal where
  char : Char
  byte : Bool := false
  deriving DecidableEq, Repr

inductive ClassOperator where
  | intersection
  | difference
  | symmetricDifference
  deriving DecidableEq, Repr

inductive ClassNode where
  | empty
  | literal (l : Literal)
  | range (first last : Literal)
  | ascii (name : Text) (negated : Bool)
  | short (kind : ShortClass) (negated : Bool)
  | property (name : PropertyName) (negated : Bool)
  | bracket (negated : Bool) (body : ClassNode)
  | union (items : List ClassNode)
  | operation (operator : ClassOperator) (left right : ClassNode)

inductive Node where
  | empty
  | switches (changes : List SwitchChange)
  | literal (l : Literal)
  | dot
  | anchor (a : Anchor)
  | short (kind : ShortClass) (negated : Bool)
  | property (name : PropertyName) (negated : Bool)
  | bracket (negated : Bool) (body : ClassNode)
  | repetition (body : Node) (min : Nat) (max : Option Nat) (greedy : Bool)
  | capture (index : Nat) (body : Node)
  | group (changes : List SwitchChange) (body : Node)
  | concat (parts : List Node)
  | alternation (branches : List Node)

namespace ClassNode

def ofItems : List ClassNode → ClassNode
  | [] => .empty
  | [item] => item
  | items => .union items

mutual

def depth : ClassNode → Nat
  | .bracket _ body => depth body + 1
  | .union items => depthAll items + 1
  | .operation _ left right => max (depth left) (depth right) + 1
  | _ => 0

def depthAll : List ClassNode → Nat
  | [] => 0
  | item :: items => max (depth item) (depthAll items)

end

end ClassNode

namespace Node

def ofParts : List Node → Node
  | [] => .empty
  | [part] => part
  | parts => .concat parts

def ofBranches : List Node → Node
  | [] => .empty
  | [branch] => branch
  | branches => .alternation branches

mutual

def depth : Node → Nat
  | .bracket _ body => body.depth + 1
  | .repetition body _ _ _ => depth body + 1
  | .capture _ body => depth body + 1
  | .group _ body => depth body + 1
  | .concat parts => depthAll parts + 1
  | .alternation branches => depthAll branches + 1
  | _ => 0

def depthAll : List Node → Nat
  | [] => 0
  | node :: nodes => max (depth node) (depthAll nodes)

end

end Node

end Reroute.Pattern
