import Reroute.Pattern.Node
import Reroute.Unicode.Property
import Reroute.Unicode.Recent

/-!
Reading a pattern.

Open groups and open classes are kept on a list of their own, so that every function here is a
loop over the rest of the pattern. Each step takes at least one character, so the length of the
rest bounds the number of steps.
-/

namespace Reroute.Pattern

structure Reader where
  rest : Text
  /-- White space and comments between the constructs are passed over. -/
  verbose : Bool := false
  captures : Nat := 0
  names : List Text := []

/-- A step of reading; it has no result where the pattern breaks the grammar. -/
abbrev Read := StateT Reader Option

/-- A construct of a single place: what may stand alone in a pattern and, in part, in a class. -/
inductive Primitive where
  | literal (l : Literal)
  | dot
  | anchor (a : Anchor)
  | short (kind : ShortClass) (negated : Bool)
  | property (name : PropertyName) (negated : Bool)

def maxCount : Nat := 0xFFFFFFFF

def maxDepth : Nat := 250

namespace Read

/-- The text after white space and comments. A comment runs from a number sign to the end of
the line. -/
def dropComments (inComment : Bool) : Text → Text
  | [] => []
  | c :: rest =>
    if inComment then dropComments (c != '\n') rest
    else if isBlank c then dropComments false rest
    else if c = '#' then dropComments true rest
    else c :: rest

def skipBlank : Read Unit := modify fun r =>
  if r.verbose then { r with rest := dropComments false r.rest } else r

def remaining : Read Nat := return (← get).rest.length

def current : Read Char := fun r =>
  match r.rest with
  | [] => none
  | c :: _ => some (c, r)

def current? : Read (Option Char) := return (← get).rest.head?

def following? : Read (Option Char) := return (← get).rest[1]?

def bump : Read Unit := modify fun r => { r with rest := r.rest.drop 1 }

def bumpBlank : Read Unit := do bump; skipBlank

def bumpTo : Read Char := do bumpBlank; current

def expect? (t : Text) : Read Bool := do
  match Text.dropStart? t (← get).rest with
  | none => return false
  | some rest =>
    modify fun r => { r with rest }
    return true

def takeWhile (p : Char → Bool) : Nat → Read Text
  | 0 => return []
  | fuel + 1 => do
    match ← current? with
    | none => return []
    | some c =>
      if p c then
        bumpBlank
        return c :: (← takeWhile p fuel)
      else return []

def count : Read Nat := do
  modify fun r => { r with rest := r.rest.dropWhile isBlank }
  let digits ← takeWhile Char.isDigit (← remaining)
  let _ ← takeWhile isBlank (← remaining)
  let n ← Text.toNat? digits
  if n ≤ maxCount then return n else failure

def ofCodePoint (n : Nat) : Read Char :=
  if n.isValidChar then return Char.ofNat n else failure

def hexDigits : Nat → Read Text
  | 0 => return []
  | n + 1 => do
    let c ← current
    if (Unicode.CharSet.hexDigit? c).isNone then failure
    bumpBlank
    return c :: (← hexDigits n)

/-- The characters up to a closing brace, which is taken; at least the opening one comes
before them. -/
def braced : Read Text := do
  bumpBlank
  let body ← takeWhile (· != '}') (← remaining)
  let _ ← current
  return body

/-- A character by its code point, from the letter of the escape on: two, four or eight digits,
or any number of them in braces. -/
def codePoint : Read Literal := do
  let letter ← current
  let c ← bumpTo
  if c = '{' then
    let digits ← braced
    bumpBlank
    return { char := ← ofCodePoint (← Unicode.CharSet.hexValue? digits) }
  else
    let width := if letter = 'x' then 2 else if letter = 'u' then 4 else 8
    let digits ← hexDigits width
    let char ← ofCodePoint (← Unicode.CharSet.hexValue? digits)
    return { char, byte := letter == 'x' }

/-- Splits the name of a property at `!=`, at a colon or at an equals sign, the first of them
that occurs. Behind `!=` stands the value that the characters do not have. -/
def propertyName (t : Text) : PropertyName × Bool :=
  match cutAt t with
  | some (name, value) => (.withValue name value, true)
  | none =>
    if ':' ∈ t then (.withValue (Text.before ':' t) (Text.after ':' t), false)
    else if '=' ∈ t then (.withValue (Text.before '=' t) (Text.after '=' t), false)
    else (.single t, false)
where
  cutAt : Text → Option (Text × Text)
    | [] => none
    | '!' :: '=' :: rest => some ([], rest)
    | c :: rest => (cutAt rest).map fun (name, value) => (c :: name, value)

/-- A property, from the letter of the escape on: a name of one letter, or a text in braces. The
capital letter negates it. -/
def property : Read Primitive := do
  let capital := (← current) == 'P'
  let c ← bumpTo
  if c = '{' then
    let body ← braced
    bump
    let (name, negated) := propertyName body
    return .property name (capital != negated)
  else if c = '\\' then failure
  else
    bumpBlank
    return .property (.single [c]) capital

/-- The name in braces that tells the boundaries of a word apart, if there is one: nothing is
taken if the braces hold a count. -/
def boundaryName? : Read (Option Anchor) := do
  let isNameChar := fun (c : Char) => c.isAlpha || c == '-'
  let start ← get
  let c ← bumpTo
  if !isNameChar c then
    set start
    return none
  let name ← takeWhile isNameChar (← remaining)
  if (← current) ≠ '}' then failure
  bump
  if name = "start".toList then return some .wordStart
  else if name = "end".toList then return some .wordEnd
  else if name = "start-half".toList then return some .wordStartHalf
  else if name = "end-half".toList then return some .wordEndHalf
  else failure

def isMeta (c : Char) : Bool := "\\.+*?()|[]\x7b\x7d^$#&-~".toList.contains c

def isEscapable (c : Char) : Bool :=
  isMeta c || (c.toNat < 0x80 && !c.isAlphanum && c != '<' && c != '>')

def escape : Read Primitive := do
  bump
  let c ← current
  if c.isDigit then failure
  else if c = 'x' ∨ c = 'u' ∨ c = 'U' then return .literal (← codePoint)
  else if c = 'p' ∨ c = 'P' then property
  else
    bump
    if isEscapable c then return .literal { char := c }
    match c with
    | 'd' => return .short .digit false
    | 'D' => return .short .digit true
    | 's' => return .short .space false
    | 'S' => return .short .space true
    | 'w' => return .short .word false
    | 'W' => return .short .word true
    | 'a' => return .literal { char := '\x07' }
    | 'f' => return .literal { char := '\x0c' }
    | 't' => return .literal { char := '\t' }
    | 'n' => return .literal { char := '\n' }
    | 'r' => return .literal { char := '\r' }
    | 'v' => return .literal { char := '\x0b' }
    | 'A' => return .anchor .textStart
    | 'z' => return .anchor .textEnd
    | 'b' =>
      if (← current?) = some '{' then return .anchor ((← boundaryName?).getD .wordBoundary)
      else return .anchor .wordBoundary
    | 'B' => return .anchor .notWordBoundary
    | '<' => return .anchor .wordStart
    | '>' => return .anchor .wordEnd
    | _ => failure

def primitive : Read Primitive := do
  let c ← current
  if c = '\\' then escape
  else
    bump
    match c with
    | '.' => return .dot
    | '^' => return .anchor .lineStart
    | '$' => return .anchor .lineEnd
    | _ => return .literal { char := c }

def asciiNames : List String := [
  "alnum", "alpha", "ascii", "blank", "cntrl", "digit", "graph", "lower", "print", "punct",
  "space", "upper", "word", "xdigit"]

def asciiClass? : Read (Option ClassNode) := do
  match (← get).rest with
  | '[' :: ':' :: body =>
    let (negated, body) := match body with
      | '^' :: body => (true, body)
      | _ => (false, body)
    let name := Text.before ':' body
    match body.dropWhile (· != ':') with
    | ':' :: ']' :: rest =>
      if (asciiNames.map String.toList).contains name then
        modify fun r => { r with rest }
        return some (.ascii name negated)
      else return none
    | _ => return none
  | _ => return none

def classPrimitive : Read Primitive := do
  let c ← current
  if c = '\\' then escape
  else
    bump
    return .literal { char := c }

/-- The next character behind the current one: in verbose patterns white space, then a number
sign, then white space are passed over first. -/
def peekBlank? : Read (Option Char) := do
  let r ← get
  let rest := r.rest.drop 1
  if !r.verbose then return rest.head?
  let body := match rest.dropWhile isBlank with
    | '#' :: body => body.dropWhile isBlank
    | body => body
  return body.head? <|> rest.head?

def classItem : Read ClassNode := do
  let first ← classPrimitive
  skipBlank
  let c ← current
  let peeked ← if c = '-' then peekBlank? else pure none
  if c ≠ '-' ∨ peeked = some ']' ∨ peeked = some '-' then
    match first with
    | .literal l => return .literal l
    | .short kind negated => return .short kind negated
    | .property name negated => return .property name negated
    | .dot | .anchor _ => failure
  else
    let _ ← bumpTo
    match first, ← classPrimitive with
    | .literal first, .literal last =>
      if first.char ≤ last.char then return .range first last else failure
    | _, _ => failure

/-- An open class or an operator inside one, with what was read before it. -/
inductive ClassFrame where
  | opened (outer : List ClassNode) (negated : Bool)
  | operated (operator : ClassOperator) (left : ClassNode)

def classHyphens : Nat → Read (List ClassNode)
  | 0 => return []
  | fuel + 1 => do
    if (← current) = '-' then
      let _ ← bumpTo
      return .literal { char := '-' } :: (← classHyphens fuel)
    else return []

/-- The start of a class: its bracket, a caret, hyphens, and a closing bracket if nothing comes
before it. -/
def openClass : Read (Bool × List ClassNode) := do
  let c ← bumpTo
  let negated := c == '^'
  if negated then let _ ← bumpTo
  let hyphens ← classHyphens (← remaining)
  if hyphens.isEmpty ∧ (← current) = ']' then
    let _ ← bumpTo
    return (negated, [.literal { char := ']' }])
  return (negated, hyphens)

def closeOperation (right : ClassNode) : List ClassFrame → ClassNode × List ClassFrame
  | .operated operator left :: frames => (.operation operator left right, frames)
  | frames => (right, frames)

def classOperator? (c : Char) : Option ClassOperator :=
  if c = '&' then some .intersection
  else if c = '-' then some .difference
  else if c = '~' then some .symmetricDifference
  else none

/-- A class in brackets, given the open classes and the parts of the innermost one, the last
first. -/
def classBody : Nat → List ClassFrame → List ClassNode → Read Node
  | 0, _, _ => failure
  | fuel + 1, frames, items => do
    skipBlank
    let c ← current
    if c = '[' then
      match ← if frames.isEmpty then pure none else asciiClass? with
      | some item => classBody fuel frames (item :: items)
      | none =>
        let (negated, inner) ← openClass
        classBody fuel (.opened items negated :: frames) inner.reverse
    else if c = ']' then
      match closeOperation (ClassNode.ofItems items.reverse) frames with
      | (body, .opened outer negated :: frames) =>
        bump
        if frames.isEmpty then return .bracket negated body
        else classBody fuel frames (.bracket negated body :: outer)
      | _ => failure
    else
      match classOperator? c, (← following?) == some c with
      | some operator, true =>
        bump
        bump
        let (left, frames) := closeOperation (ClassNode.ofItems items.reverse) frames
        classBody fuel (.operated operator left :: frames) []
      | _, _ =>
        let item ← classItem
        classBody fuel frames (item :: items)

def switch? (c : Char) : Option Switch :=
  match c with
  | 'i' => some .ignoreCase
  | 'm' => some .multiLine
  | 's' => some .dotAll
  | 'U' => some .swapGreed
  | 'u' => some .unicode
  | 'R' => some .crlf
  | 'x' => some .verbose
  | _ => none

/-- The switches of a group up to its colon or its closing parenthesis. No switch occurs twice,
there is one hyphen at most, and something comes behind it. -/
def switches (negated : Bool) (changes : List SwitchChange) : Nat → Read (List SwitchChange)
  | 0 => failure
  | fuel + 1 => do
    let c ← current
    if c = ':' ∨ c = ')' then return changes
    bump
    if c = '-' then
      let next ← current
      if negated ∨ next = ':' ∨ next = ')' then failure
      switches true changes fuel
    else
      let s ← switch? c
      if changes.any (·.1 == s) then failure
      switches negated (changes ++ [(s, !negated)]) fuel

def alphabetic : Unicode.CharSet :=
  Unicode.Property.alphabetic.chars.union Unicode.Recent.alphabetic

def numeric : Unicode.CharSet :=
  (Unicode.Category.charsOf ["Nd", "Nl", "No"]).union Unicode.Recent.numeric

def isNameChar (first : Bool) (c : Char) : Bool :=
  c == '_' || alphabetic.contains c ||
    (!first && (c == '.' || c == '[' || c == ']' || numeric.contains c))

/-- The name of a group, up to the angle bracket that ends it. No two groups share a name. -/
def captureName : Read Unit := do
  let r ← get
  let name := Text.before '>' r.rest
  match r.rest.dropWhile (· != '>') with
  | [] => failure
  | _ :: rest =>
    match name with
    | [] => failure
    | c :: more =>
      if !isNameChar true c || !more.all (isNameChar false) || r.names.contains name then failure
      set { r with rest, names := name :: r.names }

inductive Opening where
  | switches (changes : List SwitchChange)
  | capture (index : Nat)
  | group (changes : List SwitchChange)

def nextCapture : Read Nat := do
  modify fun r => { r with captures := r.captures + 1 }
  return (← get).captures

def opening : Read Opening := do
  bumpBlank
  if (← expect? "?=".toList) || (← expect? "?!".toList) || (← expect? "?<=".toList) ||
      (← expect? "?<!".toList) then failure
  if (← expect? "?P<".toList) || (← expect? "?<".toList) then
    let index ← nextCapture
    captureName
    return .capture index
  else if ← expect? "?".toList then
    let changes ← switches false [] ((← remaining) + 1)
    let closing ← current
    bump
    if closing = ':' then return .group changes
    if changes.isEmpty then failure
    return .switches changes
  else return .capture (← nextCapture)

structure Frame where
  branches : List Node
  parts : List Node
  wrap : Node → Node
  verbose : Bool

def reluctant : Read Bool := do
  if (← current?) = some '?' then
    bump
    return true
  else return false

def braces : Read (Nat × Option Nat × Bool) := do
  let _ ← bumpTo
  let min ← count
  let max ← do
    if (← current) = ',' then
      if (← bumpTo) = '}' then pure none else pure (some (← count))
    else pure (some min)
  if (← current) ≠ '}' then failure
  bumpBlank
  let greedy := !(← reluctant)
  match max with
  | some max => if min ≤ max then return (min, some max, greedy) else failure
  | none => return (min, none, greedy)

def repeatLast (min : Nat) (max : Option Nat) (greedy : Bool) : List Node → Read (List Node)
  | [] | .empty :: _ | .switches _ :: _ => failure
  | part :: parts => return .repetition part min max greedy :: parts

def verboseOf (changes : List SwitchChange) (verbose : Bool) : Bool :=
  (changes.lookup .verbose).getD verbose

def nodeOf : Primitive → Node
  | .literal l => .literal l
  | .dot => .dot
  | .anchor a => .anchor a
  | .short kind negated => .short kind negated
  | .property name negated => .property name negated

/-- A pattern, given the open groups and the branches and parts of the innermost one, the last
first. -/
def body : Nat → List Frame → List Node → List Node → Read Node
  | 0, _, _, _ => failure
  | fuel + 1, frames, branches, parts => do
    skipBlank
    let branch := Node.ofParts parts.reverse
    match ← current? with
    | none =>
      if frames.isEmpty then return Node.ofBranches (branch :: branches).reverse else failure
    | some '(' =>
      match ← opening with
      | .switches changes =>
        modify fun r => { r with verbose := verboseOf changes r.verbose }
        body fuel frames branches (.switches changes :: parts)
      | .capture index =>
        let verbose := (← get).verbose
        let frame := { branches, parts, wrap := Node.capture index, verbose }
        if frames.length < maxDepth then body fuel (frame :: frames) [] [] else failure
      | .group changes =>
        let verbose := (← get).verbose
        modify fun r => { r with verbose := verboseOf changes r.verbose }
        let frame := { branches, parts, wrap := Node.group changes, verbose }
        if frames.length < maxDepth then body fuel (frame :: frames) [] [] else failure
    | some ')' =>
      match frames with
      | [] => failure
      | frame :: frames =>
        bump
        modify fun r => { r with verbose := frame.verbose }
        let inner := Node.ofBranches (branch :: branches).reverse
        body fuel frames frame.branches (frame.wrap inner :: frame.parts)
    | some '|' =>
      bump
      body fuel frames (branch :: branches) []
    | some '[' =>
      let item ← classBody ((← remaining) + 1) [] []
      body fuel frames branches (item :: parts)
    | some '?' =>
      bump
      let greedy := !(← reluctant)
      body fuel frames branches (← repeatLast 0 (some 1) greedy parts)
    | some '*' =>
      bump
      let greedy := !(← reluctant)
      body fuel frames branches (← repeatLast 0 none greedy parts)
    | some '+' =>
      bump
      let greedy := !(← reluctant)
      body fuel frames branches (← repeatLast 1 none greedy parts)
    | some '{' =>
      let (min, max, greedy) ← braces
      body fuel frames branches (← repeatLast min max greedy parts)
    | some _ =>
      let item ← primitive
      body fuel frames branches (nodeOf item :: parts)

end Read

def Node.ofText? (t : Text) : Option Node := do
  let (node, _) ← (Read.body (t.length + 1) [] [] []).run { rest := t }
  if node.depth ≤ maxDepth then some node else none

end Reroute.Pattern
