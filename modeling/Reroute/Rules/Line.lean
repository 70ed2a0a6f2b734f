import Reroute.Text

/-!
The lines of a rule text and the grammar of one line.

A line is blank, a comment, a condition, a rule, some other directive, or malformed. Only the
first word decides between the last four, and only its two keywords have a grammar to break.
-/

namespace Reroute

inductive Kind where
  | condition
  | rule
  deriving DecidableEq, Repr

/-- The two fields of a statement and the tokens of its flag list.

For a condition the fields are the test string and the pattern, for a rule the pattern and
the substitution. -/
structure Fields where
  first : Text
  second : Text
  flags : List Text
  deriving DecidableEq, Repr

inductive Reading where
  | blank
  | comment
  | statement (kind : Kind) (fields : Fields)
  | unrecognized
  | malformed
  deriving DecidableEq, Repr

inductive Category where
  | blank
  | comment
  | condition
  | rule
  | unrecognized
  | malformed
  deriving DecidableEq, Repr

/-- A line of a rule text: its number, counted from one, and its text without the white space
around it. -/
structure Line where
  number : Nat
  text : Text
  category : Category
  deriving DecidableEq, Repr

namespace Kind

def keyword : Kind → Text
  | .condition => "RewriteCond".toList
  | .rule => "RewriteRule".toList

def ofWord? (word : Text) : Option Kind :=
  if Text.lowerAscii word = Text.lowerAscii (keyword .condition) then some .condition
  else if Text.lowerAscii word = Text.lowerAscii (keyword .rule) then some .rule
  else none

def category : Kind → Category
  | .condition => .condition
  | .rule => .rule

end Kind

namespace Category

def name : Category → String
  | .blank => "blank"
  | .comment => "comment"
  | .condition => "condition"
  | .rule => "rule"
  | .unrecognized => "unrecognized"
  | .malformed => "malformed"

end Category

namespace Fields

/-- A field: at least one space or tab, then at least one character that is not white space.
Returns the field and what follows it. -/
def next? (t : Text) : Option (Text × Text) :=
  let body := t.dropWhile isSpace
  let field := body.takeWhile (!isBlank ·)
  if body.length < t.length ∧ field ≠ [] then some (field, body.dropWhile (!isBlank ·))
  else none

def isFlagSeparator (c : Char) : Bool := c == ',' || isBlank c

def flags? (t : Text) : Option (List Text) :=
  match t.dropWhile isSpace with
  | [] => some []
  | '[' :: list =>
    match list.dropWhile (· != ']') with
    | [] => none
    | _ :: tail =>
      if tail.all isSpace then some (Text.runs isFlagSeparator (list.takeWhile (· != ']')))
      else none
  | _ => none

def ofText? (t : Text) : Option Fields := do
  let (first, rest) ← next? t
  let (second, rest) ← next? rest
  let flags ← flags? rest
  return { first, second, flags }

end Fields

namespace Reading

def ofText (t : Text) : Reading :=
  match t with
  | [] => .blank
  | '#' :: _ => .comment
  | _ =>
    match Kind.ofWord? (t.takeWhile (!isBlank ·)) with
    | none => .unrecognized
    | some kind =>
      match Fields.ofText? (t.dropWhile (!isBlank ·)) with
      | some fields => .statement kind fields
      | none => .malformed

def category : Reading → Category
  | .blank => .blank
  | .comment => .comment
  | .statement kind _ => kind.category
  | .unrecognized => .unrecognized
  | .malformed => .malformed

end Reading

namespace Line

/-- The lines of a text. A line ends with a line feed, a carriage return or the two together;
the last line needs no end, and nothing after the last end is no line. -/
def split : Text → List Text
  | [] => []
  | '\r' :: '\n' :: rest => [] :: split rest
  | c :: rest =>
    if c = '\r' ∨ c = '\n' then [] :: split rest
    else match split rest with
      | [] => [[c]]
      | line :: lines => (c :: line) :: lines

/-- The lines of a text with their numbers, without the white space around them. -/
def numbered (t : Text) : List (Nat × Text) :=
  (split t).zipIdx.map fun (line, i) => (i + 1, Text.trim line)

def ofText (t : Text) : List Line :=
  (numbered t).map fun (number, text) =>
    { number, text, category := (Reading.ofText text).category }

def display (line : Line) : Text :=
  let number := Text.ofNat line.number
  List.replicate (4 - number.length) ' ' ++ number ++ " [".toList ++ line.category.name.toList ++
    "] ".toList ++ line.text

end Line

end Reroute
