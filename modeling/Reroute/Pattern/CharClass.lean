import Reroute.Pattern.Node
import Reroute.Unicode.Age
import Reroute.Unicode.Casing
import Reroute.Unicode.Script
import Reroute.Unicode.Segment

/-!
The characters of the classes that a pattern can name.

With the Unicode switch on, classes range over all characters. With it off they hold ASCII
characters alone, and a class that would reach beyond them has no value.
-/

namespace Reroute.Pattern

open Unicode (CharSet)

namespace CharClass

def ascii (name : Text) : CharSet :=
  let table : List (String × List (Char × Char)) := [
    ("alnum", [('0', '9'), ('A', 'Z'), ('a', 'z')]),
    ("alpha", [('A', 'Z'), ('a', 'z')]),
    ("ascii", [('\x00', '\x7f')]),
    ("blank", [('\t', '\t'), (' ', ' ')]),
    ("cntrl", [('\x00', '\x1f'), ('\x7f', '\x7f')]),
    ("digit", [('0', '9')]),
    ("graph", [('!', '~')]),
    ("lower", [('a', 'z')]),
    ("print", [(' ', '~')]),
    ("punct", [('!', '/'), (':', '@'), ('[', '\x60'), ('\x7b', '~')]),
    ("space", [('\t', '\r'), (' ', ' ')]),
    ("upper", [('A', 'Z')]),
    ("word", [('0', '9'), ('A', 'Z'), ('_', '_'), ('a', 'z')]),
    ("xdigit", [('0', '9'), ('A', 'F'), ('a', 'f')])]
  match table.find? (·.1.toList == name) with
  | some (_, ranges) => .ofRanges (ranges.map fun (a, b) => (a.toNat, b.toNat))
  | none => .empty

def digits : CharSet := Unicode.Category.charsOf ["Nd"]

def spaces : CharSet := Unicode.Property.whiteSpace.chars

def words : CharSet :=
  Unicode.Property.alphabetic.chars.union
    ((Unicode.Category.charsOf ["Mn", "Mc", "Me", "Nd", "Pc"]).union
      Unicode.Property.joinControl.chars)

def short (unicode : Bool) : ShortClass → CharSet
  | .digit => if unicode then digits else ascii "digit".toList
  | .space => if unicode then spaces else ascii "space".toList
  | .word => if unicode then words else ascii "word".toList

/-- A name of a property without the differences that do not count: case, spaces, hyphens,
underscores, characters beyond ASCII and a leading "is". -/
def normalize (name : Text) : Text :=
  let startsWithIs := Text.lowerAscii (name.take 2) = "is".toList
  let body := if startsWithIs then name.drop 2 else name
  let body := Text.lowerAscii (body.filter fun c =>
    c != ' ' && c != '_' && c != '-' && c.toNat < 0x80)
  if startsWithIs ∧ body = ['c'] then "isc".toList else body

def names (name : Text) (full : String) : Bool := normalize full.toList == name

/-- The characters of the general category with a normalized name. Surrogates are no
characters. -/
def category? (name : Text) : Option CharSet :=
  if name = "any".toList then some .full
  else if name = "assigned".toList then some (Unicode.Category.charsOf ["Cn"]).complement
  else if name = "ascii".toList then some (ascii name)
  else
    let codes := Unicode.Category.groups ++
      Unicode.Category.names.map fun (_, code, full) => (code, full, [code])
    (codes.find? fun (code, full, _) => names name code || names name full).bind
      fun (code, _, codes) =>
        if code = "Cs" then none else some (Unicode.Category.charsOf codes)

def categoryAlias (name : Text) : Text :=
  if name = "punct".toList then "p".toList
  else if name = "digit".toList then "nd".toList
  else if name = "cntrl".toList then "cc".toList
  else if name = "combiningmark".toList then "m".toList
  else name

def script? (name : Text) : Option String :=
  (Unicode.Script.names.find? fun (code, full) =>
    names name code || names name full || (code = "Copt" && name == "qaac".toList) ||
      (code = "Zinh" && name == "qaai".toList)).map (·.1)

def property? (properties : List Unicode.Property) (name : Text) : Option Unicode.Property :=
  properties.find? fun p => names name p.name || p.aliases.any (names name)

/-- The version of the character set with a normalized name: its number, or the digits of the
number behind a `v`. -/
def version? (name : Text) : Option String :=
  (Unicode.Age.versions.find? fun (version, _) =>
    name = version.toList ∨ name = 'v' :: version.toList.filter (· != '.')).map (·.1)

def graphemeClass? (name : Text) : Option CharSet :=
  if name = "lv".toList then some Unicode.Segment.openSyllables
  else if name = "lvt".toList then some Unicode.Segment.closedSyllables
  else (property? Unicode.Segment.graphemeClasses name).map Unicode.Segment.chars

def single? (name : Text) : Option CharSet :=
  let name := normalize name
  (property? Unicode.Property.all name).map Unicode.Property.chars <|>
    category? (categoryAlias name) <|> (script? name).map Unicode.Script.chars

def withValue? (name value : Text) : Option CharSet :=
  let name := normalize name
  let value := normalize value
  if name = "gc".toList ∨ name = "generalcategory".toList then category? (categoryAlias value)
  else if name = "sc".toList ∨ name = "script".toList then
    (script? value).map Unicode.Script.chars
  else if name = "scx".toList ∨ name = "scriptextensions".toList then
    (script? value).map Unicode.Script.extendedChars
  else if name = "age".toList then (version? value).map Unicode.Age.chars
  else if name = "gcb".toList ∨ name = "graphemeclusterbreak".toList then graphemeClass? value
  else if name = "wb".toList ∨ name = "wordbreak".toList then
    (property? Unicode.Segment.wordClasses value).map Unicode.Segment.chars
  else if name = "sb".toList ∨ name = "sentencebreak".toList then
    (property? Unicode.Segment.sentenceClasses value).map Unicode.Segment.chars
  else none

def ofProperty? : PropertyName → Option CharSet
  | .single name => single? name
  | .withValue name value => withValue? name value

/-- The set with all characters that differ from one of its characters in case alone. -/
def foldUnicode (s : CharSet) : CharSet :=
  let folds := CharSet.ofList
    ((Unicode.Casing.foldPairs.filter fun (c, f) => s.contains c || s.contains f).map (·.2))
  let more := (Unicode.Casing.foldPairs.filter fun (_, f) => folds.contains f).map (·.1)
  (s.union folds).union (.ofList more)

def foldAscii (s : CharSet) : CharSet :=
  s.union (.ofList (((List.range 0x80).map Char.ofNat).filter fun c =>
    s.contains c.toLower || s.contains c.toUpper))

end CharClass

end Reroute.Pattern
