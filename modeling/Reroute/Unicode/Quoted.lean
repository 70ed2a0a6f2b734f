import Reroute.Unicode.Property
import Reroute.Unicode.Recent

/-!
A text in quotes, with escapes for what cannot be read in print.
-/

namespace Reroute.Unicode

/-- The characters that stay as they are in quotes: those with a visible shape of their own, and
the space. Marks that join the character before them have none, nor have fillers. -/
def printableChars : CharSet :=
  let invisible := (Category.charsOf ["Cc", "Cf", "Cs", "Co", "Cn", "Zl", "Zp", "Zs"]).union
    (Property.graphemeExtend.chars.union Property.defaultIgnorableCodePoint.chars)
  (invisible.complement.union Recent.visible).union (CharSet.singleton ' ')

def hexText (n : Nat) : Text := Nat.toDigits 16 n

def escape (c : Char) : Text :=
  if c = '\x00' then "\\0".toList
  else if c = '\t' then "\\t".toList
  else if c = '\r' then "\\r".toList
  else if c = '\n' then "\\n".toList
  else if c = '"' then "\\\"".toList
  else if c = '\\' then "\\\\".toList
  else if printableChars.contains c then [c]
  else "\\u\x7b".toList ++ hexText c.toNat ++ "\x7d".toList

def quote (t : Text) : Text := '"' :: t.flatMap escape ++ ['"']

end Reroute.Unicode
