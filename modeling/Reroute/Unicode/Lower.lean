import Reroute.Unicode.Casing
import Reroute.Unicode.Property
import Reroute.Unicode.Recent

/-!
The lower case of a text, where a character may depend on its neighbours.
-/

namespace Reroute.Unicode

def casedChars : CharSet :=
  (Property.cased.chars.union Recent.cased).difference Recent.uncased

def caseIgnorableChars : CharSet := Property.caseIgnorable.chars.union Recent.caseIgnorable

def startsCased (t : Text) : Bool :=
  match t.dropWhile caseIgnorableChars.contains with
  | [] => false
  | c :: _ => casedChars.contains c

/-- The lower case of a text, given the characters before it, the nearest first. A capital sigma
at the end of a word has a form of its own, and the dotted capital I keeps its dot. -/
def lowerAfter (before : Text) : Text → Text
  | [] => []
  | c :: rest =>
    let lowered :=
      if c = 'Σ' then
        if startsCased before && !startsCased rest then ['ς'] else ['σ']
      else if c = 'İ' then ['i', '\u0307']
      else [((Recent.lowerShifts.findSome? (Casing.Shift.moved? · c)).getD (Casing.lower c))]
    lowered ++ lowerAfter (c :: before) rest

end Reroute.Unicode

namespace Reroute.Text

def lower (t : Text) : Text := Unicode.lowerAfter [] t

end Reroute.Text
