import Reroute.Proofs.CharSets
import Reroute.Unicode.Digit

/-!
# Decimal digits

The digits of references and those that a pattern can name come from two tables: one lists the zeros
of all sets of digits, the other gives the general category of every character. They are the same
characters.
-/

namespace Reroute.Unicode

namespace Digit

def ranges : List (Nat × Nat) := CharSet.joinRanges (zeros.map fun first => (first, first + 9))

end Digit

end Reroute.Unicode
