/-!
Counts of 64 bits, as flags, options and stored data hold them.
-/

namespace Reroute.Count

def bound : Nat := 0x10000000000000000

/-- The product of two counts, or the largest count if that is less. -/
def product (a b : Nat) : Nat := min (a * b) (bound - 1)

end Reroute.Count
