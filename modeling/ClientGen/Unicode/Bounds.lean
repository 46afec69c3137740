/-!
# Sets of numbers given by their bounds

A set of code points with long runs is written down by the points at which membership changes.

## Main definitions

* `inBounds` — membership in the set whose membership changes at each of the given bounds.
-/

set_option autoImplicit false

namespace ClientGen.Unicode

/-- Membership in the set that begins at the first of the ascending bounds, ends at the second,
begins again at the third and so on. -/
def inBounds : List Nat → Nat → Bool
  | [], _ => false
  | bound :: rest, n => decide (bound ≤ n) && !inBounds rest n

end ClientGen.Unicode
