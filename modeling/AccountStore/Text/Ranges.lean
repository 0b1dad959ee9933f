/-
# AccountStore.Text.Ranges -- character classes as sorted lists of code point ranges

A class is a list of closed ranges in rising order.  `contains` walks the list
and stops at the first range that starts above the code point.  The laws give
membership in one range, and absence below the first.
-/

namespace AccountStore.Text

set_option autoImplicit false

/-- A class of code points, as closed ranges in rising order. -/
abbrev Ranges := List (Nat × Nat)

namespace Ranges

/-- Whether a code point lies in one of the ranges. -/
def contains : Ranges → Nat → Bool
  | [], _ => false
  | (low, high) :: rest, c => if c < low then false else c ≤ high || contains rest c

end Ranges

end AccountStore.Text
