/-!
# Sets of code points

A property of characters that a standard gives as a table is a list of ranges of
code points, ascending and apart. A look-up goes through the list and stops at the
first range that begins past the code point, so common characters, which come
first, are found out at once.
-/

namespace Descent.Text

/-- Ranges of code points, both ends included, in ascending order. -/
abbrev Ranges := List (Nat × Nat)

namespace Ranges

/-- Whether a code point lies in one of the ranges. -/
def contains : Ranges → Nat → Bool
  | [], _ => false
  | (low, high) :: rest, code =>
      if code < low then false else code ≤ high || contains rest code

end Ranges

end Descent.Text
