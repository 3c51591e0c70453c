/-!
# Sets of code points

A property of characters is a list of closed ranges of code points; a character has it if one of
them holds its code point.
-/

namespace DartTransfer

abbrev CodePoints := List (Nat × Nat)

def CodePoints.has (s : CodePoints) (c : Char) : Bool :=
  s.any fun (lo, hi) => lo ≤ c.toNat && c.toNat ≤ hi

end DartTransfer
