/-!
Sets of characters given by the increasing code points at which membership flips.
-/

namespace Prelaunch.Text

structure CodeSet where
  flips : List Nat

namespace CodeSet

/-- Whether an odd number of leading flips lie at or below the code point. -/
def isInside : List Nat → Nat → Bool
  | [], _ => false
  | b :: rest, c => if c < b then false else !isInside rest c

def contains (s : CodeSet) (c : Char) : Bool := isInside s.flips c.toNat

end CodeSet

end Prelaunch.Text
