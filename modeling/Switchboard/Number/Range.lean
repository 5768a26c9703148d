/-!
# Ranges of machine integers

The bounds of the integers that fit into so many bits, with a sign and without.
-/

namespace Switchboard.Number

/-- The least signed integer of so many bits. -/
def leastSigned (bits : Nat) : Int := -(Nat.pow 2 (bits - 1) : Nat)

/-- The largest signed integer of so many bits. -/
def largestSigned (bits : Nat) : Int := (Nat.pow 2 (bits - 1) : Nat) - 1

/-- The largest unsigned integer of so many bits. -/
def largestUnsigned (bits : Nat) : Nat := Nat.pow 2 bits - 1

/-- Does the integer fit into so many bits, one of them the sign? -/
def fitsSigned (bits : Nat) (n : Int) : Bool := leastSigned bits ≤ n && n ≤ largestSigned bits

end Switchboard.Number
