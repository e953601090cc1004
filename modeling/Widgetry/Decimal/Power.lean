/-!
Powers of two and of ten, and the integers that so many bits can hold.
-/

namespace Widgetry.Decimal

/-- Two to a power. -/
def twoTo (n : Nat) : Nat := Nat.pow 2 n

/-- Ten to a power. -/
def tenTo (n : Nat) : Nat := Nat.pow 10 n

/-- Whether an integer is a natural number of so many bits. -/
def isNaturalOf (bits : Nat) (i : Int) : Bool :=
  0 ≤ i && i < twoTo bits

/-- Whether an integer fits into so many bits, one of which is its sign. -/
def fitsSigned (bits : Nat) (i : Int) : Bool :=
  -(twoTo (bits - 1) : Int) ≤ i && i < twoTo (bits - 1)

end Widgetry.Decimal
