import Widgetry.Decimal.Binary

/-!
The shortest decimal digits of a binary number: of all decimals that round to the number, one with
the fewest digits, and of those the nearest. Both neighbours of the number on the grids of one, two,
three and more digits are tried in exact arithmetic; the caller says which of two neighbours at the
same distance is taken.
-/

namespace Widgetry.Decimal

/-- A decimal number `0.d₁d₂… · 10^point` by its digits; zero has the single digit 0. -/
structure Digits where
  digits : List Nat
  point : Int
  deriving Repr, DecidableEq

/-- The decimal digits of a natural number, most significant first. -/
def digitsOf (n : Nat) : List Nat :=
  (Nat.toDigits 10 n).map fun c => c.toNat - '0'.toNat

/-- The exponent of the first digit of a positive fraction. -/
def leadingPlace (num den : Nat) : Int :=
  if den ≤ num then ((digitsOf (num / den)).length : Int) - 1
  else -((digitsOf ((den + num - 1) / num - 1)).length : Int)

/-- Fractions compared by cross multiplication. -/
def fractionLE (a b : Nat × Nat) : Bool :=
  a.1 * b.2 ≤ b.1 * a.2

/-- A decimal `count · 10^place` as a fraction. -/
def gridPoint (count : Nat) (place : Int) : Nat × Nat :=
  if place < 0 then (count, tenTo place.natAbs) else (count * tenTo place.natAbs, 1)

/-- Which of two neighbours at the same distance is taken: the even one, or the one farther from
zero. -/
inductive Tie where
  | even
  | away
  deriving Repr, DecidableEq

/-- The nearest integer to a fraction. -/
def Tie.nearest (t : Tie) (num den : Nat) : Nat :=
  match t with
  | .even => Decimal.nearest num den
  | .away => (2 * num + den) / (2 * den)

/-- The decimals that round to a number: its two ends, which count when the mantissa is even. -/
structure Interval where
  low : Nat × Nat
  high : Nat × Nat
  closed : Bool

namespace Interval

/-- Whether a fraction lies in an interval. -/
def contains (i : Interval) (x : Nat × Nat) : Bool :=
  if i.closed then fractionLE i.low x && fractionLE x i.high
  else !fractionLE x i.low && !fractionLE i.high x

/-- The interval of the fractions that round to `m · 2^e`. -/
def around (f : Format) (m : Nat) (e : Int) : Interval :=
  let narrow := m == twoTo (f.precision - 1) && f.least < e
  ⟨scaled (4 * m - if narrow then 1 else 2) 1 (e - 2), scaled (4 * m + 2) 1 (e - 2), m % 2 == 0⟩

end Interval

/-- The count of a grid's better neighbour of a number among those inside the interval. -/
def neighbour? (t : Tie) (i : Interval) (x : Nat × Nat) (place : Int) : Option Nat :=
  let unit := gridPoint 1 place
  let num := x.1 * unit.2
  let den := x.2 * unit.1
  let below := num / den
  let inBelow := i.contains (gridPoint below place)
  let inAbove := i.contains (gridPoint (below + 1) place)
  if inBelow && inAbove then some (t.nearest num den)
  else if inBelow then some below
  else if inAbove then some (below + 1)
  else none

/-- Digits without the zeros at their end. -/
def dropZeros (ds : List Nat) : List Nat :=
  (ds.reverse.dropWhile (· == 0)).reverse

/-- The shortest digits of a finite number of a format. -/
def shortest (t : Tie) (f : Format) (m : Nat) (e : Int) : Digits :=
  if m == 0 then ⟨[0], 1⟩
  else
    let x := scaled m 1 e
    let i := Interval.around f m e
    let lead := leadingPlace x.1 x.2
    match (List.range 17).findSome? fun (n : Nat) =>
        let place := lead - (n : Int)
        (neighbour? t i x place).map fun count => (count, place) with
    | some (count, place) =>
      let ds := digitsOf count
      ⟨dropZeros ds, place + ds.length⟩
    | none => ⟨[0], 1⟩

end Widgetry.Decimal
