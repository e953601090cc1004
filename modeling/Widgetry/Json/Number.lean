import Widgetry.Decimal.Layout

/-!
Numbers of documents. A number without fraction and exponent that fits into 64 bits is kept as an
integer, every other one as a double. A double is read from the leading digits that fit into 64
bits, scaled by one power of ten, and refused when it overflows.
-/

namespace Widgetry.Json

open Widgetry.Decimal (Binary Format double)

/-- The written parts of a number: digits before the point, digits after it, and the exponent with
its sign. -/
structure Numeral where
  negative : Bool
  whole : List Nat
  fraction : Option (List Nat)
  exponent : Option (Bool × List Nat)
  deriving Repr, DecidableEq

/-- A number of a document. Numbers that are read have the format of 64 bits. -/
inductive Number where
  | int (value : Int)
  | real (format : Format) (value : Binary)
  deriving Repr, DecidableEq

/-- The greatest natural number of 64 bits. -/
def greatest : Nat := Decimal.twoTo 64 - 1

/-- The greatest exponent of ten that a numeral may spell out. -/
def greatestExponent : Nat := Decimal.twoTo 31 - 1

/-- Appends digits to a significand for as long as it fits into 64 bits, and counts the digits
appended. -/
def absorb (significand : Nat) : List Nat → Nat × Nat
  | [] => (significand, 0)
  | d :: ds =>
    if significand * 10 + d ≤ greatest then
      let (s, n) := absorb (significand * 10 + d) ds
      (s, n + 1)
    else (significand, 0)

/-- A significand times a power of ten, or nothing when it overflows. A division by more than ten to
the 308 is made in steps of that size. -/
def scale (x : Binary) (exponent : Int) : Option Binary :=
  if 308 < exponent then
    if x.isZero then some x else none
  else if exponent < -308 then
    if x.isZero then some x else scale (x.timesPowerOfTen double (-308)) (exponent + 308)
  else
    match x.timesPowerOfTen double exponent with
    | .finite neg m e => some (.finite neg m e)
    | _ => none
termination_by exponent.natAbs
decreasing_by omega

namespace Numeral

/-- The value of an exponent, nothing when it is too great to be spelled out. -/
def exponentValue (ds : List Nat) : Option Nat :=
  let n := ds.foldl (fun n d => n * 10 + d) 0
  if n ≤ greatestExponent then some n else none

/-- The double with the given significand and exponent, and the numeral's sign. -/
def real (n : Numeral) (significand : Nat) (exponent : Int) : Option Number :=
  (scale (double.round false significand 1) exponent).map fun x =>
    .real double (if n.negative then x.negate else x)

/-- The double of a numeral with a fraction, an exponent, or too many digits: digits before the
point that do not fit count as a power of ten, digits after it that do not fit are dropped. -/
def toReal (n : Numeral) : Option Number :=
  let (whole, used) := absorb 0 n.whole
  let (significand, places) := absorb whole (n.fraction.getD [])
  let exponent : Int := (n.whole.length - used : Nat) - (places : Int)
  match n.exponent with
  | none => n.real significand exponent
  | some (neg, ds) =>
    match exponentValue ds with
    | some e => n.real significand (if neg then exponent - e else exponent + e)
    | none => if significand == 0 || neg then n.real 0 0 else none

/-- The number that a numeral stands for, nothing when it is out of range. -/
def value (n : Numeral) : Option Number :=
  let (whole, used) := absorb 0 n.whole
  if n.fraction.isNone && n.exponent.isNone && used == n.whole.length then
    if !n.negative then some (.int whole)
    else if 0 < whole && whole ≤ Decimal.twoTo 63 then some (.int (-whole))
    else n.toReal
  else n.toReal

end Numeral

namespace Number

/-- Real numbers are written positionally with a point in any case, doubles from `0.00001` up to
below ten to the sixteenth, numbers of 32 bits from `0.000001` up to below ten to the thirteenth;
outside, in scientific notation with a signed exponent. A tie goes to the even digit. -/
def layout (f : Format) : Widgetry.Decimal.Layout :=
  if f == double then ⟨some (-5), some 15, true, true, .even⟩
  else ⟨some (-6), some 12, true, true, .even⟩

/-- The text of a number. -/
def text : Number → String
  | .int i => toString i
  | .real f x => (layout f).text f x

end Number

end Widgetry.Json
