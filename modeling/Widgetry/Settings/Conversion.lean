import Widgetry.Decimal.Layout
import Widgetry.Decimal.Reading
import Widgetry.Toml.Value

/-!
What a value of a document means for a setting of some type. Scalars are converted: numbers and
truth values have a text, texts and truth values may be numbers, and a real number is rounded to the
nearest integer, a half away from zero.
-/

namespace Widgetry.Settings

open Decimal (Binary)
open Toml (Value)

/-- The texts that are read as the number one. -/
def wordsForOne : List String := ["true", "on", "yes"]

/-- The texts that are read as the number zero. -/
def wordsForZero : List String := ["false", "off", "no"]

/-- The text of a scalar. -/
def asText? : Value → Option String
  | .text s => some s
  | .moment s => some s
  | .integer i => some (toString i)
  | .float x => some (Decimal.plain.text Decimal.double x)
  | .boolean b => some (if b then "true" else "false")
  | _ => none

/-- The texts of an array of scalars. -/
def asTexts? : Value → Option (List String)
  | .array items => items.mapM asText?
  | _ => none

/-- The natural number of 64 bits that is nearest to a real number; no number counts as zero. -/
def nearestNatural : Binary → Nat
  | .undefined => 0
  | .infinite neg => if neg then 0 else Decimal.twoTo 64 - 1
  | x => min ((x.toInt.getD 0).toNat) (Decimal.twoTo 64 - 1)

/-- The natural number that a text stands for. -/
def naturalOfText? (s : String) : Option Nat :=
  let cs := Text.lowerAscii s.toList
  let word := String.ofList cs
  if word ∈ wordsForOne then some 1
  else if word ∈ wordsForZero then some 0
  else match cs with
    | '+' :: ds => Decimal.natural? ds
    | ds => Decimal.natural? ds

/-- The natural number below a bound that a scalar stands for. -/
def asNatural? (bound : Nat) (v : Value) : Option Nat :=
  let n? : Option Nat := match v with
    | .integer i => if 0 ≤ i then some i.toNat else none
    | .float x => some (nearestNatural x)
    | .boolean b => some (if b then 1 else 0)
    | .text s => (naturalOfText? s).filter (· < Decimal.twoTo 64)
    | _ => none
  n?.filter (· < bound)

/-- The real number of 64 bits that a text stands for. -/
def realOfText? (s : String) : Option Binary :=
  let word := String.ofList (Text.lowerAscii s.toList)
  if word ∈ wordsForOne then some (Decimal.double.round false 1 1)
  else if word ∈ wordsForZero then some (Decimal.double.round false 0 1)
  else Decimal.real? Decimal.double s.toList

/-- The real number of 32 bits that a scalar stands for; it is rounded to 64 bits first. -/
def asSingle? (v : Value) : Option Binary :=
  let x? : Option Binary := match v with
    | .float x => some x
    | .integer i => some (Decimal.double.round (i < 0) i.natAbs 1)
    | .boolean b => some (Decimal.double.round false (if b then 1 else 0) 1)
    | .text s => realOfText? s
    | _ => none
  x?.map fun x => x.convert Decimal.single

/-- The choice whose name a value gives: a text, or a table with one entry of that name. -/
def asChoice? {α : Type} (name? : String → Option α) : Value → Option α
  | .text s => name? s
  | .table [(key, _)] => name? key
  | _ => none

end Widgetry.Settings
