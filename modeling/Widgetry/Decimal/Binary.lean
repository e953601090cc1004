import Widgetry.Decimal.Power

/-!
Binary floating-point numbers as exact data. A finite number is a sign, a mantissa and an exponent;
every operation is an exact computation on natural numbers followed by one rounding to nearest, ties
to the even mantissa.
-/

namespace Widgetry.Decimal

/-- A binary format: `precision` significant bits, no unit below two to the `least`, and no finite
number from two to the `limit` on. -/
structure Format where
  precision : Nat
  least : Int
  limit : Int
  deriving Repr, DecidableEq

/-- The format of 64 bits. -/
def double : Format := ⟨53, -1074, 1024⟩

/-- The format of 32 bits. -/
def single : Format := ⟨24, -149, 128⟩

/-- A number of a binary format: `finite negative mantissa exponent` is the mantissa times two to
the exponent. -/
inductive Binary where
  | finite (negative : Bool) (mantissa : Nat) (exponent : Int)
  | infinite (negative : Bool)
  | undefined
  deriving Repr, DecidableEq

/-- A positive rational number `num / den` times two to the exponent, as a fraction. -/
def scaled (num den : Nat) (exponent : Int) : Nat × Nat :=
  if exponent < 0 then (num, den * twoTo exponent.natAbs) else (num * twoTo exponent.natAbs, den)

/-- The nearest integer to a fraction, a half going to the even neighbour. -/
def nearest (num den : Nat) : Nat :=
  let q := num / den
  let twice := 2 * (num % den)
  if twice < den then q else if den < twice then q + 1 else q + q % 2

namespace Format

/-- The exponent of the last place that a positive fraction has in a format. -/
def place (f : Format) (num den : Nat) : Int :=
  let e : Int := (num.log2 : Int) - den.log2 - f.precision
  let (n, d) := scaled num den (-e)
  let e := if n / d < twoTo f.precision then e else e + 1
  if e < f.least then f.least else e

/-- The nearest number of a format to a fraction. -/
def round (f : Format) (negative : Bool) (num den : Nat) : Binary :=
  if num == 0 then .finite negative 0 f.least
  else
    let e := f.place num den
    let (n, d) := scaled num den (-e)
    let m := nearest n d
    let (m, e) := if m < twoTo f.precision then (m, e) else (m / 2, e + 1)
    if (m.log2 : Int) + e ≥ f.limit then .infinite negative else .finite negative m e

end Format

namespace Binary

/-- The nearest number of a format to another format's number. -/
def convert (f : Format) : Binary → Binary
  | .finite neg m e => let (n, d) := scaled m 1 e; f.round neg n d
  | x => x

/-- The product with a power of ten that is itself rounded to the format first; a negative exponent
divides by the power. -/
def timesPowerOfTen (f : Format) (x : Binary) (exponent : Int) : Binary :=
  match x, f.round false (tenTo exponent.natAbs) 1 with
  | .finite neg m e, .finite _ p q =>
    if exponent < 0 then
      let (n, d) := scaled m p (e - q)
      f.round neg n d
    else
      let (n, d) := scaled (m * p) 1 (e + q)
      f.round neg n d
  | x, _ => x

/-- Whether a number is a zero of either sign. -/
def isZero : Binary → Bool
  | .finite _ m _ => m == 0
  | _ => false

/-- The number with the other sign. -/
def negate : Binary → Binary
  | .finite neg m e => .finite (!neg) m e
  | .infinite neg => .infinite (!neg)
  | .undefined => .undefined

/-- The nearest integer to a finite number, a half going away from zero. -/
def toInt : Binary → Option Int
  | .finite neg m e =>
    let (n, d) := scaled m 1 e
    let q : Int := ((2 * n + d) / (2 * d) : Nat)
    some (if neg then -q else q)
  | _ => none

end Binary

end Widgetry.Decimal
