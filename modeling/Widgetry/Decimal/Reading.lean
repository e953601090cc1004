import Widgetry.Decimal.Binary
import Widgetry.Text.Blank

/-!
Decimal numbers as text, and the binary numbers nearest to them. Integers and real numbers are told
apart: an integer has digits only, a real number may have a point, an exponent, or be one of the
words for infinity and for no number.
-/

namespace Widgetry.Decimal

/-- The natural number of digits, most significant first. -/
def ofDigitValues (base : Nat) (ds : List Nat) : Nat :=
  ds.foldl (fun n d => n * base + d) 0

/-- The value of a decimal digit. -/
def digitValue (c : Char) : Nat := c.toNat - '0'.toNat

/-- The value of a digit of a base up to sixteen. -/
def hexValue (c : Char) : Nat :=
  if c.isDigit then digitValue c else c.toLower.toNat - 'a'.toNat + 10

/-- Whether a character is a digit of a base up to sixteen. -/
def isDigitOf (base : Nat) (c : Char) : Bool :=
  (c.isDigit || ('a' ≤ c.toLower && c.toLower ≤ 'f')) && hexValue c < base

/-- The natural number of a text of decimal digits, at least one. -/
def natural? (cs : List Char) : Option Nat :=
  if !cs.isEmpty && cs.all Char.isDigit then some (ofDigitValues 10 (cs.map digitValue)) else none

/-- A sign at the start of a text: whether it is a minus, and the text after it. -/
def takeSign : List Char → Bool × List Char
  | '-' :: cs => (true, cs)
  | '+' :: cs => (false, cs)
  | cs => (false, cs)

/-- The integer of a text of decimal digits behind an optional sign. -/
def integer? (cs : List Char) : Option Int :=
  let (neg, digits) := takeSign cs
  (natural? digits).map fun n => if neg then -n else n

/-- Beyond this many places before or behind the point, a decimal overflows or vanishes in every
format of at most 64 bits. -/
def farthestPlace : Nat := 400

namespace Format

/-- The number of a format nearest to digits times a power of ten. -/
def ofDigits (f : Format) (negative : Bool) (ds : List Nat) (exponent : Int) : Binary :=
  let ds := ds.dropWhile (· == 0)
  let place : Int := ds.length + exponent
  if ds.isEmpty then f.round negative 0 1
  else if (farthestPlace : Int) < place then .infinite negative
  else if place < -(farthestPlace : Int) then f.round negative 0 1
  else
    let n := ofDigitValues 10 ds
    if exponent < 0 then f.round negative n (tenTo exponent.natAbs)
    else f.round negative (n * tenTo exponent.natAbs) 1

end Format

/-- The exponent that a text after the digits spells out: nothing means zero. -/
def exponent? : List Char → Option Int
  | [] => some 0
  | c :: cs => if c == 'e' || c == 'E' then integer? cs else none

/-- The number of a format that a text without sign stands for: digits with an optional point, of
which at least one side has digits, and an optional exponent. -/
def unsignedReal? (f : Format) (negative : Bool) (cs : List Char) : Option Binary :=
  let (mantissa, tail) := cs.span fun c => c != 'e' && c != 'E'
  let (whole, rest) := mantissa.span (· != '.')
  let fraction := rest.drop 1
  if (whole ++ fraction).all Char.isDigit && !(whole ++ fraction).isEmpty then
    (exponent? tail).map fun e =>
      f.ofDigits negative ((whole ++ fraction).map digitValue) (e - fraction.length)
  else none

/-- The number of a format that a text stands for. The words for infinity and for no number may be
written in letters of either case. -/
def real? (f : Format) (cs : List Char) : Option Binary :=
  let (neg, rest) := takeSign cs
  let word := String.ofList (Text.lowerAscii rest)
  if word == "inf" || word == "infinity" then some (.infinite neg)
  else if word == "nan" then some .undefined
  else unsignedReal? f neg rest

end Widgetry.Decimal
