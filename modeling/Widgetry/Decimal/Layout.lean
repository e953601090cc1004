import Widgetry.Decimal.Shortest

/-!
How the digits of a number are laid out: positional notation between two exponents, scientific
notation outside them.
-/

namespace Widgetry.Decimal

/-- A layout: the least and greatest exponents of the first digit that are written positionally
(none for no bound), whether a whole number keeps `.0`, whether a positive exponent has a plus sign,
and which way a tie between two shortest decimals goes. -/
structure Layout where
  lowest : Option Int
  highest : Option Int
  keepsPoint : Bool
  plusSign : Bool
  tie : Tie
  deriving Repr, DecidableEq

/-- The text of digits. -/
def digitText (ds : List Nat) : String :=
  String.ofList (ds.map fun d => Char.ofNat ('0'.toNat + d))

/-- A text of zeros. -/
def zeros (n : Nat) : String :=
  String.ofList (List.replicate n '0')

namespace Layout

/-- Whether a number whose first digit has the given exponent is written positionally. -/
def isPositional (l : Layout) (exponent : Int) : Bool :=
  l.lowest.all (· ≤ exponent) && l.highest.all (exponent ≤ ·)

/-- Digits in positional notation. -/
def positional (l : Layout) (d : Digits) : String :=
  if d.point ≤ 0 then "0." ++ zeros d.point.natAbs ++ digitText d.digits
  else
    let whole := d.digits.take d.point.toNat
    let rest := d.digits.drop d.point.toNat
    let whole := digitText whole ++ zeros (d.point.toNat - whole.length)
    if rest.isEmpty then if l.keepsPoint then whole ++ ".0" else whole
    else whole ++ "." ++ digitText rest

/-- Digits in scientific notation. -/
def scientific (l : Layout) (d : Digits) : String :=
  let exponent := d.point - 1
  let sign := if l.plusSign && 0 ≤ exponent then "+" else ""
  let mantissa := match d.digits with
    | [] => "0"
    | [x] => digitText [x]
    | x :: xs => digitText [x] ++ "." ++ digitText xs
  mantissa ++ "e" ++ sign ++ toString exponent

/-- Digits in the notation that the layout chooses. -/
def digits (l : Layout) (d : Digits) : String :=
  if l.isPositional (d.point - 1) then l.positional d else l.scientific d

/-- The text of a number of a format. -/
def text (l : Layout) (f : Format) : Binary → String
  | .finite neg m e => (if neg then "-" else "") ++ l.digits (shortest l.tie f m e)
  | .infinite neg => if neg then "-inf" else "inf"
  | .undefined => "NaN"

end Layout

/-- Plain decimals of any length. -/
def plain : Layout := ⟨none, none, false, false, .away⟩

/-- Decimals with a point from `0.0001` up to below ten to the sixteenth. -/
def pointed : Layout := ⟨some (-4), some 15, true, false, .away⟩

end Widgetry.Decimal
