/-!
Hexadecimal digits in lower case.
-/

namespace Widgetry.Text

/-- The digit of a number below sixteen. -/
def hexDigit (n : Nat) : Char :=
  if n < 10 then Char.ofNat ('0'.toNat + n) else Char.ofNat ('a'.toNat + (n - 10))

/-- The four digits of a number below two to the sixteenth. -/
def hex4 (n : Nat) : List Char :=
  [hexDigit (n / 4096 % 16), hexDigit (n / 256 % 16), hexDigit (n / 16 % 16), hexDigit (n % 16)]

/-- The digits of a number without leading zeros. -/
def hex (n : Nat) : List Char :=
  Nat.toDigits 16 n

end Widgetry.Text
