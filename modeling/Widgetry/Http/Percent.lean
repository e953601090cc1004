import Widgetry.Decimal.Reading
import Widgetry.Text.Hex

/-!
Percent encoding: bytes of characters that may not stand in a part of an address are written as a
percent sign and two hexadecimal digits.
-/

namespace Widgetry.Http.Percent

/-! ## 1. Encoding -/

/-- The bytes of a character. -/
def bytes (c : Char) : List UInt8 := (String.singleton c).toUTF8.toList

/-- An upper-case hexadecimal digit. -/
def upperHexDigit (n : Nat) : Char := (Text.hexDigit n).toUpper

/-- The bytes of a character, encoded. -/
def encodeChar (c : Char) : List Char :=
  (bytes c).flatMap fun b =>
    ['%', upperHexDigit (b.toNat / 16), upperHexDigit (b.toNat % 16)]

/-- Encodes controls, characters beyond ASCII, and further characters. -/
def encode (further : List Char) (cs : List Char) : String :=
  String.ofList (cs.flatMap fun c =>
    if c.toNat < 0x20 || 0x7F ≤ c.toNat || further.contains c then encodeChar c else [c])

/-- Characters that are encoded in a fragment. -/
def fragmentSet : List Char := [' ', '"', '<', '>', '`']

/-- Characters that are encoded in a path. -/
def pathSet : List Char := fragmentSet ++ ['#', '?', '{', '}']

/-- Characters that are encoded in a name or a password. -/
def userSet : List Char := pathSet ++ ['/', ':', ';', '=', '@', '[', '\\', ']', '^', '|']

/-- Characters that are encoded in a query. -/
def querySet : List Char := [' ', '"', '#', '<', '>']

/-- Characters that are encoded in the query of a special scheme. -/
def specialQuerySet : List Char := querySet ++ ['\'']

/-! ## 2. Decoding -/

/-- The bytes of a text with its encoded bytes; a percent sign without two digits is one itself. -/
def decodedBytes : List Char → List UInt8
  | '%' :: a :: b :: cs =>
    if Decimal.isDigitOf 16 a && Decimal.isDigitOf 16 b then
      UInt8.ofNat (Decimal.hexValue a * 16 + Decimal.hexValue b) :: decodedBytes cs
    else bytes '%' ++ decodedBytes (a :: b :: cs)
  | c :: cs => bytes c ++ decodedBytes cs
  | [] => []

/-- The text that an encoded one stands for, if its bytes are one. -/
def decode? (cs : List Char) : Option String :=
  String.fromUTF8? ⟨(decodedBytes cs).toArray⟩

end Widgetry.Http.Percent
