import Widgetry.Decimal.Reading
import Widgetry.Text.Blank
import Widgetry.Text.Hex

/-!
Addresses of hosts as numbers, in the short form of thirty-two bits and in the long form of eight
pieces of sixteen bits. Both are read leniently and printed in one way.

## Sections

1. Short addresses.
2. Long addresses.
-/

namespace Widgetry.Http

/-! ## 1. Short addresses -/

/-- A short address: a number below two to the thirty-second. -/
structure ShortAddress where
  value : Nat
  deriving Repr, DecidableEq

namespace ShortAddress

/-- Whether the mark of a hexadecimal number leads. -/
def isHexadecimal : List Char → Bool
  | '0' :: x :: _ => x == 'x' || x == 'X'
  | _ => false

/-- The number that a part of an address spells: hexadecimal behind its mark, octal behind a zero,
else decimal. -/
def part? : List Char → Option Nat
  | [] => none
  | c :: cs =>
    let (base, digits) : Nat × List Char :=
      if isHexadecimal (c :: cs) then (16, cs.tail)
      else if c == '0' && !cs.isEmpty then (8, cs)
      else (10, c :: cs)
    if digits.all (Decimal.isDigitOf base) then
      some (Decimal.ofDigitValues base (digits.map Decimal.hexValue))
    else none

/-- The address of one to four numbers: the last one fills the bytes that the others leave. -/
def ofNumbers? (ns : List Nat) : Option ShortAddress :=
  match ns.getLast? with
  | none => none
  | some last =>
    let bytes := ns.dropLast
    let free := 4 - bytes.length
    if bytes.length < 4 && bytes.all (· < 256) && last < Nat.pow 256 free then
      some ⟨Decimal.ofDigitValues 256 bytes * Nat.pow 256 free + last⟩
    else none

/-- Reads an address of one to four parts. -/
def ofParts? (parts : List (List Char)) : Option ShortAddress :=
  (parts.mapM part?).bind ofNumbers?

/-- The byte at a place, counted from the last one. -/
def byte (a : ShortAddress) (place : Nat) : Nat := a.value / Nat.pow 256 place % 256

/-- An address as it is printed. -/
def text (a : ShortAddress) : String :=
  ".".intercalate ([3, 2, 1, 0].map fun place => toString (a.byte place))

end ShortAddress

/-! ## 2. Long addresses -/

/-- A long address: eight numbers below two to the sixteenth. -/
structure LongAddress where
  pieces : List Nat
  deriving Repr, DecidableEq

namespace LongAddress

/-- The number of pieces. -/
def size : Nat := 8

/-- A piece of one to four hexadecimal digits. -/
def piece? (cs : List Char) : Option Nat :=
  if !cs.isEmpty && cs.length ≤ 4 && cs.all (Decimal.isDigitOf 16) then
    some (Decimal.ofDigitValues 16 (cs.map Decimal.hexValue))
  else none

/-- A byte in decimal digits without leading zeros. -/
def byte? (cs : List Char) : Option Nat :=
  if 1 < cs.length && cs.head? == some '0' then none
  else (Decimal.natural? cs).filter (· < 256)

/-- The two pieces of a short address with points between its four bytes. -/
def embedded? (cs : List Char) : Option (List Nat) :=
  match (Text.cut '.' cs).mapM byte? with
  | some [a, b, c, d] => some [a * 256 + b, c * 256 + d]
  | _ => none

/-- The pieces of parts; the last part may be a short address. -/
def ofParts? (mayEmbed : Bool) : List (List Char) → Option (List Nat)
  | [] => some []
  | [part] =>
    match piece? part with
    | some n => some [n]
    | none => if mayEmbed then embedded? part else none
  | part :: parts =>
    match piece? part, ofParts? mayEmbed parts with
    | some n, some ns => some (n :: ns)
    | _, _ => none

/-- The pieces between colons; an empty text has none. -/
def pieces? (mayEmbed : Bool) (cs : List Char) : Option (List Nat) :=
  if cs.isEmpty then some [] else ofParts? mayEmbed (Text.cut ':' cs)

/-- The texts before and after the first pair of colons. -/
def splitGap : List Char → Option (List Char × List Char)
  | ':' :: ':' :: cs => some ([], cs)
  | c :: cs => (splitGap cs).map fun (before, behind) => (c :: before, behind)
  | [] => none

/-- Reads an address. A pair of colons stands for as many zeros as are missing, at least one. -/
def parse? (cs : List Char) : Option LongAddress :=
  match splitGap cs with
  | none => ((pieces? true cs).filter (·.length == size)).map LongAddress.mk
  | some (before, behind) =>
    match pieces? false before, pieces? true behind with
    | some a, some b =>
      if a.length + b.length < size then
        some ⟨a ++ List.replicate (size - a.length - b.length) 0 ++ b⟩
      else none
    | _, _ => none

/-- The length of the run of zeros at the start. -/
def zeros (ns : List Nat) : Nat := (ns.takeWhile (· == 0)).length

/-- The place and the length of the first of the longest runs of zeros from a place on. -/
def longestGap (place : Nat) : List Nat → Nat × Nat
  | [] => (place, 0)
  | n :: ns =>
    let later := longestGap (place + 1) ns
    let here := zeros (n :: ns)
    if later.2 ≤ here then (place, here) else later

/-- Pieces with colons between them. -/
def joined (ns : List Nat) : String :=
  ":".intercalate (ns.map fun n => String.ofList (Text.hex n))

/-- An address as it is printed: the first of the longest runs of zeros is left out if it is longer
than one. -/
def text (a : LongAddress) : String :=
  let (place, length) := longestGap 0 a.pieces
  if length < 2 then joined a.pieces
  else joined (a.pieces.take place) ++ "::" ++ joined (a.pieces.drop (place + length))

/-- The short address within a long one that marks it. -/
def embedded (a : LongAddress) : Option ShortAddress :=
  match a.pieces with
  | [0, 0, 0, 0, 0, 0xFFFF, high, low] => some ⟨high * 0x10000 + low⟩
  | _ => none

end LongAddress

end Widgetry.Http
