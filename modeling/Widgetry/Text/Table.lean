import Widgetry.Decimal.Reading

/-!
Tables that give characters texts, written in lines. A line is the number of a character, a colon,
and the texts of this character and of those that follow it, with commas between them. A text is the
numbers of its characters with points between them, and without any the character has no text here.
With a plus sign and a number behind it, a text of one character stands for that many texts: it, the
next character, and so on. All numbers are hexadecimal.
-/

namespace Widgetry.Text

/-- The texts of a character and of those that follow it, as numbers; the empty text is none. -/
structure Block where
  first : Nat
  texts : List (List Nat)
  deriving Repr, DecidableEq

namespace Block

/-- The number that hexadecimal digits spell. -/
def number (cs : List Char) : Nat := Decimal.ofDigitValues 16 (cs.map Decimal.hexValue)

/-- The texts that are written between two commas. -/
def item (cs : List Char) : List (List Nat) :=
  match cut '+' cs with
  | [first, count] => (List.range (number count)).map fun k => [number first + k]
  | _ => if cs.isEmpty then [[]] else [(cut '.' cs).map number]

/-- The block that a line writes. -/
def ofLine (line : String) : Block :=
  match cut ':' line.toList with
  | [first, texts] => ⟨number first, (cut ',' texts).flatMap item⟩
  | _ => ⟨0, []⟩

/-- The text of a character in a block. -/
def text? (b : Block) (n : Nat) : Option (List Nat) :=
  if b.first ≤ n then b.texts[n - b.first]?.filter (!·.isEmpty) else none

end Block

/-- A table of texts. -/
abbrev Table := List Block

namespace Table

/-- The table that lines write. -/
def ofLines (lines : List String) : Table := lines.map Block.ofLine

/-- The text of a character in a table. -/
def text? (t : Table) (c : Char) : Option (List Char) :=
  (t.findSome? (·.text? c.toNat)).map (·.map Char.ofNat)

/-- The character that has a text in a table. -/
def character? (t : Table) (text : List Char) : Option Char :=
  t.findSome? fun b =>
    (b.texts.findIdx? (· == text.map Char.toNat)).map fun k => Char.ofNat (b.first + k)

end Table

end Widgetry.Text
