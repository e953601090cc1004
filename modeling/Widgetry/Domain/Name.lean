import Widgetry.Domain.Direction
import Widgetry.Domain.Joining
import Widgetry.Domain.Mapping
import Widgetry.Domain.Punycode
import Widgetry.Text.Blank
import Widgetry.Text.Composition

/-!
Domain names. A name may be written in characters of any script; what is looked up is its form in
characters of ASCII. In a label that bears the mark of an encoded one nothing may stand that would
not be encoded in this way.
-/

namespace Widgetry.Domain

/-- The mark of an encoded label. -/
def encodedMark : List Char := "xn--".toList

/-- The greatest length of a label that is encoded. -/
def longestLabel : Nat := 1000

/-- The greatest length of an encoded label that is read. -/
def longestEncoded : Nat := 2000

/-- Whether a character is one of ASCII. -/
def isAscii (c : Char) : Bool := c.toNat < 0x80

/-- Characters that no name holds: controls, the space, and those that end a name in an address. -/
def isForbidden (c : Char) : Bool :=
  c.toNat ≤ 0x20 || c.toNat == 0x7F || "#%/:<>?@[\\]^|".toList.contains c

/-- Whether a text is in the form that names are put into. -/
def isNormal (cs : List Char) : Bool := mapped? cs == some cs && Text.composed cs == cs

/-- What a label stands for that bears the mark of an encoded one; `cs` is what follows the mark. -/
def encodedText? (cs : List Char) : Option (List Char) :=
  if cs.isEmpty || cs.getLast? == some '-' || longestEncoded < cs.length then none
  else (Punycode.decode? cs).filter isNormal

/-- What a label stands for. -/
def labelText? (label : List Char) : Option (List Char) :=
  if Text.startsWith label encodedMark then encodedText? (label.drop encodedMark.length)
  else some label

/-- Whether a label may stand in a name. -/
def isLabel (text : List Char) : Bool :=
  !text.any isForbidden && !text.head?.any Text.isMark && joinersArePlaced [] text
  && (text.all isAscii || text.length ≤ longestLabel)

/-- A label in characters of ASCII. -/
def asciiLabel (label : List Char) : List Char :=
  if label.all isAscii then label else encodedMark ++ Punycode.encode label

/-- A name in characters of ASCII. -/
def ascii? (name : List Char) : Option (List Char) := do
  let labels := Text.cut '.' (Text.composed (← mapped? name))
  let texts ← labels.mapM labelText?
  if texts.all isLabel && hasClearDirections texts then
    some (['.'].intercalate (labels.map asciiLabel))
  else none

end Widgetry.Domain
