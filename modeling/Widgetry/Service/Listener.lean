import Widgetry.Http.Address

/-!
Where the listener of the service ends up. A host is a name that the system itself knows, or an
address in one of its forms; only addresses of this machine, and those of groups of machines, can be
listened on.
-/

namespace Widgetry.Listener

open Http (ShortAddress LongAddress)

/-- Whether a short address can be listened on: any address of this machine, the one that stands for
all of them, and those of groups. -/
def isOwnShort (a : ShortAddress) : Bool :=
  a.byte 3 == 127 || a.value == 0 || a.value == 0xFFFFFFFF
    || (224 ≤ a.byte 3 && a.byte 3 < 240)

/-- The short address of a host: every part begins with a digit and has more than the mark of a
hexadecimal number. -/
def short? (cs : List Char) : Option ShortAddress :=
  let parts := Text.cut '.' cs
  if parts.any fun p => ShortAddress.isHexadecimal p && p.length == 2 then none
  else ShortAddress.ofParts? parts

/-- The text of a long address that can be listened on. -/
def ownLong? (a : LongAddress) : Option String :=
  match a.embedded with
  | some s => if isOwnShort s then some ("[::ffff:" ++ s.text ++ "]") else none
  | none =>
    if a.text == "::" || a.text == "::1" then some ("[" ++ a.text ++ "]") else none

/-- The inside of square brackets, or the whole text. -/
def unbracketed (cs : List Char) : List Char :=
  if cs.head? == some '[' && cs.getLast? == some ']' then cs.tail.dropLast else cs

/-- The address that a host stands for, as it is printed, if it can be listened on. -/
def host? (cs : List Char) : Option String :=
  if Text.lowerAscii cs == "localhost".toList then some "127.0.0.1"
  else match LongAddress.parse? (unbracketed cs) with
    | some a => ownLong? a
    | none => ((short? cs).filter isOwnShort).map ShortAddress.text

/-- The address that a listener ends up at, given its host and port. -/
def address? (text : String) : Option String :=
  let port := (text.toList.reverse.takeWhile (· != ':')).reverse
  (host? (text.toList.take (text.length - port.length - 1))).map fun host =>
    host ++ ":" ++ String.ofList port

end Widgetry.Listener
