import Widgetry.Domain.Name
import Widgetry.Http.Address
import Widgetry.Http.Percent

/-!
Hosts in addresses: a domain name or the number of a host.
-/

namespace Widgetry.Http

/-- A host: its name, or its number in one of two forms. -/
inductive Host where
  | name (text : String)
  | short (address : ShortAddress)
  | long (address : LongAddress)
  deriving Repr, DecidableEq

namespace Host

/-- The text of a host. -/
def text : Host → String
  | .name s => s
  | .short a => a.text
  | .long a => "[" ++ a.text ++ "]"

/-- The parts of a name; a point at its end does not count. -/
def parts (cs : List Char) : List (List Char) :=
  let parts := Text.cut '.' cs
  if 1 < parts.length && parts.getLast? == some [] then parts.dropLast else parts

/-- Whether the last part of a name is a number, so that it can only be an address. -/
def endsInNumber (cs : List Char) : Bool :=
  (parts cs).getLast?.any fun part =>
    !part.isEmpty && (part.all Char.isDigit || (ShortAddress.part? part).isSome)

/-- The host of a text between brackets. -/
def bracketed? (cs : List Char) : Option Host :=
  if cs.getLast? == some ']' then (LongAddress.parse? cs.dropLast).map .long else none

/-- The host that a text names where hosts are looked up. -/
def parse? (cs : List Char) : Option Host :=
  match cs with
  | '[' :: cs => bracketed? cs
  | cs =>
    match (Percent.decode? cs).bind fun s => Domain.ascii? s.toList with
    | none => none
    | some ascii =>
      if ascii.isEmpty then none
      else if endsInNumber ascii then (ShortAddress.ofParts? (parts ascii)).map .short
      else some (.name (String.ofList ascii))

/-- Whether a character may not stand in a host that is not looked up. -/
def isForbidden (c : Char) : Bool :=
  "\x00\t\n\r #/:<>?@[\\]^|".toList.contains c

/-- The host that a text names where hosts are not looked up; the outer answer is none if the text
cannot be a host, the inner one if there is no host. -/
def parsePlain? (cs : List Char) : Option (Option Host) :=
  match cs with
  | [] => some none
  | '[' :: cs => (bracketed? cs).map some
  | cs =>
    if cs.any isForbidden then none else some (some (.name (Percent.encode [] cs)))

end Host

end Widgetry.Http
