import Widgetry.Text.Blank

/-!
Requests that are sent and what comes back.
-/

namespace Widgetry.Http

/-- A request to a remote end. -/
structure Call where
  method : String
  url : String
  authorization : Option String
  body : Option String
  deriving Repr, DecidableEq

/-- A reply: its status and its body. -/
structure Reply where
  status : Nat
  body : String
  deriving Repr, DecidableEq

namespace Reply

/-- Whether a reply reports success. -/
def isSuccess (r : Reply) : Bool :=
  200 ≤ r.status && r.status < 300

/-- Whether a reply only tells that another one follows; the change to another protocol is the
exception among them. -/
def isInterim (r : Reply) : Bool :=
  100 ≤ r.status && r.status < 200 && r.status != 101

/-- Whether a reply has a body. -/
def hasBody (r : Reply) : Bool :=
  r.status != 101 && r.status != 204 && r.status != 304

/-- The text that a reply brings: what is sent behind a reply without a body is not read. -/
def content (r : Reply) : String := if r.hasBody then r.body else ""

end Reply

/-- Whether a text can be the value of a header: no controls but the tab. -/
def isHeaderValue (s : String) : Bool :=
  s.toList.all fun c => c == '\t' || (0x20 ≤ c.toNat && c.toNat != 0x7F)

end Widgetry.Http
