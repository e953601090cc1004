import Widgetry.Component.Fragment
import Widgetry.Files.Tree
import Widgetry.Json.Error

/-!
What can go wrong while a command is carried out.
-/

namespace Widgetry.CommandLine

/-- Why no answer of a server can be used: the address is none, requests cannot be sent to it, the
server cannot be reached, or its answer is not the expected document. Addresses are given as far as
they could be read. -/
inductive TransportProblem where
  | noAddress
  | notSendable (address : String)
  | unreachable (address : String)
  | unreadable
  deriving Repr, DecidableEq

/-- The message of a problem with a server. -/
def TransportProblem.message : TransportProblem → String
  | .noAddress => "builder error"
  | .notSendable a => "builder error for url (" ++ a ++ ")"
  | .unreachable a => "error sending request for url (" ++ a ++ ")"
  | .unreadable => "error decoding response body"

/-- What can go wrong while a command is carried out. -/
inductive Problem where
  | unreadable (path : String) (error : FileError)
  | unwritable (path : String) (error : FileError)
  | noWidget (path : String) (error : Json.Error)
  | component (error : Component.Error)
  | transport (url : String) (problem : TransportProblem)
  | server (status : Nat) (detail : String)

/-- The parts of the message of a problem; what is quoted in it are parts of their own. -/
def Problem.parts : Problem → List String
  | .unreadable path e => ["failed to read ", path, ": ", e.message]
  | .unwritable path e => ["failed to write ", path, ": ", e.message]
  | .noWidget path e => [path, " is not a widget description: ", e.text]
  | .component e => e.parts
  | .transport url p => ["request to ", url, " failed: ", p.message]
  | .server status detail => ["server returned ", toString status, ": ", detail]

/-- The message of a problem. -/
def Problem.message (p : Problem) : String := String.join p.parts

end Widgetry.CommandLine
