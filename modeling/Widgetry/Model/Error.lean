/-!
Failures of the model, and which of them may pass when the same call is made again.
-/

namespace Widgetry

/-- A failure of the model. A reply that is no description is quoted with the text of what is wrong
with it. A failed connection or a time-out is transient, any other failure of the transport is not.
-/
inductive ModelError where
  | notConfigured
  | http (transient : Bool)
  | api (status : Nat) (message : String)
  | emptyResponse
  | invalidJson (reason : String)
  | prompt (reason : String)
  deriving Repr, DecidableEq

namespace ModelError

/-- Whether the same call may succeed later: too many requests, a failure of the remote end, an
empty reply, or a transient failure of the transport. -/
def isRecoverable : ModelError → Bool
  | http transient => transient
  | api status _ => status == 429 || 500 ≤ status
  | emptyResponse => true
  | _ => false

/-- The message of a failure, unless it quotes the words of the transport. -/
def message? : ModelError → Option String
  | notConfigured => some "model API key is not configured"
  | http _ => none
  | api status message => some ("model API error: " ++ toString status ++ " - " ++ message)
  | emptyResponse => some "model returned an empty response"
  | invalidJson reason =>
    some ("model response is not a valid widget description: " ++ reason)
  | prompt reason => some ("prompt rendering failed: " ++ reason)

end ModelError

end Widgetry
