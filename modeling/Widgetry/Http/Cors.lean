import Widgetry.Http.Message

/-!
Calls from browsers across origins. Configured origins are compared as they are, white space around
them aside, and may carry credentials; an entry `*` allows every origin, without credentials.
-/

namespace Widgetry.Http

/-- Headers by their lower-case names. -/
abbrev Headers := List (String × String)

/-- The value of a header. -/
def Headers.get? (h : Headers) (name : String) : Option String :=
  (h.find? fun e => e.1 == name).map Prod.snd

/-- Which origins may call. -/
inductive Cors where
  | any
  | listed (origins : List String)
  deriving Repr, DecidableEq

namespace Cors

/-- The rule of configured origins; those that no header can hold are left out. -/
def ofOrigins (origins : List String) : Cors :=
  let origins := origins.map Text.trimmed
  if origins.contains "*" then any else listed (origins.filter isHeaderValue)

/-- The configured origins that are left out, as they were configured. -/
def ignored (origins : List String) : List String :=
  if (origins.map Text.trimmed).contains "*" then []
  else origins.filter fun o => !isHeaderValue (Text.trimmed o)

/-- The headers that tell which origin may read an answer. -/
def originHeaders (c : Cors) (request : Headers) : Headers :=
  match c with
  | any => [("access-control-allow-origin", "*")]
  | listed origins =>
    (match request.get? "origin" with
      | some o => if origins.contains o then [("access-control-allow-origin", o)] else []
      | none => [])
    ++ [("access-control-allow-credentials", "true")]

/-- What answers vary by. -/
def varyHeader : String × String :=
  ("vary", "origin, access-control-request-method, access-control-request-headers")

/-- The headers that grant what a browser asks for before its request. -/
def preflightHeaders (request : Headers) : Headers :=
  (match request.get? "access-control-request-method" with
    | some m => [("access-control-allow-methods", m)]
    | none => [])
  ++ match request.get? "access-control-request-headers" with
    | some h => [("access-control-allow-headers", h)]
    | none => []

end Cors

end Widgetry.Http
