import Widgetry.Cache.Basic
import Widgetry.Settings.Basic

/-!
The cache on a redis server. Responses are stored as their texts, with a time to live in whole
seconds, at least one. The server is what its commands show: texts under keys, some of which may be
broken so that every command on them fails.
-/

namespace Widgetry.Cache

/-- A command that a server received. -/
inductive Command where
  | get (key : String)
  | setEx (key : String) (seconds : Nat) (text : String)
  deriving Repr, DecidableEq

/-- A server: the texts it holds, the keys it fails on, and the commands received, last first. -/
structure Server where
  texts : List (String × String)
  broken : List String
  received : List Command
  deriving Repr, DecidableEq

namespace Server

/-- The text under a key. -/
def text? (s : Server) (key : String) : Option String :=
  (s.texts.find? fun e => e.1 == key).map Prod.snd

/-- Looks a key up. -/
def get (key : String) (s : Server) : Except CacheError (Option String) × Server :=
  let s' := { s with received := .get key :: s.received }
  if s.broken.contains key then (.error (.backend "get failed"), s') else (.ok (s.text? key), s')

/-- Stores a text under a key for some seconds. -/
def setEx (key : String) (seconds : Nat) (text : String) (s : Server) :
    Except CacheError Unit × Server :=
  let s' := { s with received := .setEx key seconds text :: s.received }
  if s.broken.contains key then (.error (.backend "set failed"), s')
  else (.ok (), { s' with texts := (key, text) :: s.texts })

end Server

/-- The response that a stored text holds. -/
def readStored : Except CacheError (Option String) → Except CacheError (Option Response)
  | .error e => .error e
  | .ok none => .ok none
  | .ok (some text) =>
    match Response.parse text with
    | .ok r => .ok (some r)
    | .error e => .error (.serialization e)

/-- The cache on a redis server. -/
def redis : Cache Server where
  name := "redis"
  get key s := let (found, s) := s.get key; (readStored found, s)
  put key r ttl s := s.setEx key (max 1 (ttl / 1000)) r.text

/-- The backend that is used: a redis server that cannot be reached is replaced by the cache in the
process. -/
def chosenBackend (wanted : CacheBackend) (reachable : Bool) : CacheBackend :=
  match wanted, reachable with
  | .redis, false => .inProcess
  | b, _ => b

end Widgetry.Cache
