import Widgetry.Widget.Response

/-!
Caches of rendered widgets. A cache is its operations on a state of its own: looking a key up and
storing a response under it for a time. Caches that fail on one of the operations stand beside those
that work, because a service must not depend on its cache.
-/

namespace Widgetry

/-- A failure of a cache. -/
inductive CacheError where
  | backend (reason : String)
  | serialization (e : Json.Error)
  deriving Repr, DecidableEq

/-- A cache with states of a type. Times to live are in milliseconds. -/
structure Cache (σ : Type) where
  name : String
  get : String → σ → Except CacheError (Option Response) × σ
  put : String → Response → Nat → σ → Except CacheError Unit × σ

/-- The key of a prompt: white space around it does not count. -/
def cacheKey (prompt : String) : String :=
  "widget:" ++ Text.trimmed prompt

namespace Cache

/-- The cache that keeps nothing. -/
def disabled : Cache Unit where
  name := "none"
  get _ s := (.ok none, s)
  put _ _ _ s := (.ok (), s)

/-! ## The cache in the process -/

/-- A stored response, and whether it can still be found. -/
structure Entry where
  response : Response
  live : Bool
  deriving DecidableEq

/-- The stored entries by their keys. -/
abbrev Table := List (String × Entry)

namespace Table

/-- The entry of a key. -/
def find? (t : Table) (key : String) : Option Entry :=
  (List.find? (fun e => e.1 == key) t).map Prod.snd

/-- The response that is found under a key. -/
def response? (t : Table) (key : String) : Option Response :=
  (t.find? key).bind fun e => if e.live then some e.response else none

/-- Stores an entry under a key, in place of the one before. -/
def set (key : String) (entry : Entry) : Table → Table
  | [] => [(key, entry)]
  | (k, e) :: rest => if k == key then (key, entry) :: rest else (k, e) :: set key entry rest

/-- Stores a response: in place of a live one it keeps that one's expiry, otherwise it is found
later unless it expires at once. -/
def put (t : Table) (key : String) (r : Response) (ttl : Nat) : Table :=
  match t.find? key with
  | some ⟨_, true⟩ => t.set key ⟨r, true⟩
  | _ => t.set key ⟨r, 0 < ttl⟩

end Table

/-- The cache in the process. Nothing expires but what expires at once. -/
def inProcess : Cache Table where
  name := "moka"
  get key t := (.ok (t.response? key), t)
  put key r ttl t := (.ok (), t.put key r ttl)

/-- The cache in the process with a look-up that always fails. -/
def failingGet : Cache Table where
  name := "failing"
  get _ t := (.error (.backend "get failed"), t)
  put := inProcess.put

/-- The cache in the process with a store that always fails. -/
def failingPut : Cache Table where
  name := "failing"
  get := inProcess.get
  put _ _ _ t := (.error (.backend "put failed"), t)

end Cache

end Widgetry
