import Widgetry.Decimal.Binary

/-!
The settings of the service, by section, with their defaults.
-/

namespace Widgetry

/-- The listener: its address, the limit on one request, and the origins that browsers may call
from. -/
structure ServerSettings where
  host : String
  port : Nat
  requestTimeoutSeconds : Nat
  corsOrigins : List String
  deriving Repr, DecidableEq

/-- The settings of the model. A key that is blank counts as none. -/
structure ModelSettings where
  baseUrl : String
  model : String
  apiKey : Option String
  timeoutSeconds : Nat
  maxTokens : Nat
  generateTemperature : Decimal.Binary
  editTemperature : Decimal.Binary
  deriving Repr, DecidableEq

/-- Where generated widgets are kept: in the process, on a redis server, or nowhere. -/
inductive CacheBackend where
  | inProcess
  | redis
  | none
  deriving Repr, DecidableEq

/-- The name of a backend. -/
def CacheBackend.name : CacheBackend → String
  | inProcess => "moka"
  | redis => "redis"
  | none => "none"

/-- The settings of the cache. -/
structure CacheSettings where
  backend : CacheBackend
  ttlSeconds : Nat
  maxCapacity : Nat
  redisUrl : Option String
  deriving Repr, DecidableEq

/-- The settings of rendering. -/
structure RenderSettings where
  cdnBaseUrl : String
  deriving Repr, DecidableEq

/-- The two forms of log entries. -/
inductive LogFormat where
  | text
  | json
  deriving Repr, DecidableEq

/-- The settings of the log. -/
structure LoggingSettings where
  format : LogFormat
  filter : String
  deriving Repr, DecidableEq

/-- All settings. -/
structure Settings where
  server : ServerSettings
  model : ModelSettings
  cache : CacheSettings
  render : RenderSettings
  logging : LoggingSettings
  deriving Repr, DecidableEq

/-- The temperature of generation unless it is set. -/
def defaultGenerateTemperature : Decimal.Binary := Decimal.single.round false 7 10

/-- The temperature of edits unless it is set. -/
def defaultEditTemperature : Decimal.Binary := Decimal.single.round false 1 2

namespace Settings

/-- The settings when nothing is set. -/
def default : Settings where
  server := ⟨"0.0.0.0", 8000, 120,
    ["http://localhost:3000", "https://storyweave-ai.vercel.app"]⟩
  model := ⟨"https://api.openai.com/v1", "gpt-3.5-turbo", none, 60, 2000,
    defaultGenerateTemperature, defaultEditTemperature⟩
  cache := ⟨.inProcess, 3600, 10000, none⟩
  render := ⟨"https://cdn.storyweave.ai"⟩
  logging := ⟨.text, "info"⟩

end Settings

/-- The address that the listener is bound to. -/
def ServerSettings.bindAddress (s : ServerSettings) : String :=
  s.host ++ ":" ++ toString s.port

/-- The redis server unless another one is set. -/
def defaultRedisUrl : String := "redis://localhost:6379"

/-- The address of the redis server. -/
def CacheSettings.effectiveRedisUrl (s : CacheSettings) : String :=
  s.redisUrl.getD defaultRedisUrl

end Widgetry
