import Widgetry.Settings.Basic
import Widgetry.Settings.Conversion
import Widgetry.Text.Blank
import Widgetry.Toml.Value

/-!
The settings one by one. Each has a section, a place and a key in it, a type, and a way to read a
value. A section is read by the list of its settings, each at its place or under its key, and all
settings are read exactly if every one of them is: there is one reader for all of them, and a
setting differs from the others only in what this module lists of it.

## Sections

1. Sections of a document.
2. Names, places and types.
3. Reading.
-/

namespace Widgetry

open Toml (Value)

/-! ## 1. Sections of a document -/

namespace Settings

/-- What a document says of a setting: the settings of a section stand under their keys, or in an
array in their order. -/
inductive Section where
  | absent
  | keyed (entries : List (String × Value))
  | listed (items : List Value)
  deriving Inhabited

/-- The section of a key; only tables and arrays are sections. -/
def section? (v : Value) (key : String) : Option Section :=
  match v.get? [key] with
  | none => some .absent
  | some (.table es) => some (.keyed es)
  | some (.array items) => some (.listed items)
  | some _ => none

/-- The value of a setting by its place and its key. -/
def Section.value? (s : Section) (index : Nat) (key : String) : Option Value :=
  match s with
  | .absent => none
  | .keyed es => Toml.lookup? key es
  | .listed items => items[index]?

/-- Reads a setting: its default counts if there is no value, and a value of the wrong type is
refused. -/
def Section.read {α : Type} (s : Section) (index : Nat) (key : String) (convert : Value → Option α)
    (default : α) : Option α :=
  match s.value? index key with
  | none => some default
  | some v => convert v

/-- A secret; blank text and a gap count as none. -/
def asSecret? : Value → Option (Option String)
  | .gap => some none
  | v => (asText? v).map fun s => if Text.isBlankText s then none else some s

end Settings

/-- The backend of a name. -/
def CacheBackend.ofName? : String → Option CacheBackend
  | "moka" => some .inProcess
  | "redis" => some .redis
  | "none" => some .none
  | _ => Option.none

/-- The form of log entries of a name. -/
def LogFormat.ofName? : String → Option LogFormat
  | "text" => some .text
  | "json" => some .json
  | _ => none

/-! ## 2. Names, places and types -/

/-- The settings by their names. -/
inductive Setting where
  | host
  | port
  | requestTimeout
  | corsOrigins
  | baseUrl
  | model
  | apiKey
  | modelTimeout
  | maxTokens
  | generateTemperature
  | editTemperature
  | backend
  | cacheTtl
  | maxCapacity
  | redisUrl
  | cdnBaseUrl
  | logFormat
  | logFilter
  deriving Repr, DecidableEq

namespace Setting

/-- All settings. -/
def all : List Setting :=
  [host, port, requestTimeout, corsOrigins, baseUrl, model, apiKey, modelTimeout, maxTokens,
    generateTemperature, editTemperature, backend, cacheTtl, maxCapacity, redisUrl, cdnBaseUrl,
    logFormat, logFilter]

theorem mem_all (s : Setting) : s ∈ all := by
  cases s <;> decide

/-- The key of the section of a setting. -/
def group : Setting → String
  | host | port | requestTimeout | corsOrigins => "server"
  | baseUrl | model | apiKey | modelTimeout | maxTokens | generateTemperature
  | editTemperature => "model"
  | backend | cacheTtl | maxCapacity | redisUrl => "cache"
  | cdnBaseUrl => "render"
  | logFormat | logFilter => "logging"

/-- The place of a setting in its section, where the section is an array. -/
def index : Setting → Nat
  | host | baseUrl | backend | cdnBaseUrl | logFormat => 0
  | port | model | cacheTtl | logFilter => 1
  | requestTimeout | apiKey | maxCapacity => 2
  | corsOrigins | modelTimeout | redisUrl => 3
  | maxTokens => 4
  | generateTemperature => 5
  | editTemperature => 6

/-- The key of a setting in its section. -/
def key : Setting → String
  | host => "host"
  | port => "port"
  | requestTimeout => "request_timeout_seconds"
  | corsOrigins => "cors_origins"
  | baseUrl => "base_url"
  | model => "model"
  | apiKey => "api_key"
  | modelTimeout => "timeout_seconds"
  | maxTokens => "max_tokens"
  | generateTemperature => "generate_temperature"
  | editTemperature => "edit_temperature"
  | backend => "backend"
  | cacheTtl => "ttl_seconds"
  | maxCapacity => "max_capacity"
  | redisUrl => "redis_url"
  | cdnBaseUrl => "cdn_base_url"
  | logFormat => "format"
  | logFilter => "filter"

/-- What a setting is set to. -/
def Kind : Setting → Type
  | host | baseUrl | model | cdnBaseUrl | logFilter => String
  | port | requestTimeout | modelTimeout | maxTokens | cacheTtl | maxCapacity => Nat
  | corsOrigins => List String
  | apiKey | redisUrl => Option String
  | generateTemperature | editTemperature => Decimal.Binary
  | backend => CacheBackend
  | logFormat => LogFormat

/-- What a setting is set to among all settings. -/
def get : (s : Setting) → Settings → s.Kind
  | host, S => S.server.host
  | port, S => S.server.port
  | requestTimeout, S => S.server.requestTimeoutSeconds
  | corsOrigins, S => S.server.corsOrigins
  | baseUrl, S => S.model.baseUrl
  | model, S => S.model.model
  | apiKey, S => S.model.apiKey
  | modelTimeout, S => S.model.timeoutSeconds
  | maxTokens, S => S.model.maxTokens
  | generateTemperature, S => S.model.generateTemperature
  | editTemperature, S => S.model.editTemperature
  | backend, S => S.cache.backend
  | cacheTtl, S => S.cache.ttlSeconds
  | maxCapacity, S => S.cache.maxCapacity
  | redisUrl, S => S.cache.redisUrl
  | cdnBaseUrl, S => S.render.cdnBaseUrl
  | logFormat, S => S.logging.format
  | logFilter, S => S.logging.filter

/-- The text of what a setting is set to, if that is a text. -/
def text? : (s : Setting) → s.Kind → Option String
  | host, text | baseUrl, text | model, text | cdnBaseUrl, text | logFilter, text => some text
  | apiKey, text? | redisUrl, text? => text?
  | _, _ => none

/-- All settings from what each is set to. -/
def assemble (f : (s : Setting) → s.Kind) : Settings where
  server := ⟨f host, f port, f requestTimeout, f corsOrigins⟩
  model := ⟨f baseUrl, f model, f apiKey, f modelTimeout, f maxTokens, f generateTemperature,
    f editTemperature⟩
  cache := ⟨f backend, f cacheTtl, f maxCapacity, f redisUrl⟩
  render := ⟨f cdnBaseUrl⟩
  logging := ⟨f logFormat, f logFilter⟩

/-! ## 3. Reading -/

/-- What a value means for a setting. -/
def convert : (s : Setting) → Value → Option s.Kind
  | host | baseUrl | model | cdnBaseUrl | logFilter => Settings.asText?
  | port => Settings.asNatural? (Decimal.twoTo 16)
  | maxTokens => Settings.asNatural? (Decimal.twoTo 32)
  | requestTimeout | modelTimeout | cacheTtl | maxCapacity => Settings.asNatural? (Decimal.twoTo 64)
  | corsOrigins => Settings.asTexts?
  | apiKey | redisUrl => Settings.asSecret?
  | generateTemperature | editTemperature => Settings.asSingle?
  | backend => Settings.asChoice? CacheBackend.ofName?
  | logFormat => Settings.asChoice? LogFormat.ofName?

/-- What a setting is set to if nothing is said of it. -/
def default (s : Setting) : s.Kind := s.get Settings.default

/-- Reads a setting from its section. -/
def readIn? (s : Setting) (found : Settings.Section) : Option s.Kind :=
  found.read s.index s.key s.convert s.default

/-- Reads a setting: what stands at its section has to be one. -/
def read? (s : Setting) (v : Value) : Option s.Kind :=
  (Settings.section? v s.group).bind s.readIn?

end Setting

/-- Reads all settings from the layers put together. -/
def Settings.ofValue? (v : Value) : Option Settings :=
  if h : ∀ s ∈ Setting.all, (s.read? v).isSome then
    some (Setting.assemble fun s => (s.read? v).get (h s s.mem_all))
  else none

end Widgetry
