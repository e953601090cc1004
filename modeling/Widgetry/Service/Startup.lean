import Widgetry.Cache.Remote
import Widgetry.Http.Cors
import Widgetry.Log.Filter
import Widgetry.Model.Chat
import Widgetry.Settings.Description
import Widgetry.Settings.Loading

/-!
The run of the service from its start to its shutdown, as it shows in the log. The settings are
loaded before there is a log; then the model, the cache and the listener are set up in turn; a
signal ends the run.
-/

namespace Widgetry.Startup

open Log (Event FieldValue)

/-- The version of the service. -/
def version : String := "0.1.0"

/-- A signal that ends the run. -/
inductive Signal where
  | terminate
  | interrupt
  deriving Repr, DecidableEq

/-- The name of a signal. -/
def Signal.name : Signal → String
  | .terminate => "SIGTERM"
  | .interrupt => "Ctrl+C"

/-- What is outside of the service: whether the redis server can be reached, at which address a
listener ends up (nothing when the address cannot be bound), and the signal that comes. -/
structure Surroundings where
  redisReachable : Bool
  bind : String → Option String
  signal : Signal

/-- An entry of the program itself. -/
def note (message : String) : Event := ⟨.info, "storyweave_server", message, []⟩

/-- The entry on the start of the log. -/
def logReady (s : LoggingSettings) : Event :=
  ⟨.debug, "storyweave_shared::logging", "Tracing initialized",
    [("format", .word s.format.describe)]⟩

/-- The entry on the model. -/
def modelReady (m : ChatModel) : Event :=
  if m.isConfigured then
    ⟨.info, "storyweave_server::service", "Model client ready", [("model", .text m.model)]⟩
  else
    ⟨.warn, "storyweave_server::service",
      "No model API key configured, every request will use the fallback widget", []⟩

/-- The entries on the cache. -/
def cacheReady (s : CacheSettings) (chosen : CacheBackend) : List Event :=
  (if s.backend = chosen then []
   else [⟨.warn, "storyweave_server::cache",
     "Redis unavailable, falling back to in-process cache", [("error", .cause)]⟩])
  ++ [⟨.info, "storyweave_server::cache", "Widget cache ready",
    [("requested", .word s.backend.name), ("backend", .text chosen.name),
     ("ttl_seconds", .number s.ttlSeconds)]⟩]

/-- The entry on a configured origin that is left out. -/
def originIgnored (origin : String) : Event :=
  ⟨.warn, "storyweave_server::web", "Ignoring invalid CORS origin",
    [("origin", .word origin), ("error", .cause)]⟩

/-- The entries up to the binding of the listener. -/
def preparing (s : Settings) (redisReachable : Bool) : List Event :=
  let chosen := Cache.chosenBackend s.cache.backend redisReachable
  [logReady s.logging, note "Starting StoryWeave Server...", note ("   Version: " ++ version),
   note "   Build Mode: Debug", modelReady (ChatModel.ofSettings s.model)]
  ++ cacheReady s.cache chosen
  ++ [note ("   Cache: " ++ chosen.name), note ("   CDN: " ++ s.render.cdnBaseUrl)]
  ++ (Http.Cors.ignored s.server.corsOrigins).map originIgnored

/-- The entries from the binding of the listener to the end of the run. -/
def serving (address : String) (signal : Signal) : List Event :=
  [note "StoryWeave Server started successfully!", note ("   Listening on http://" ++ address),
   note "   Press Ctrl+C to shutdown gracefully", note ("Received " ++ signal.name),
   note "Shutdown signal received, draining in-flight requests...",
   note "StoryWeave Server shutdown complete"]

/-- A run: whether requests could be served, the error that ended it if there was one, and the log
entries in the form of the settings. -/
structure Run where
  started : Bool
  failure : Option String
  format : LogFormat
  events : List Event
  deriving Repr, DecidableEq

/-- The filter of the log: the variable counts if it can be read, then the setting, then the level
of information. -/
def logFilter (override : Option String) (s : LoggingSettings) : Log.Filter :=
  ((override.bind Log.Filter.parse?).or (Log.Filter.parse? s.filter)).getD (.level .info)

/-- The run with given settings. -/
def runWith (s : Settings) (filter : Log.Filter) (o : Surroundings) : Run :=
  let before := preparing s o.redisReachable
  match o.bind s.server.bindAddress with
  | none => ⟨false, some ("Failed to bind " ++ s.server.bindAddress), s.logging.format,
      before.filter filter.allows⟩
  | some address => ⟨true, none, s.logging.format,
      (before ++ serving address o.signal).filter filter.allows⟩

/-- The variable with the filter of the log. -/
def filterVariable : String := "RUST_LOG"

/-- The run of the service in a directory with the variables of the environment. -/
def run (t : FileTree) (current : Place) (environment : Settings.Environment) (o : Surroundings) :
    Run :=
  match Settings.load t current environment with
  | .error _ => ⟨false, some "Failed to load configuration", .text, []⟩
  | .ok s =>
    let environment := Settings.loadVariables t current environment
    runWith s (logFilter (environment.get? filterVariable) s.logging) o

end Widgetry.Startup
