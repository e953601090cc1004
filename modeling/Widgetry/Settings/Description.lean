import Widgetry.Decimal.Layout
import Widgetry.Settings.Basic
import Widgetry.Text.Quoted

/-!
The settings as one line for a log. Secrets are not shown, only whether they are set.
-/

namespace Widgetry

namespace Settings

/-- A record by its name and its fields. -/
def describeRecord (name : String) (fields : List (String × String)) : String :=
  name ++ r" { " ++ ", ".intercalate (fields.map fun f => f.1 ++ ": " ++ f.2) ++ r" }"

/-- A list of texts. -/
def describeTexts (texts : List String) : String :=
  "[" ++ ", ".intercalate (texts.map Text.quoted) ++ "]"

/-- What is shown of a secret. -/
def describeSecret : Option String → String
  | some _ => "Some(SecretBox<str>([REDACTED]))"
  | none => "None"

/-- A temperature, always with a point. -/
def describeTemperature (x : Decimal.Binary) : String :=
  Decimal.pointed.text Decimal.single x

end Settings

open Settings (describeRecord describeTexts describeSecret describeTemperature)

/-- The settings of the listener as they are shown. -/
def ServerSettings.describe (s : ServerSettings) : String :=
  describeRecord "ServerConfig"
    [("host", Text.quoted s.host), ("port", toString s.port),
     ("request_timeout_seconds", toString s.requestTimeoutSeconds),
     ("cors_origins", describeTexts s.corsOrigins)]

/-- The settings of the model as they are shown. -/
def ModelSettings.describe (s : ModelSettings) : String :=
  describeRecord "ModelConfig"
    [("base_url", Text.quoted s.baseUrl), ("model", Text.quoted s.model),
     ("api_key", describeSecret s.apiKey), ("timeout_seconds", toString s.timeoutSeconds),
     ("max_tokens", toString s.maxTokens),
     ("generate_temperature", describeTemperature s.generateTemperature),
     ("edit_temperature", describeTemperature s.editTemperature)]

/-- A backend as it is shown. -/
def CacheBackend.describe : CacheBackend → String
  | inProcess => "Moka"
  | redis => "Redis"
  | none => "None"

/-- The settings of the cache as they are shown. -/
def CacheSettings.describe (s : CacheSettings) : String :=
  describeRecord "CacheConfig"
    [("backend", s.backend.describe), ("ttl_seconds", toString s.ttlSeconds),
     ("max_capacity", toString s.maxCapacity), ("redis_url", describeSecret s.redisUrl)]

/-- The settings of rendering as they are shown. -/
def RenderSettings.describe (s : RenderSettings) : String :=
  describeRecord "RenderConfig" [("cdn_base_url", Text.quoted s.cdnBaseUrl)]

/-- A form of log entries as it is shown. -/
def LogFormat.describe : LogFormat → String
  | .text => "Text"
  | .json => "Json"

/-- The settings of the log as they are shown. -/
def LoggingSettings.describe (s : LoggingSettings) : String :=
  describeRecord "LoggingConfig"
    [("format", s.format.describe), ("filter", Text.quoted s.filter)]

/-- All settings as they are shown. -/
def Settings.describe (s : Settings) : String :=
  describeRecord "ServiceConfig"
    [("server", s.server.describe), ("model", s.model.describe), ("cache", s.cache.describe),
     ("render", s.render.describe), ("logging", s.logging.describe)]

end Widgetry
