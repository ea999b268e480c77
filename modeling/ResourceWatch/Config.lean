import ResourceWatch.Schema
import ResourceWatch.Url
import ResourceWatch.Json.Reader

/-!
Configuration of the client, the reactor and logging, and the checks that a value must pass to be
one.
-/

namespace ResourceWatch

open Schema Checked

inductive LogLevel where
  | debug
  | info
  | warning
  | error
  | fatal
deriving DecidableEq

def LogLevel.options : List (Text × LogLevel) :=
  [("debug", .debug), ("info", .info), ("warning", .warning), ("error", .error), ("fatal", .fatal)]

def LogLevel.name : LogLevel → Text
  | .debug => "debug"
  | .info => "info"
  | .warning => "warning"
  | .error => "error"
  | .fatal => "fatal"

inductive Environment where
  | development
  | production
  | test
deriving DecidableEq

def Environment.options : List (Text × Environment) :=
  [("development", .development), ("production", .production), ("test", .test)]

def Environment.name : Environment → Text
  | .development => "development"
  | .production => "production"
  | .test => "test"

structure ClientConfig where
  /-- The base of relative URLs, without a slash at the end. -/
  server : Text
  requestTimeoutMs : Option Number := none
  watchTimeoutSeconds : Option Number := none
  userAgent : Text
deriving DecidableEq

structure ReactorConfig where
  /-- The waits after consecutive failures of a resource; the last one repeats. -/
  errorDelaysMs : List Number
deriving DecidableEq

structure LoggingConfig where
  level : LogLevel
  environment : Environment
deriving DecidableEq

structure Config where
  client : ClientConfig
  reactor : ReactorConfig
  logging : LoggingConfig
deriving DecidableEq

def defaultUserAgent : Text := "shoal/0.1.0"

def defaultErrorDelays : List Number :=
  [1000, 1000, 2000, 3000, 5000, 8000, 13000, 21000, 34000, 55000, 89000, 144000, 233000, 377000,
    610000]

def stripSlashes (text : Text) : Text :=
  (text.reverse.dropWhile (· = Text.unit '/')).reverse

namespace ClientConfig

def server? : Check Text := fun value => do
  let text ← string value
  require (Url.parse? text).isSome .invalidUrl
  return stripSlashes text

def check : Check ClientConfig := fun value => do
  let members ← record value
  let (server, timeout, watchTimeout, userAgent) ←
    both (field "server" server? members)
      (both (field "requestTimeoutMs" (Schema.optional positiveWhole) members)
        (both (field "watchTimeoutSeconds" (Schema.optional positiveWhole) members)
          (field "userAgent" (withDefault defaultUserAgent nonemptyString) members)))
  return ⟨server, timeout, watchTimeout, userAgent⟩

def toJson (config : ClientConfig) : Json :=
  .obj (Json.required "server" (.str config.server) ++
    Json.optional "requestTimeoutMs" (config.requestTimeoutMs.map .num) ++
    Json.optional "watchTimeoutSeconds" (config.watchTimeoutSeconds.map .num) ++
    Json.required "userAgent" (.str config.userAgent))

end ClientConfig

namespace ReactorConfig

def delays : Check (List Number) := fun value => do
  let found ← array value
  require (!found.isEmpty) (.tooSmall .nonemptyArray)
  items nonnegative 0 found

def check : Check ReactorConfig := fun value => do
  let members ← record value
  let found ← field "errorDelaysMs" (withDefault defaultErrorDelays delays) members
  return ⟨found⟩

def toJson (config : ReactorConfig) : Json :=
  .obj [("errorDelaysMs", .arr (config.errorDelaysMs.map .num))]

end ReactorConfig

namespace LoggingConfig

def check : Check LoggingConfig := fun value => do
  let members ← record value
  let (level, environment) ←
    both (field "level" (withDefault .info (oneOf LogLevel.options)) members)
      (field "environment" (withDefault .development (oneOf Environment.options)) members)
  return ⟨level, environment⟩

def toJson (config : LoggingConfig) : Json :=
  .obj [("level", .str config.level.name), ("environment", .str config.environment.name)]

end LoggingConfig

namespace Config

def check : Check Config := fun value => do
  let members ← record value
  let (client, reactor, logging) ←
    both (field "client" ClientConfig.check members)
      (both (field "reactor" (withDefault ⟨defaultErrorDelays⟩ ReactorConfig.check) members)
        (field "logging" (withDefault ⟨.info, .development⟩ LoggingConfig.check) members))
  return ⟨client, reactor, logging⟩

def toJson (config : Config) : Json :=
  .obj [("client", config.client.toJson), ("reactor", config.reactor.toJson),
    ("logging", config.logging.toJson)]

/-- Why no configuration could be loaded. -/
inductive LoadError where
  | serverMissing
  /-- The delays are not JSON. -/
  | delaysUnreadable
  | invalid (issues : List Issue)
deriving DecidableEq

def LoadError.message : LoadError → Text
  | .serverMissing => "SHOAL_SERVER environment variable is required"
  | .delaysUnreadable => []
  | .invalid _ => []

/-- A variable that is set to something. -/
def setting? (environment : List (Text × Text)) (name : Text) : Option Text :=
  match environment.lookup name with
  | some [] => none
  | found => found

/-- The value that the variables spell, before it is checked. -/
def spelled? (environment : List (Text × Text)) : Except LoadError Json := do
  let setting := setting? environment
  let some server := setting "SHOAL_SERVER" | throw .serverMissing
  let delays ←
    match setting "SHOAL_ERROR_DELAYS_MS" with
    | none => pure none
    | some text =>
      match Json.parse? text with
      | some delays => pure (some delays)
      | none => throw .delaysUnreadable
  let number (name : Text) := (setting name).map fun text => Json.num (Numeral.toNumber text)
  return .obj [
    ("client", .obj (Json.required "server" (.str server) ++
      Json.optional "requestTimeoutMs" (number "SHOAL_REQUEST_TIMEOUT_MS") ++
      Json.optional "watchTimeoutSeconds" (number "SHOAL_WATCH_TIMEOUT_SECONDS") ++
      Json.optional "userAgent" ((setting "SHOAL_USER_AGENT").map .str))),
    ("reactor", .obj (Json.optional "errorDelaysMs" delays)),
    ("logging", .obj (Json.optional "level" ((setting "LOG_LEVEL").map .str) ++
      Json.optional "environment" ((setting "NODE_ENV").map .str)))]

/-- The configuration that the environment variables spell. -/
def load (environment : List (Text × Text)) : Except LoadError Config := do
  let value ← spelled? environment
  match check (some value) with
  | .ok config => return config
  | .error issues => throw (.invalid issues)

end Config

end ResourceWatch
