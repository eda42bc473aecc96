import RemoteQuery.Client.Config
import RemoteQuery.Number.Decimal

namespace RemoteQuery

abbrev Environment := String → Option String

inductive Setting where
  | baseUrl
  | apiKey
  | timeoutSecs
  | maxRetries
  | retryDelayMs
  deriving DecidableEq, Repr

inductive Source where
  | environment (name : String)
  | fallback (text : String)
  deriving DecidableEq, Repr

namespace Setting

def all : List Setting := [.baseUrl, .apiKey, .timeoutSecs, .maxRetries, .retryDelayMs]

def field : Setting → String
  | .baseUrl => "base_url"
  | .apiKey => "api_key"
  | .timeoutSecs => "timeout_secs"
  | .maxRetries => "max_retries"
  | .retryDelayMs => "retry_delay_ms"

def variableName : Setting → String
  | .baseUrl => "TABULA_BASE_URL"
  | .apiKey => "TABULA_API_KEY"
  | .timeoutSecs => "TABULA_TIMEOUT_SECS"
  | .maxRetries => "TABULA_MAX_RETRIES"
  | .retryDelayMs => "TABULA_RETRY_DELAY_MS"

def fallbackText (s : Setting) : String :=
  let d : ClientConfig := {}
  match s with
  | .baseUrl => d.baseUrl
  | .apiKey => ""
  | .timeoutSecs => Decimal.natText d.timeoutSecs.toNat
  | .maxRetries => Decimal.natText d.maxRetries.toNat
  | .retryDelayMs => Decimal.natText d.retryDelayMs.toNat

def source (s : Setting) (env : Environment) : Source :=
  if (env s.variableName).isSome then .environment s.variableName else .fallback s.fallbackText

end Setting

namespace Environment

def count? (limit : Nat) (text : String) : Option Nat :=
  Decimal.parse? limit (Text.trim text.toList)

def count (env : Environment) (s : Setting) (expected : String) (limit fallback : Nat) :
    Except ConfigError Nat :=
  match env s.variableName with
  | none => .ok fallback
  | some text =>
      match count? limit text with
      | some n => .ok n
      | none => .error (.invalidValue s.field text expected)

end Environment

namespace ClientConfig

def apiKeyFrom (env : Environment) : Option String :=
  (env Setting.apiKey.variableName).filter (fun key => !key.isEmpty)

def ofEnvironment (env : Environment) : Except ConfigError ClientConfig := do
  let d : ClientConfig := {}
  let timeoutSecs ←
    env.count .timeoutSecs "valid number of seconds" UInt64.size d.timeoutSecs.toNat
  let maxRetries ←
    env.count .maxRetries "non-negative retry count" UInt32.size d.maxRetries.toNat
  let retryDelayMs ←
    env.count .retryDelayMs "valid number of milliseconds" UInt64.size d.retryDelayMs.toNat
  let config : ClientConfig :=
    { baseUrl := (env Setting.baseUrl.variableName).getD d.baseUrl
      apiKey := apiKeyFrom env
      timeoutSecs := UInt64.ofNat timeoutSecs
      maxRetries := UInt32.ofNat maxRetries
      retryDelayMs := UInt64.ofNat retryDelayMs }
  config.validate
  return config

end ClientConfig

end RemoteQuery
