import RemoteQuery.Client.ConfigError
import RemoteQuery.Fields
import RemoteQuery.Text.Blank

namespace RemoteQuery

structure ClientConfig where
  baseUrl : String := "http://localhost:8000/api"
  apiKey : Option String := none
  timeoutSecs : UInt64 := 30
  maxRetries : UInt32 := 2
  retryDelayMs : UInt64 := 200
  headers : Fields String := []
  deriving DecidableEq

namespace ClientConfig

def new (baseUrl : String) : ClientConfig := { baseUrl }

def withApiKey (c : ClientConfig) (key : String) : ClientConfig := { c with apiKey := some key }

def withHeader (c : ClientConfig) (name value : String) : ClientConfig :=
  { c with headers := Fields.insert c.headers name value }

def hasHttpScheme (url : String) : Bool :=
  Text.startsWith "http://".toList url.toList || Text.startsWith "https://".toList url.toList

def validate (c : ClientConfig) : Except ConfigError Unit :=
  if (Text.trim c.baseUrl.toList).isEmpty then
    .error (.validationFailed "Base URL must not be empty")
  else if !hasHttpScheme c.baseUrl then
    .error (.invalidValue "base_url" c.baseUrl "an http:// or https:// URL")
  else if c.timeoutSecs = 0 then
    .error (.validationFailed "Timeout must be greater than 0")
  else .ok ()

end ClientConfig

end RemoteQuery
