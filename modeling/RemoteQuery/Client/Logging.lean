namespace RemoteQuery

structure LoggingConfig where
  level : String := "info"
  jsonFormat : Bool := false
  envFilter : Option String := none
  deriving DecidableEq, Repr

namespace LoggingConfig

def production : LoggingConfig :=
  { level := "info", jsonFormat := true,
    envFilter := some "tabula_query=info,tabula_client=info,reqwest=warn" }

def development : LoggingConfig :=
  { level := "debug", jsonFormat := false,
    envFilter := some "tabula_query=debug,tabula_client=debug" }

def withEnvFilter (c : LoggingConfig) (filter : String) : LoggingConfig :=
  { c with envFilter := some filter }

def directives (c : LoggingConfig) : String := c.envFilter.getD c.level

end LoggingConfig

end RemoteQuery
