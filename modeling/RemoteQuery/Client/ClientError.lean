import RemoteQuery.Client.ConfigError
import RemoteQuery.Service.QueryError

namespace RemoteQuery

inductive ClientError where
  | config (e : ConfigError)
  | query (e : QueryError)
  | http (detail : String)

namespace ClientError

def message : ClientError → String
  | .config e => "Configuration error: " ++ e.message
  | .query e => e.message
  | .http detail => "HTTP client error: " ++ detail

end ClientError

end RemoteQuery
