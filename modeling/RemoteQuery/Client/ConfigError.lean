namespace RemoteQuery

inductive ConfigError where
  | invalidValue (field value expected : String)
  | validationFailed (detail : String)
  deriving DecidableEq, Repr

namespace ConfigError

def message : ConfigError → String
  | .invalidValue field value expected =>
      "Invalid value for field '" ++ field ++ "': '" ++ value ++ "'. Expected: " ++ expected
  | .validationFailed detail => "Configuration validation failed: " ++ detail

end ConfigError

end RemoteQuery
