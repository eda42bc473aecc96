import RemoteQuery.Wire.FormatError

namespace RemoteQuery

inductive QueryError where
  | format (e : FormatError)
  | validation (detail : String)
  | transport (detail code : String) (status : Option UInt16)

namespace QueryError

def remoteCode : String := "REMOTE_ERROR"

def notConnectedCode : String := "NOT_CONNECTED"

def missingParamsCode : String := "MISSING_PARAMS"

def notConnected : QueryError :=
  .transport "no transport bound to this query builder" notConnectedCode none

def missingParams : QueryError := .transport "response carried no params" missingParamsCode none

def remote (detail : String) : QueryError := .transport detail remoteCode none

def emptyPayload (operation : String) : QueryError :=
  .validation (operation ++ " requires a non-empty payload")

def message : QueryError → String
  | .format e => e.message
  | .validation detail => "Validation error: " ++ detail
  | .transport detail code _ => "Transport error [" ++ code ++ "]: " ++ detail

def value? : QueryError → Option String
  | .format e => some e.value
  | _ => none

def code? : QueryError → Option String
  | .transport _ code _ => some code
  | _ => none

def status? : QueryError → Option UInt16
  | .transport _ _ status => status
  | _ => none

end QueryError

end RemoteQuery
