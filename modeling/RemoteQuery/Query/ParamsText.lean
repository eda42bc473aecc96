import RemoteQuery.Json.Parser
import RemoteQuery.Query.Params
/-!
Query parameters as JSON text. The value is read off the front of the text and decoded before
anything is said about what follows it.
-/

namespace RemoteQuery.QueryParams

inductive TextError where
  | malformed
  | undecodable (e : FormatError)

def text (p : QueryParams) : String := p.toStructure.text

def ofText (s : String) : Except TextError QueryParams :=
  match Json.readFront? Json.maxDepth s.toList with
  | none => .error .malformed
  | some (j, rest) =>
      match ofStructure j with
      | .error e => .error (.undecodable e)
      | .ok p => if (Json.skipSpace rest).isEmpty then .ok p else .error .malformed

end RemoteQuery.QueryParams
