import RemoteQuery.Query.Params
import RemoteQuery.Service.QueryError

namespace RemoteQuery

open Wire

structure Response where
  data : List (Fields Value) := []
  params : Option QueryParams := none
  message : Option String := none
  error : Option String := none
  id : Option Int64 := none

namespace Response

def decodeContext : String := "query response"

def toStructure (r : Response) : Json :=
  .record [
    ("data", some (.listOf Fields.toJson r.data)),
    ("error", r.error.map .str),
    ("id", r.id.map .int64),
    ("message", r.message.map .str),
    ("params", r.params.map QueryParams.toStructure)]

def readRows : Json → Decoded (List (Fields Value))
  | .null => .ok []
  | j => listOf decodeContext (valueMap "result row") j

def ofFields (fields : Fields Json) : Decoded Response := do
  let data ← orElse fields "data" [] readRows
  let params ← optional fields "params" QueryParams.ofStructure
  let message ← optional fields "message" (string decodeContext)
  let error ← optional fields "error" (string decodeContext)
  let id ← optional fields "id" (int64 decodeContext)
  return { data, params, message, error, id }

def ofStructure : Json → Decoded Response
  | .null => .ok {}
  | j => do
      let fields ← object decodeContext j
      ofFields fields

instance : Structural Response := ⟨toStructure, ofStructure⟩

def result (r : Response) : Except QueryError Response :=
  match r.error with
  | some detail => .error (.remote detail)
  | none => .ok r

def equal (a b : Response) : Bool := a.toStructure.equal b.toStructure

end Response

end RemoteQuery
