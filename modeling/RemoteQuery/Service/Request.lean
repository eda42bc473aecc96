import RemoteQuery.Query.Params
import RemoteQuery.Query.QueryString

namespace RemoteQuery

inductive Method where
  | get
  | post
  | put
  | delete
  deriving DecidableEq, Repr

def Method.text : Method → String
  | .get => "GET"
  | .post => "POST"
  | .put => "PUT"
  | .delete => "DELETE"

structure Request where
  method : Method
  path : String
  query : List (String × String) := []
  body : Option Json := none

namespace Request

def segment (s : String) : List Char := '/' :: Text.Percent.encode s.toList

def tablePath (table : String) : String := String.ofList (segment table)

def recordPath (table id : String) : String := String.ofList (segment table ++ segment id)

def read (table : String) (params : QueryParams) : Request :=
  { method := .get, path := tablePath table, query := QueryString.pairs params.toStructure }

def create (table : String) (body : Json) : Request :=
  { method := .post, path := tablePath table, body := some body }

def update (table id : String) (body : Json) : Request :=
  { method := .put, path := recordPath table id, body := some body }

def delete (table id : String) (body : Option Json) : Request :=
  { method := .delete, path := recordPath table id, body := body }

def withPair (r : Request) (key value : String) : Request :=
  { r with query := r.query ++ [(key, value)] }

def queryString (r : Request) : String := QueryString.join r.query

def target (r : Request) : String :=
  if r.query.isEmpty then r.path else r.path ++ "?" ++ r.queryString

end Request

end RemoteQuery
