import RemoteQuery.Builder.Call
import RemoteQuery.Query.Slot
import RemoteQuery.Service.Transport

namespace RemoteQuery

abbrev Payload := Fields Value

structure Session (τ : Type) where
  builder : Builder
  transport : Option τ := none

namespace Session

variable {τ : Type}

def isConnected (s : Session τ) : Bool := s.transport.isSome

def bind (s : Session τ) (transport : τ) : Session τ := { s with transport := some transport }

def scope (s : Session τ) : Session τ := { builder := s.builder.scope }

def run (s : Session τ) (calls : List Call) : Session τ := { s with builder := s.builder.run calls }

variable [Transport τ]

def send (s : Session τ) (request : Request) : Reply × Session τ :=
  match s.transport with
  | none => (.error .notConnected, s)
  | some t =>
      let (reply, t) := Transport.send request t
      (reply >>= Response.result, { s with transport := some t })

def readRequest (b : Builder) : Request := .read b.table b.params

def echoRequest (b : Builder) : Request := (readRequest b).withPair "paramsOnly" "true"

def writeBody (b : Builder) (payload : Payload) : Json :=
  match b.params.toStructure with
  | .object fields => .object (Fields.insert fields "data" payload.toJson)
  | _ => .object [("data", payload.toJson)]

def createRequest (b : Builder) (payload : Payload) : Request :=
  .create b.table (writeBody b payload)

def updateRequest (b : Builder) (id : String) (payload : Payload) : Request :=
  .update b.table id (writeBody b payload)

def deleteRequest (b : Builder) (id : String) : Request :=
  .delete b.table id (if b.params.isEmpty then none else some b.params.toStructure)

def execute (s : Session τ) : Reply × Session τ := s.send (readRequest s.builder)

def echoed (r : Response) : Except QueryError QueryParams :=
  match r.params with
  | some params => .ok params
  | none => .error .missingParams

def fetchParams (s : Session τ) : Except QueryError QueryParams × Session τ :=
  let (reply, s) := s.send (echoRequest s.builder)
  (reply >>= echoed, s)

def create (s : Session τ) (payload : Payload) : Reply × Session τ :=
  if payload.isEmpty then (.error (.emptyPayload "create"), s)
  else s.send (createRequest s.builder payload)

def update (s : Session τ) (id : String) (payload : Payload) : Reply × Session τ :=
  if payload.isEmpty then (.error (.emptyPayload "update"), s)
  else s.send (updateRequest s.builder id payload)

def delete (s : Session τ) (id : String) : Reply × Session τ := s.send (deleteRequest s.builder id)

end Session

inductive Action where
  | execute
  | fetchParams
  | create (payload : Payload)
  | update (id : String) (payload : Payload)
  | delete (id : String)

inductive Answer where
  | response (r : Response)
  | params (p : QueryParams)

namespace Answer

def toStructure : Answer → Json
  | .response r => r.toStructure
  | .params p => p.toStructure

end Answer

namespace Session

variable {τ : Type} [Transport τ]

def perform (s : Session τ) : Action → Except QueryError Answer × Session τ
  | .execute => let (r, s) := s.execute; (r.map .response, s)
  | .fetchParams => let (r, s) := s.fetchParams; (r.map .params, s)
  | .create payload => let (r, s) := s.create payload; (r.map .response, s)
  | .update id payload => let (r, s) := s.update id payload; (r.map .response, s)
  | .delete id => let (r, s) := s.delete id; (r.map .response, s)

end Session

end RemoteQuery
