import RemoteQuery.Client.Config
import RemoteQuery.Client.ClientError
import RemoteQuery.Http.Headers
import RemoteQuery.Http.Retry
import RemoteQuery.Http.Url
/-!
The transport over HTTP. How the network treats each attempt is given; a connection counts its
attempts and keeps the messages that reached the service.
-/

namespace RemoteQuery.Http

structure Message where
  method : Method
  target : String
  headers : Headers
  body : Option String

structure Connection where
  config : ClientConfig
  headers : Headers
  outcomes : Nat → Outcome
  /-- What is said of an address that no request can be made for. -/
  addressFault : String → String := fun _ => "builder error"
  attempts : Nat := 0
  received : List Message := []

namespace Connection

def new (config : ClientConfig) (outcomes : Nat → Outcome) : Except ClientError Connection := do
  (config.validate).mapError .config
  let headers ← (Headers.build config.headers config.apiKey).mapError .config
  return { config, headers, outcomes }

/-- A body is JSON, whatever content type is configured. -/
def messageHeaders (headers : Headers) : Option Json → Headers
  | some _ => headers.set Headers.contentType "application/json"
  | none => headers

def messageTo (c : Connection) (target : String) (request : Request) : Message :=
  { method := request.method, target, headers := messageHeaders c.headers request.body,
    body := request.body.map Json.text }

def reaches : Outcome → Bool
  | .refused _ => false
  | _ => true

def deliveries (c : Connection) (count : Nat) (message : Message) : List Message :=
  (List.range count).filterMap fun i =>
    if reaches (c.outcomes (c.attempts + i)) then some message else none

def exchange (c : Connection) (target : String) (request : Request) : Reply × Connection :=
  let outcome := fun k => c.outcomes (c.attempts + k)
  let last :=
    (settle request.method c.config.maxRetries (fun k => (outcome k).reply) ⟨0, 0⟩).made
  ((outcome last).reply,
    { c with
      attempts := c.attempts + (last + 1)
      received := c.received ++ c.deliveries (last + 1) (c.messageTo target request) })

def send (request : Request) (c : Connection) : Reply × Connection :=
  let address := endpoint c.config.baseUrl request
  match Url.target? address with
  | some target => c.exchange target request
  | none => ((Outcome.broken (c.addressFault address)).reply, c)

instance : Transport Connection where
  name := "http"
  send := send

end Connection

end RemoteQuery.Http
