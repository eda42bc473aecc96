import RemoteQuery.Client.Environment
import RemoteQuery.Http.Connection
import RemoteQuery.Service.Session
import RemoteQuery.Text.Printable

namespace RemoteQuery

structure Client (τ : Type) where
  transport : τ

namespace Client

variable {τ : Type}

def table (c : Client τ) (name : String) : Session τ :=
  { builder := .new name, transport := some c.transport }

def describe [Transport τ] (_ : Client τ) : String :=
  "Client \x7b transport: " ++ Text.quoted (Transport.name τ) ++ " \x7d"

def ofConfig (config : ClientConfig) (outcomes : Nat → Http.Outcome) :
    Except ClientError (Client Http.Connection) :=
  (Http.Connection.new config outcomes).map fun c => ⟨c⟩

def ofEnvironment (env : Environment) (outcomes : Nat → Http.Outcome) :
    Except ClientError (Client Http.Connection) := do
  let config ← (ClientConfig.ofEnvironment env).mapError .config
  ofConfig config outcomes

end Client

end RemoteQuery
