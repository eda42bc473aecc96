import RemoteQuery.Service.Request
import RemoteQuery.Service.Response

namespace RemoteQuery

abbrev Reply := Except QueryError Response

class Transport (τ : Type) where
  name : String
  send : Request → τ → Reply × τ

structure Script where
  replies : List Reply
  sent : List Request := []

namespace Script

/-- When the replies are used up, the answers are empty responses. -/
def send (request : Request) (s : Script) : Reply × Script :=
  match s.replies with
  | [] => (.ok {}, { s with sent := s.sent ++ [request] })
  | reply :: rest => (reply, { replies := rest, sent := s.sent ++ [request] })

instance : Transport Script where
  name := "script"
  send := send

end Script

end RemoteQuery
