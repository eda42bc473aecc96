import RemoteQuery.Http.Status
import RemoteQuery.Json.Parser
import RemoteQuery.Service.Transport
import RemoteQuery.Text.Blank

namespace RemoteQuery.Http

open Text

inductive Outcome where
  | refused (detail : String)
  | timedOut (detail : String)
  | broken (detail : String)
  | replied (status : UInt16) (body : String)

def connectCode : String := "CONNECT"

def timeoutCode : String := "TIMEOUT"

def brokenCode : String := "HTTP"

def statusCode : String := "HTTP_STATUS"

/-- A byte order mark in front of the text is not part of it. -/
def dropMark : List Char → List Char
  | c :: rest => if c.toNat = 0xFEFF then rest else c :: rest
  | [] => []

namespace Outcome

/-- A reply, or what is said of its body if this broke off. -/
def received (status : UInt16) (body : String) (cut : Option String) : Outcome :=
  if isBodiless status then .replied status ""
  else
    match cut with
    | some detail => .broken detail
    | none => .replied status (String.ofList (dropMark body.toList))

def repeating (outcomes : List Outcome) (otherwise : Outcome) (index : Nat) : Outcome :=
  outcomes.getD index (outcomes.getLastD otherwise)

end Outcome

def trimmed (body : String) : String := String.ofList (trim body.toList)

def statusLine (status : UInt16) : String :=
  "HTTP " ++ Decimal.natText status.toNat ++ " " ++ reason status

def textMember? (key : String) (j : Json) : Option String := (j.member? key).bind Json.string?

def serviceDetail? (body : String) : Option String := do
  let j ← Json.parse? body
  (textMember? "error" j).or (textMember? "message" j)

def statusFailure (status : UInt16) (body : String) : QueryError :=
  .transport ((serviceDetail? body).getD (statusLine status ++ ": " ++ trimmed body))
    statusCode (some status)

def readBody (body : String) : Reply :=
  if (trim body.toList).isEmpty then .ok {}
  else
    match Json.parse? body with
    | none => .error (.format .malformedJson)
    | some j => (Response.ofStructure j).mapError .format

namespace Outcome

def reply : Outcome → Reply
  | .refused detail => .error (.transport detail connectCode none)
  | .timedOut detail => .error (.transport detail timeoutCode none)
  | .broken detail => .error (.transport detail brokenCode none)
  | .replied status body =>
      if isSuccess status then readBody body else .error (statusFailure status body)

end Outcome

end RemoteQuery.Http
