import RemoteQuery.Client.ConfigError
import RemoteQuery.Fields
import RemoteQuery.Text.Blank

namespace RemoteQuery.Http

abbrev Headers := Fields String

namespace Headers

def isTokenChar (c : Char) : Bool := c.isAlphanum || "!\"#$%&'*+-.^_`|~".toList.contains c

def maxNameLength : Nat := 65535

def isName (name : String) : Bool :=
  let cs := name.toList
  !cs.isEmpty && cs.length ≤ maxNameLength && cs.all isTokenChar

def isValueChar (c : Char) : Bool := c = '\t' || (32 ≤ c.toNat && c.toNat ≠ 127)

def isValue (value : String) : Bool := value.toList.all isValueChar

def authorization : String := "authorization"

def contentType : String := "content-type"

def set (headers : Headers) (name value : String) : Headers :=
  Fields.insert headers name.toLower value

def add (headers : Headers) (name value : String) : Except ConfigError Headers :=
  if isName name && isValue value then .ok (headers.set name value)
  else .error (.invalidValue "headers" (name ++ ": " ++ value) "a valid HTTP header")

def addAll (headers : Headers) : List (String × String) → Except ConfigError Headers
  | [] => .ok headers
  | (name, value) :: rest => do
      let headers ← headers.add name value
      headers.addAll rest

def bearer (key : String) : String := "Bearer " ++ key

def authorize (headers : Headers) : Option String → Except ConfigError Headers
  | none => .ok headers
  | some key =>
      if isValue (bearer key) then .ok (headers.set authorization (bearer key))
      else .error (.invalidValue "api_key" "<redacted>" "a header-safe token")

def build (entries : List (String × String)) (apiKey : Option String) :
    Except ConfigError Headers := do
  let headers ← addAll [] entries
  headers.authorize apiKey

/-- A receiver takes no notice of blanks around a value. -/
def asReceived (headers : Headers) : Headers :=
  headers.map fun (name, value) => (name, String.ofList (Text.trim value.toList))

end Headers

end RemoteQuery.Http
