import RemoteQuery.Client.Config
import RemoteQuery.Json.Printer
import RemoteQuery.Text.Printable
/-!
Configuration as JSON. Members are read in key order, so that the first bad one is reported, and only
then is a member missed. A list is read by position.
-/

namespace RemoteQuery

namespace ClientConfig

inductive JsonFault where
  | wrongType (found : Json) (expected : String)
  | outOfRange (found : Number) (expected : String)
  | missingField (name : String)
  | wrongLength (found : Nat) (expected : String)

namespace JsonFault

def kindOf : Json → String
  | .null => "null"
  | .bool true => "boolean `true`"
  | .bool false => "boolean `false`"
  | .num (.float x) => "floating point `" ++ String.ofList x.render ++ "`"
  | .num n => "integer `" ++ String.ofList n.render ++ "`"
  | .str s => "string " ++ Text.quoted s
  | .list _ => "sequence"
  | .object _ => "map"

def message : JsonFault → String
  | .wrongType found expected => "invalid type: " ++ kindOf found ++ ", expected " ++ expected
  | .outOfRange found expected =>
      "invalid value: " ++ kindOf (.num found) ++ ", expected " ++ expected
  | .missingField name => "missing field `" ++ name ++ "`"
  | .wrongLength found expected =>
      "invalid length " ++ Decimal.natText found ++ ", expected " ++ expected

end JsonFault

abbrev Read (α : Type) := Except JsonFault α

def text : Json → Read String
  | .str s => .ok s
  | j => .error (.wrongType j "a string")

def textOrNull : Json → Read (Option String)
  | .null => .ok none
  | j => (text j).map some

def word (limit : Nat) (name : String) : Json → Read Nat
  | .num (.unsigned n) =>
      if n.toNat < limit then .ok n.toNat else .error (.outOfRange (.unsigned n) name)
  | .num (.negative n h) => .error (.outOfRange (.negative n h) name)
  | j => .error (.wrongType j name)

def word64 (j : Json) : Read UInt64 := (word UInt64.size "u64" j).map UInt64.ofNat

def word32 (j : Json) : Read UInt32 := (word UInt32.size "u32" j).map UInt32.ofNat

def textFields : List (String × Json) → Read (Fields String)
  | [] => .ok []
  | (name, j) :: rest => do
      let value ← text j
      let fields ← textFields rest
      return (name, value) :: fields

def textMap : Json → Read (Fields String)
  | .object fields => textFields fields
  | j => .error (.wrongType j "a map")

structure Draft where
  baseUrl : Option String := none
  apiKey : Option (Option String) := none
  timeoutSecs : Option UInt64 := none
  maxRetries : Option UInt32 := none
  retryDelayMs : Option UInt64 := none
  headers : Option (Fields String) := none

namespace Draft

def read (d : Draft) (key : String) (j : Json) : Read Draft :=
  match key with
  | "base_url" => (text j).map fun value => { d with baseUrl := some value }
  | "api_key" => (textOrNull j).map fun value => { d with apiKey := some value }
  | "timeout_secs" => (word64 j).map fun value => { d with timeoutSecs := some value }
  | "max_retries" => (word32 j).map fun value => { d with maxRetries := some value }
  | "retry_delay_ms" => (word64 j).map fun value => { d with retryDelayMs := some value }
  | "headers" => (textMap j).map fun value => { d with headers := some value }
  | _ => .ok d

def readAll (d : Draft) : List (String × Json) → Read Draft
  | [] => .ok d
  | (key, j) :: rest => do
      let d ← d.read key j
      d.readAll rest

def present {α : Type} (name : String) : Option α → Read α
  | some a => .ok a
  | none => .error (.missingField name)

def finish (d : Draft) : Read ClientConfig := do
  let baseUrl ← present "base_url" d.baseUrl
  let timeoutSecs ← present "timeout_secs" d.timeoutSecs
  let maxRetries ← present "max_retries" d.maxRetries
  let retryDelayMs ← present "retry_delay_ms" d.retryDelayMs
  return {
    baseUrl, apiKey := d.apiKey.getD none, timeoutSecs, maxRetries, retryDelayMs,
    headers := d.headers.getD [] }

end Draft

def positions : List String :=
  ["base_url", "api_key", "timeout_secs", "max_retries", "retry_delay_ms", "headers"]

/-- The first `index` positions are read; the last one may be left out. -/
def readPositions (index : Nat) (d : Draft) : List String → List Json → Read Draft
  | [], _ => .ok d
  | name :: names, j :: js => do
      let d ← d.read name j
      readPositions (index + 1) d names js
  | name :: _, [] =>
      if name = "headers" then .ok d
      else .error (.wrongLength index "struct ClientConfig with 6 elements")

def ofJson : Json → Read ClientConfig
  | .object fields => do
      let d ← ({} : Draft).readAll fields
      d.finish
  | .list items => do
      let d ← readPositions 0 {} positions items
      if items.length ≤ positions.length then d.finish
      else .error (.wrongLength items.length "fewer elements in array")
  | j => .error (.wrongType j "struct ClientConfig")

def toJson (c : ClientConfig) : Json :=
  .object [
    ("api_key", (c.apiKey.map .str).getD .null),
    ("base_url", .str c.baseUrl),
    ("headers", .object (c.headers.map fun (name, value) => (name, .str value))),
    ("max_retries", .unsigned c.maxRetries.toUInt64),
    ("retry_delay_ms", .unsigned c.retryDelayMs),
    ("timeout_secs", .unsigned c.timeoutSecs)]

end ClientConfig

end RemoteQuery
