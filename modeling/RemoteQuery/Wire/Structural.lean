import RemoteQuery.Value
import RemoteQuery.Wire.FormatError

namespace RemoteQuery

class Structural (α : Type) where
  toStructure : α → Json
  ofStructure : Json → Decoded α

namespace Wire

variable {ι α : Type}

def object (context : String) : Json → Decoded (Fields Json)
  | .object fields => .ok fields
  | j => .error (.wrongType context "a mapping" j)

def string (context : String) : Json → Decoded String
  | .str s => .ok s
  | j => .error (.wrongType context "a string" j)

def bool (context : String) : Json → Decoded Bool
  | .bool b => .ok b
  | j => .error (.wrongType context "a boolean" j)

def unsigned (context : String) (j : Json) : Decoded UInt64 :=
  match j with
  | .num (.unsigned n) => .ok n
  | _ => .error (.wrongType context "a non-negative integer" j)

def int64 (context : String) (j : Json) : Decoded Int64 :=
  match j with
  | .num n =>
      match n.toInt64? with
      | some i => .ok i
      | none => .error (.wrongType context "an integer" j)
  | _ => .error (.wrongType context "an integer" j)

def items (context : String) : Json → Decoded (List Json)
  | .list items => .ok items
  | j => .error (.wrongType context "a sequence" j)

def readAll (read : ι → Decoded α) : List ι → Decoded (List α)
  | [] => .ok []
  | i :: rest => do
      let a ← read i
      let as ← readAll read rest
      return a :: as

def listOf (context : String) (read : Json → Decoded α) (j : Json) : Decoded (List α) := do
  let js ← items context j
  readAll read js

def strings (context : String) (j : Json) : Decoded (List String) := listOf context (string context) j

def values (context : String) (j : Json) : Decoded (List Value) := do
  let js ← items context j
  return js.map Value.ofJson

def valueMap (context : String) (j : Json) : Decoded (Fields Value) := do
  let fields ← object context j
  return Fields.ofJson fields

def required (fields : Fields Json) (key context : String) (read : Json → Decoded α) : Decoded α :=
  match fields.get? key with
  | some j => read j
  | none => .error (.missingKey context key)

def optional (fields : Fields Json) (key : String) (read : Json → Decoded α) : Decoded (Option α) :=
  match fields.get? key with
  | some j => (read j).map some
  | none => .ok none

def orElse (fields : Fields Json) (key : String) (default : α) (read : Json → Decoded α) :
    Decoded α :=
  match fields.get? key with
  | some j => read j
  | none => .ok default

end Wire

namespace Json

def values (vs : List Value) : Json := .list (vs.map Value.toJson)

def listOf {α : Type} (write : α → Json) (as : List α) : Json := .list (as.map write)

def unlessEmpty {α : Type} (write : List α → Json) (as : List α) : Option Json :=
  if as.isEmpty then none else some (write as)

end Json

end RemoteQuery
