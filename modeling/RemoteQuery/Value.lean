import RemoteQuery.Json.Printer

namespace RemoteQuery

inductive Value where
  | null
  | bool (b : Bool)
  | num (n : Number)
  | str (s : String)
  | list (items : List Value)
  | map (entries : List (String × Value))
  deriving Inhabited

namespace Value

mutual
def toJson : Value → Json
  | .null => .null
  | .bool b => .bool b
  | .num n => .num n
  | .str s => .str s
  | .list items => .list (toJsonItems items)
  | .map entries => .object (toJsonEntries entries)
def toJsonItems : List Value → List Json
  | [] => []
  | v :: rest => toJson v :: toJsonItems rest
def toJsonEntries : List (String × Value) → List (String × Json)
  | [] => []
  | (key, v) :: rest => (key, toJson v) :: toJsonEntries rest
end

mutual
def ofJson : Json → Value
  | .null => .null
  | .bool b => .bool b
  | .num n => .num n
  | .str s => .str s
  | .list items => .list (ofJsonItems items)
  | .object fields => .map (ofJsonFields fields)
def ofJsonItems : List Json → List Value
  | [] => []
  | j :: rest => ofJson j :: ofJsonItems rest
def ofJsonFields : List (String × Json) → List (String × Value)
  | [] => []
  | (key, j) :: rest => (key, ofJson j) :: ofJsonFields rest
end

theorem toJsonItems_eq_map (items : List Value) : toJsonItems items = items.map toJson := by
  induction items with
  | nil => rfl
  | cons v rest ih => simp [toJsonItems, ih]

theorem toJsonEntries_eq_map (entries : List (String × Value)) :
    toJsonEntries entries = entries.map fun (key, v) => (key, toJson v) := by
  induction entries with
  | nil => rfl
  | cons entry rest ih => simp [toJsonEntries, ih]

theorem ofJsonItems_eq_map (items : List Json) : ofJsonItems items = items.map ofJson := by
  induction items with
  | nil => rfl
  | cons j rest ih => simp [ofJsonItems, ih]

theorem ofJsonFields_eq_map (fields : List (String × Json)) :
    ofJsonFields fields = fields.map fun (key, j) => (key, ofJson j) := by
  induction fields with
  | nil => rfl
  | cons entry rest ih => simp [ofJsonFields, ih]

def equal (a b : Value) : Bool := a.toJson.equal b.toJson

def isNull : Value → Bool
  | .null => true
  | _ => false

def string? : Value → Option String
  | .str s => some s
  | _ => none

def int64? : Value → Option Int64
  | .num n => n.toInt64?
  | _ => none

def binary64? : Value → Option Binary64
  | .num n => some n.toBinary64
  | _ => none

def bool? : Value → Option Bool
  | .bool b => some b
  | _ => none

def items? : Value → Option (List Value)
  | .list items => some items
  | _ => none

def entries? : Value → Option (Fields Value)
  | .map entries => some entries
  | _ => none

/-- A string shows as itself, any other value as its JSON text. -/
def display : Value → String
  | .str s => s
  | v => v.toJson.text

def ofUInt64 (n : UInt64) : Value := .num (.unsigned n)

def ofInt64 (n : Int64) : Value := .num (Number.ofInt64 n)

/-- Only a finite number has a value of its own. -/
def ofFinite? (x : Option Binary64) : Value := (x.map fun x => .num (.float x)).getD .null

def ofStrings (items : List String) : Value := .list (items.map .str)

end Value

namespace Fields

def toJson (fields : Fields Value) : Json :=
  .object (fields.map fun (key, v) => (key, v.toJson))

def ofJson (fields : Fields Json) : Fields Value :=
  fields.map fun (key, j) => (key, Value.ofJson j)

end Fields

end RemoteQuery
