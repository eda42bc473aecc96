import RemoteQuery.Fields
import RemoteQuery.Number.Basic

namespace RemoteQuery

inductive Json where
  | null
  | bool (b : Bool)
  | num (n : Number)
  | str (s : String)
  | list (items : List Json)
  | object (fields : List (String × Json))
  deriving Inhabited

namespace Json

mutual
def depth : Json → Nat
  | .list items => depthItems items + 1
  | .object fields => depthFields fields + 1
  | _ => 0
def depthItems : List Json → Nat
  | [] => 0
  | j :: rest => max j.depth (depthItems rest)
def depthFields : List (String × Json) → Nat
  | [] => 0
  | (_, j) :: rest => max j.depth (depthFields rest)
end

mutual
def equal : Json → Json → Bool
  | .null, .null => true
  | .bool a, .bool b => a == b
  | .num a, .num b => a.equal b
  | .str a, .str b => a == b
  | .list a, .list b => equalItems a b
  | .object a, .object b => equalFields a b
  | _, _ => false
def equalItems : List Json → List Json → Bool
  | [], [] => true
  | a :: as, b :: bs => equal a b && equalItems as bs
  | _, _ => false
def equalFields : List (String × Json) → List (String × Json) → Bool
  | [], [] => true
  | (k, a) :: as, (l, b) :: bs => k == l && equal a b && equalFields as bs
  | _, _ => false
end

mutual
def Ordered : Json → Prop
  | .list items => OrderedItems items
  | .object fields => Fields.Sorted fields ∧ OrderedFields fields
  | _ => True
def OrderedItems : List Json → Prop
  | [] => True
  | j :: rest => j.Ordered ∧ OrderedItems rest
def OrderedFields : List (String × Json) → Prop
  | [] => True
  | (_, j) :: rest => j.Ordered ∧ OrderedFields rest
end

inductive Within : Json → Json → Prop
  | refl (j : Json) : Within j j
  | item {j k : Json} {items : List Json} : k ∈ items → Within j k → Within j (.list items)
  | field {j k : Json} {key : String} {fields : List (String × Json)} :
      (key, k) ∈ fields → Within j k → Within j (.object fields)

/-- An object of the entries that are present. The entries are given in key order. -/
def record (entries : List (String × Option Json)) : Json :=
  .object (entries.filterMap fun (key, value?) => value?.map fun value => (key, value))

def strings (items : List String) : Json := .list (items.map .str)

def unsigned (n : UInt64) : Json := .num (.unsigned n)

def int64 (n : Int64) : Json := .num (Number.ofInt64 n)

def member? (j : Json) (key : String) : Option Json :=
  match j with
  | .object fields => Fields.get? fields key
  | _ => none

def string? : Json → Option String
  | .str s => some s
  | _ => none

def isScalar : Json → Bool
  | .list _ => false
  | .object _ => false
  | _ => true

end Json

end RemoteQuery
