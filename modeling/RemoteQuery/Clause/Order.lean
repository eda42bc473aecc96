import RemoteQuery.Clause.Vocabulary

namespace RemoteQuery

open Wire

structure OrderSpec where
  field : String
  direction : Direction
  nulls : Option NullsPlacement

namespace OrderSpec

def new (field : String) (direction : Direction) : OrderSpec := ⟨field, direction, none⟩

def withNulls (o : OrderSpec) (nulls : NullsPlacement) : OrderSpec := { o with nulls := some nulls }

def toStructure (o : OrderSpec) : Json :=
  .record [
    ("direction", some (Token.toStructure o.direction)),
    ("field", some (.str o.field)),
    ("nulls", o.nulls.map Token.toStructure)]

def ofStructure (j : Json) : Decoded OrderSpec := do
  let fields ← object "order spec" j
  let field ← required fields "field" "order spec" (string "order spec")
  let direction ← orElse fields "direction" .ascending Token.ofStructure
  let nulls ← optional fields "nulls" Token.ofStructure
  return ⟨field, direction, nulls⟩

instance : Structural OrderSpec := ⟨toStructure, ofStructure⟩

end OrderSpec

end RemoteQuery
