import RemoteQuery.Clause.Vocabulary

namespace RemoteQuery

open Wire

structure AggregateSpec where
  function : AggregateFunction
  field : String
  «alias» : Option String

namespace AggregateSpec

def outputName (a : AggregateSpec) : String :=
  match a.alias with
  | some label => label
  | none => a.function.token ++ "_" ++ a.field

def toStructure (a : AggregateSpec) : Json :=
  .record [
    ("alias", a.alias.map .str),
    ("field", some (.str a.field)),
    ("type", some (Token.toStructure a.function))]

def ofStructure (j : Json) : Decoded AggregateSpec := do
  let fields ← object "aggregate spec" j
  let function ← required fields "type" "aggregate spec" Token.ofStructure
  let field ← required fields "field" "aggregate spec" (string "aggregate spec")
  let label ← optional fields "alias" (string "aggregate spec")
  return ⟨function, field, label⟩

instance : Structural AggregateSpec := ⟨toStructure, ofStructure⟩

end AggregateSpec

structure PivotSpec where
  column : String
  values : List Value
  aggregate : AggregateSpec

namespace PivotSpec

def toStructure (p : PivotSpec) : Json :=
  .record [
    ("aggregate", some p.aggregate.toStructure),
    ("column", some (.str p.column)),
    ("values", some (.values p.values))]

def ofStructure (j : Json) : Decoded PivotSpec := do
  let fields ← object "pivot spec" j
  let column ← required fields "column" "pivot spec" (string "pivot spec")
  let values ← required fields "values" "pivot spec" (Wire.values "pivot spec")
  let aggregate ← required fields "aggregate" "pivot spec" AggregateSpec.ofStructure
  return ⟨column, values, aggregate⟩

instance : Structural PivotSpec := ⟨toStructure, ofStructure⟩

end PivotSpec

structure TransformSpec where
  groupBy : Option (List String) := none
  pivot : Option PivotSpec := none
  flatten : Option Bool := none
  select : Option (List String) := none
  compute : Option (Fields String) := none

namespace TransformSpec

def addComputed (t : TransformSpec) (name expression : String) : TransformSpec :=
  { t with compute := some (Fields.insert (t.compute.getD []) name expression) }

def computedToJson (compute : Fields String) : Json :=
  .object (compute.map fun (name, expression) => (name, .str expression))

def toStructure (t : TransformSpec) : Json :=
  .record [
    ("compute", t.compute.map computedToJson),
    ("flatten", t.flatten.map .bool),
    ("groupBy", t.groupBy.map .strings),
    ("pivot", t.pivot.map PivotSpec.toStructure),
    ("select", t.select.map .strings)]

def readExpression (entry : String × Json) : Decoded (String × String) :=
  match entry with
  | (name, .str expression) => .ok (name, expression)
  | (_, j) => .error (.wrongType "transform spec" "an expression string" j)

def readComputed (j : Json) : Decoded (Fields String) := do
  let fields ← object "transform spec" j
  readAll readExpression fields

def ofStructure (j : Json) : Decoded TransformSpec := do
  let fields ← object "transform spec" j
  let compute ← optional fields "compute" readComputed
  let groupBy ← optional fields "groupBy" (strings "transform spec")
  let pivot ← optional fields "pivot" PivotSpec.ofStructure
  let flatten ← optional fields "flatten" (bool "transform spec")
  let select ← optional fields "select" (strings "transform spec")
  return ⟨groupBy, pivot, flatten, select, compute⟩

instance : Structural TransformSpec := ⟨toStructure, ofStructure⟩

end TransformSpec

end RemoteQuery
