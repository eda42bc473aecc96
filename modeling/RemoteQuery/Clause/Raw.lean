import RemoteQuery.Wire.Structural

namespace RemoteQuery

open Wire

structure RawExpression where
  expression : String
  bindings : List Value

namespace RawExpression

def toStructure (r : RawExpression) : Json :=
  .record [
    ("bindings", Json.unlessEmpty .values r.bindings),
    ("expression", some (.str r.expression))]

def ofStructure (j : Json) : Decoded RawExpression := do
  let fields ← object "raw expression" j
  let expression ← required fields "expression" "raw expression" (string "raw expression")
  let bindings ← orElse fields "bindings" [] (values "raw expression")
  return ⟨expression, bindings⟩

instance : Structural RawExpression := ⟨toStructure, ofStructure⟩

end RawExpression

end RemoteQuery
