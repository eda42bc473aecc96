import RemoteQuery.Clause.Condition
import RemoteQuery.Clause.Frame

namespace RemoteQuery

open Wire

structure WindowSpec where
  function : WindowFunction
  field : Option String := none
  «alias» : String
  «over» : OverClause := {}
  args : List Value := []

namespace WindowSpec

def withField (w : WindowSpec) (field : String) : WindowSpec := { w with field := some field }

def withPartition (w : WindowSpec) (fields : List String) : WindowSpec :=
  { w with «over» := { w.over with partitionBy := fields } }

def addOrder (w : WindowSpec) (order : OrderSpec) : WindowSpec :=
  { w with «over» := { w.over with orderBy := w.over.orderBy ++ [order] } }

def withFrame (w : WindowSpec) (frame : FrameSpec) : WindowSpec :=
  { w with «over» := { w.over with frame := some frame } }

def addArg (w : WindowSpec) (arg : Value) : WindowSpec := { w with args := w.args ++ [arg] }

def toStructure (w : WindowSpec) : Json :=
  .record [
    ("alias", some (.str w.alias)),
    ("args", Json.unlessEmpty .values w.args),
    ("field", w.field.map .str),
    ("frame", w.over.frameStructure),
    ("orderBy", w.over.orderStructure),
    ("partitionBy", w.over.partitionStructure),
    ("type", some (Token.toStructure w.function))]

def ofStructure (j : Json) : Decoded WindowSpec := do
  let fields ← object "window spec" j
  let function ← required fields "type" "window spec" Token.ofStructure
  let field ← optional fields "field" (string "window spec")
  let label ← required fields "alias" "window spec" (string "window spec")
  let clause ← OverClause.ofFields "window spec" fields
  let args ← orElse fields "args" [] (values "window spec")
  return ⟨function, field, label, clause, args⟩

instance : Structural WindowSpec := ⟨toStructure, ofStructure⟩

end WindowSpec

structure AdvancedWindowSpec where
  window : WindowSpec
  filters : List Predicate := []

namespace AdvancedWindowSpec

def toStructure (a : AdvancedWindowSpec) : Json :=
  .record [
    ("alias", some (.str a.window.alias)),
    ("args", Json.unlessEmpty .values a.window.args),
    ("field", a.window.field.map .str),
    ("filter", Json.unlessEmpty (.listOf Predicate.toStructure) a.filters),
    ("over", some a.window.over.toStructure),
    ("type", some (Token.toStructure a.window.function))]

def ofStructure (j : Json) : Decoded AdvancedWindowSpec := do
  let fields ← object "advanced window spec" j
  let clause ← orElse fields "over" {} OverClause.ofStructure
  let function ← required fields "type" "advanced window spec" Token.ofStructure
  let field ← optional fields "field" (string "advanced window spec")
  let label ← required fields "alias" "advanced window spec" (string "advanced window spec")
  let args ← orElse fields "args" [] (values "advanced window spec")
  let filters ← orElse fields "filter" [] (listOf "advanced window spec" Predicate.ofStructure)
  return ⟨⟨function, field, label, clause, args⟩, filters⟩

instance : Structural AdvancedWindowSpec := ⟨toStructure, ofStructure⟩

end AdvancedWindowSpec

end RemoteQuery
