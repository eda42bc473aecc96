import RemoteQuery.Clause.Vocabulary

namespace RemoteQuery

open Wire

structure Predicate where
  field : String
  operator : Operator
  value : Option Value
  combinator : Option Combinator

namespace Predicate

/-- An operator that compares with nothing drops the value. -/
def new (field : String) (operator : Operator) (value : Value) : Predicate :=
  ⟨field, operator, if operator.requiresValue then some value else none, none⟩

def eq (field : String) (value : Value) : Predicate := new field .equal value

def isNull (field : String) : Predicate := new field .isNull .null

def isNotNull (field : String) : Predicate := new field .isNotNull .null

def withCombinator (p : Predicate) (combinator : Combinator) : Predicate :=
  { p with combinator := some combinator }

def Complete (p : Predicate) : Prop := p.operator.requiresValue = true → p.value.isSome = true

def toStructure (p : Predicate) : Json :=
  .record [
    ("combinator", p.combinator.map Token.toStructure),
    ("field", some (.str p.field)),
    ("operator", some (Token.toStructure p.operator)),
    ("value", p.value.map Value.toJson)]

def readValue (operator : Operator) (fields : Fields Json) : Decoded (Option Value) :=
  match fields.get? "value" with
  | some j => .ok (some (Value.ofJson j))
  | none =>
      if operator.requiresValue then .error (.missingKey "predicate" "value") else .ok none

def ofStructure (j : Json) : Decoded Predicate := do
  let fields ← object "predicate" j
  let operator ← required fields "operator" "predicate" Token.ofStructure
  let value ← readValue operator fields
  let field ← required fields "field" "predicate" (string "predicate")
  let combinator ← optional fields "combinator" Token.ofStructure
  return ⟨field, operator, value, combinator⟩

instance : Structural Predicate := ⟨toStructure, ofStructure⟩

end Predicate

structure RangeClause where
  field : String
  low : Value
  high : Value

namespace RangeClause

def toStructure (r : RangeClause) : Json :=
  .record [("field", some (.str r.field)), ("value", some (.values [r.low, r.high]))]

def readBounds (j : Json) : Decoded (Value × Value) := do
  let bounds ← values "range clause" j
  match bounds with
  | [low, high] => .ok (low, high)
  | _ => .error (.wrongType "range clause" "exactly two bounds" j)

def ofStructure (j : Json) : Decoded RangeClause := do
  let fields ← object "range clause" j
  let (low, high) ← required fields "value" "range clause" readBounds
  let field ← required fields "field" "range clause" (string "range clause")
  return ⟨field, low, high⟩

instance : Structural RangeClause := ⟨toStructure, ofStructure⟩

end RangeClause

structure SetClause where
  field : String
  values : List Value

namespace SetClause

def toStructure (s : SetClause) : Json :=
  .record [("field", some (.str s.field)), ("value", some (.values s.values))]

def ofStructure (j : Json) : Decoded SetClause := do
  let fields ← object "set clause" j
  let field ← required fields "field" "set clause" (string "set clause")
  let values ← required fields "value" "set clause" (Wire.values "set clause")
  return ⟨field, values⟩

instance : Structural SetClause := ⟨toStructure, ofStructure⟩

end SetClause

structure NullnessClause where
  field : String
  isNull : Bool

namespace NullnessClause

def toStructure (n : NullnessClause) : Json :=
  .record [("field", some (.str n.field)), ("isNull", some (.bool n.isNull))]

def ofStructure (j : Json) : Decoded NullnessClause := do
  let fields ← object "nullness clause" j
  let isNull ← required fields "isNull" "nullness clause" (bool "nullness clause")
  let field ← required fields "field" "nullness clause" (string "nullness clause")
  return ⟨field, isNull⟩

instance : Structural NullnessClause := ⟨toStructure, ofStructure⟩

end NullnessClause

structure HavingClause where
  field : String
  operator : Operator
  value : Value

namespace HavingClause

def toStructure (h : HavingClause) : Json :=
  .record [
    ("field", some (.str h.field)),
    ("operator", some (Token.toStructure h.operator)),
    ("value", some h.value.toJson)]

def ofStructure (j : Json) : Decoded HavingClause := do
  let fields ← object "having clause" j
  let field ← required fields "field" "having clause" (string "having clause")
  let operator ← required fields "operator" "having clause" Token.ofStructure
  let value ← orElse fields "value" .null (fun j => .ok (Value.ofJson j))
  return ⟨field, operator, value⟩

instance : Structural HavingClause := ⟨toStructure, ofStructure⟩

end HavingClause

end RemoteQuery
