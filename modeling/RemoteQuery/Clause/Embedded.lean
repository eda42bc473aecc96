import RemoteQuery.Clause.Vocabulary
import RemoteQuery.Json.Descent

namespace RemoteQuery

open Wire

structure JoinCondition where
  left : String
  operator : Operator
  right : String

namespace JoinCondition

def toStructure (c : JoinCondition) : Json :=
  .record [
    ("leftField", some (.str c.left)),
    ("operator", some (Token.toStructure c.operator)),
    ("rightField", some (.str c.right))]

def ofStructure (j : Json) : Decoded JoinCondition := do
  let fields ← object "join condition" j
  let left ← required fields "leftField" "join condition" (string "join condition")
  let operator ← required fields "operator" "join condition" Token.ofStructure
  let right ← required fields "rightField" "join condition" (string "join condition")
  return ⟨left, operator, right⟩

instance : Structural JoinCondition := ⟨toStructure, ofStructure⟩

end JoinCondition

variable {Q R : Type}

structure Subquery (Q : Type) where
  table : String
  query : Q
  on : Option JoinCondition := none
  negated : Bool := false

namespace Subquery

def map (f : Q → R) (s : Subquery Q) : Subquery R := ⟨s.table, f s.query, s.on, s.negated⟩

def toStructure (s : Subquery Json) : Json :=
  .record [
    ("negated", if s.negated then some (.bool true) else none),
    ("on", s.on.map JoinCondition.toStructure),
    ("query", some s.query),
    ("table", some (.str s.table))]

def ofStructureWith (read : Json → Decoded Q) (j : Json) : Decoded (Subquery Q) := do
  let fields ← object "subquery condition" j
  let table ← required fields "table" "subquery condition" (string "subquery condition")
  let query ← required fields "query" "subquery condition" read
  let on ← optional fields "on" JoinCondition.ofStructure
  let negated ← orElse fields "negated" false (bool "subquery condition")
  return ⟨table, query, on, negated⟩

theorem ofStructureWith_congr {f g : Json → Decoded Q} {j : Json}
    (h : Json.AgreeBelow j.depth f g) : ofStructureWith f j = ofStructureWith g j := by
  cases j with
  | object fields =>
      have hq : required fields "query" "subquery condition" f
          = required fields "query" "subquery condition" g :=
        required_congr fun k hk => h k (Json.depth_lt_of_get? hk)
      simp only [ofStructureWith, object, Decoded.ok_bind, hq]
  | _ => rfl

end Subquery

structure Cte (Q : Type) where
  name : String
  table : Option String := none
  query : Q
  columns : Option (List String) := none

namespace Cte

def map (f : Q → R) (c : Cte Q) : Cte R := ⟨c.name, c.table, f c.query, c.columns⟩

def toStructure (c : Cte Json) : Json :=
  .record [
    ("columns", c.columns.map .strings),
    ("name", some (.str c.name)),
    ("query", some c.query),
    ("table", c.table.map .str)]

def ofStructureWith (read : Json → Decoded Q) (j : Json) : Decoded (Cte Q) := do
  let fields ← object "cte" j
  let name ← required fields "name" "cte" (string "cte")
  let table ← optional fields "table" (string "cte")
  let query ← required fields "query" "cte" read
  let columns ← optional fields "columns" (strings "cte")
  return ⟨name, table, query, columns⟩

theorem ofStructureWith_congr {f g : Json → Decoded Q} {j : Json}
    (h : Json.AgreeBelow j.depth f g) : ofStructureWith f j = ofStructureWith g j := by
  cases j with
  | object fields =>
      have hq : required fields "query" "cte" f = required fields "query" "cte" g :=
        required_congr fun k hk => h k (Json.depth_lt_of_get? hk)
      simp only [ofStructureWith, object, Decoded.ok_bind, hq]
  | _ => rfl

end Cte

structure RecursiveCte (Q : Type) where
  name : String
  initial : Q
  initialTable : Option String := none
  recursive : Q
  recursiveTable : Option String := none
  unionAll : Bool := false
  columns : Option (List String) := none

namespace RecursiveCte

def map (f : Q → R) (c : RecursiveCte Q) : RecursiveCte R :=
  ⟨c.name, f c.initial, c.initialTable, f c.recursive, c.recursiveTable, c.unionAll, c.columns⟩

def toStructure (c : RecursiveCte Json) : Json :=
  .record [
    ("columns", c.columns.map .strings),
    ("initial", some c.initial),
    ("initialTable", c.initialTable.map .str),
    ("name", some (.str c.name)),
    ("recursive", some c.recursive),
    ("recursiveTable", c.recursiveTable.map .str),
    ("unionAll", some (.bool c.unionAll))]

def ofStructureWith (read : Json → Decoded Q) (j : Json) : Decoded (RecursiveCte Q) := do
  let fields ← object "recursive cte" j
  let name ← required fields "name" "recursive cte" (string "recursive cte")
  let initial ← required fields "initial" "recursive cte" read
  let initialTable ← optional fields "initialTable" (string "recursive cte")
  let recursive ← required fields "recursive" "recursive cte" read
  let recursiveTable ← optional fields "recursiveTable" (string "recursive cte")
  let unionAll ← orElse fields "unionAll" false (bool "recursive cte")
  let columns ← optional fields "columns" (strings "recursive cte")
  return ⟨name, initial, initialTable, recursive, recursiveTable, unionAll, columns⟩

theorem ofStructureWith_congr {f g : Json → Decoded Q} {j : Json}
    (h : Json.AgreeBelow j.depth f g) : ofStructureWith f j = ofStructureWith g j := by
  cases j with
  | object fields =>
      have hi : required fields "initial" "recursive cte" f
          = required fields "initial" "recursive cte" g :=
        required_congr fun k hk => h k (Json.depth_lt_of_get? hk)
      have hr : required fields "recursive" "recursive cte" f
          = required fields "recursive" "recursive cte" g :=
        required_congr fun k hk => h k (Json.depth_lt_of_get? hk)
      simp only [ofStructureWith, object, Decoded.ok_bind, hi, hr]
  | _ => rfl

end RecursiveCte

end RemoteQuery
