import RemoteQuery.Clause.Aggregate
import RemoteQuery.Clause.Embedded
import RemoteQuery.Clause.Explain
import RemoteQuery.Clause.Group
import RemoteQuery.Clause.Raw
import RemoteQuery.Clause.Window

namespace RemoteQuery

open Wire

structure QueryParams where
  filter : Option (Fields Value) := none
  predicates : Option (List Predicate) := none
  ranges : Option (List RangeClause) := none
  oneOf : Option (List SetClause) := none
  noneOf : Option (List SetClause) := none
  nullness : Option (List NullnessClause) := none
  subqueries : Option (List (Subquery QueryParams)) := none
  groups : Option (List BooleanGroup) := none
  orderBy : Option (List OrderSpec) := none
  groupBy : Option (List String) := none
  having : Option (List HavingClause) := none
  aggregates : Option (List AggregateSpec) := none
  windows : Option (List WindowSpec) := none
  advancedWindows : Option (List AdvancedWindowSpec) := none
  ctes : Option (List (Cte QueryParams)) := none
  recursiveCtes : Option (List (RecursiveCte QueryParams)) := none
  raw : Option (List RawExpression) := none
  transform : Option TransformSpec := none
  select : Option (List String) := none
  limit : Option UInt64 := none
  offset : Option UInt64 := none
  explain : Option ExplainOptions := none

namespace QueryParams

instance : Inhabited QueryParams := ⟨{}⟩

def listSlot {α : Type} (write : α → Json) (slot : Option (List α)) : Option Json :=
  slot.map (.listOf write)

mutual
def toStructure : QueryParams → Json
  | ⟨filter, predicates, ranges, oneOf, noneOf, nullness, subqueries, groups, orderBy, groupBy,
      having, aggregates, windows, advancedWindows, ctes, recursiveCtes, raw, transform, select,
      limit, offset, explain⟩ =>
      .record [
        ("advancedWindows", listSlot AdvancedWindowSpec.toStructure advancedWindows),
        ("aggregates", listSlot AggregateSpec.toStructure aggregates),
        ("explain", explain.map ExplainOptions.toStructure),
        ("filter", filter.map Fields.toJson),
        ("groupBy", groupBy.map .strings),
        ("having", listSlot HavingClause.toStructure having),
        ("limit", limit.map .unsigned),
        ("offset", offset.map .unsigned),
        ("orderBy", listSlot OrderSpec.toStructure orderBy),
        ("raw", listSlot RawExpression.toStructure raw),
        ("select", select.map .strings),
        ("transform", transform.map TransformSpec.toStructure),
        ("whereBetween", listSlot RangeClause.toStructure ranges),
        ("whereExists", listSlot Subquery.toStructure (encodeSubqueries? subqueries)),
        ("whereGroups", listSlot BooleanGroup.toStructure groups),
        ("whereIn", listSlot SetClause.toStructure oneOf),
        ("whereNotIn", listSlot SetClause.toStructure noneOf),
        ("whereNull", listSlot NullnessClause.toStructure nullness),
        ("whereRaw", listSlot Predicate.toStructure predicates),
        ("windows", listSlot WindowSpec.toStructure windows),
        ("with", listSlot Cte.toStructure (encodeCtes? ctes)),
        ("withRecursive", listSlot RecursiveCte.toStructure (encodeRecursiveCtes? recursiveCtes))]
def encodeSubqueries? : Option (List (Subquery QueryParams)) → Option (List (Subquery Json))
  | none => none
  | some subqueries => some (encodeSubqueries subqueries)
def encodeSubqueries : List (Subquery QueryParams) → List (Subquery Json)
  | [] => []
  | ⟨table, query, on, negated⟩ :: rest =>
      ⟨table, query.toStructure, on, negated⟩ :: encodeSubqueries rest
def encodeCtes? : Option (List (Cte QueryParams)) → Option (List (Cte Json))
  | none => none
  | some ctes => some (encodeCtes ctes)
def encodeCtes : List (Cte QueryParams) → List (Cte Json)
  | [] => []
  | ⟨name, table, query, columns⟩ :: rest =>
      ⟨name, table, query.toStructure, columns⟩ :: encodeCtes rest
def encodeRecursiveCtes? :
    Option (List (RecursiveCte QueryParams)) → Option (List (RecursiveCte Json))
  | none => none
  | some ctes => some (encodeRecursiveCtes ctes)
def encodeRecursiveCtes : List (RecursiveCte QueryParams) → List (RecursiveCte Json)
  | [] => []
  | ⟨name, initial, initialTable, recursive, recursiveTable, unionAll, columns⟩ :: rest =>
      ⟨name, initial.toStructure, initialTable, recursive.toStructure, recursiveTable, unionAll,
        columns⟩ :: encodeRecursiveCtes rest
end

theorem encodeSubqueries_eq_map (l : List (Subquery QueryParams)) :
    encodeSubqueries l = l.map (Subquery.map toStructure) := by
  induction l with
  | nil => rfl
  | cons s rest ih => simp [encodeSubqueries, Subquery.map, ih]

theorem encodeCtes_eq_map (l : List (Cte QueryParams)) :
    encodeCtes l = l.map (Cte.map toStructure) := by
  induction l with
  | nil => rfl
  | cons c rest ih => simp [encodeCtes, Cte.map, ih]

theorem encodeRecursiveCtes_eq_map (l : List (RecursiveCte QueryParams)) :
    encodeRecursiveCtes l = l.map (RecursiveCte.map toStructure) := by
  induction l with
  | nil => rfl
  | cons c rest ih => simp [encodeRecursiveCtes, RecursiveCte.map, ih]

def decodeContext : String := "query params"

def slotOf {α : Type} (fields : Fields Json) (key : String) (read : Json → Decoded α) :
    Decoded (Option (List α)) :=
  optional fields key (listOf decodeContext read)

def ofFieldsWith (read : Json → Decoded QueryParams) (fields : Fields Json) :
    Decoded QueryParams := do
  let filter ← optional fields "filter" (valueMap decodeContext)
  let predicates ← slotOf fields "whereRaw" Predicate.ofStructure
  let ranges ← slotOf fields "whereBetween" RangeClause.ofStructure
  let oneOf ← slotOf fields "whereIn" SetClause.ofStructure
  let noneOf ← slotOf fields "whereNotIn" SetClause.ofStructure
  let nullness ← slotOf fields "whereNull" NullnessClause.ofStructure
  let subqueries ← slotOf fields "whereExists" (Subquery.ofStructureWith read)
  let groups ← slotOf fields "whereGroups" BooleanGroup.ofStructure
  let orderBy ← slotOf fields "orderBy" OrderSpec.ofStructure
  let groupBy ← optional fields "groupBy" (strings decodeContext)
  let having ← slotOf fields "having" HavingClause.ofStructure
  let aggregates ← slotOf fields "aggregates" AggregateSpec.ofStructure
  let windows ← slotOf fields "windows" WindowSpec.ofStructure
  let advancedWindows ← slotOf fields "advancedWindows" AdvancedWindowSpec.ofStructure
  let ctes ← slotOf fields "with" (Cte.ofStructureWith read)
  let recursiveCtes ← slotOf fields "withRecursive" (RecursiveCte.ofStructureWith read)
  let raw ← slotOf fields "raw" RawExpression.ofStructure
  let transform ← optional fields "transform" TransformSpec.ofStructure
  let select ← optional fields "select" (strings decodeContext)
  let limit ← optional fields "limit" (unsigned decodeContext)
  let offset ← optional fields "offset" (unsigned decodeContext)
  let explain ← optional fields "explain" ExplainOptions.ofStructure
  return {
    filter, predicates, ranges, oneOf, noneOf, nullness, subqueries, groups, orderBy, groupBy,
    having, aggregates, windows, advancedWindows, ctes, recursiveCtes, raw, transform, select,
    limit, offset, explain }

def layer (read : Json → Decoded QueryParams) (j : Json) : Decoded QueryParams := do
  let fields ← object decodeContext j
  ofFieldsWith read fields

theorem slotOf_congr {α : Type} {f g : Json → Decoded α} {fields : Fields Json} {key : String}
    (h : ∀ k, k.depth < (Json.object fields).depth → f k = g k) :
    slotOf fields key f = slotOf fields key g :=
  optional_congr fun _ hj => listOf_congr fun k hk =>
    h k (Nat.lt_trans hk (Json.depth_lt_of_get? hj))

theorem layer_local : Json.Local layer := by
  intro f g j h
  cases j with
  | object fields =>
      have hs : slotOf fields "whereExists" (Subquery.ofStructureWith f)
          = slotOf fields "whereExists" (Subquery.ofStructureWith g) :=
        slotOf_congr fun k hk =>
          Subquery.ofStructureWith_congr fun i hi => h i (Nat.lt_trans hi hk)
      have hc : slotOf fields "with" (Cte.ofStructureWith f)
          = slotOf fields "with" (Cte.ofStructureWith g) :=
        slotOf_congr fun k hk => Cte.ofStructureWith_congr fun i hi => h i (Nat.lt_trans hi hk)
      have hr : slotOf fields "withRecursive" (RecursiveCte.ofStructureWith f)
          = slotOf fields "withRecursive" (RecursiveCte.ofStructureWith g) :=
        slotOf_congr fun k hk =>
          RecursiveCte.ofStructureWith_congr fun i hi => h i (Nat.lt_trans hi hk)
      simp only [layer, object, Decoded.ok_bind, ofFieldsWith, hs, hc, hr]
  | _ => simp only [layer, object, Decoded.error_bind]

def ofStructure : Json → Decoded QueryParams :=
  Json.descend layer (.error (.wrongType decodeContext "a mapping" .null))

theorem ofStructure_eq (j : Json) : ofStructure j = layer ofStructure j :=
  Json.descend_eq layer_local _ j

instance : Structural QueryParams := ⟨toStructure, ofStructure⟩

def equal (p q : QueryParams) : Bool := p.toStructure.equal q.toStructure

def effectivePredicates (p : QueryParams) : List Predicate :=
  (p.filter.getD []).map (fun (field, value) => Predicate.eq field value) ++ p.predicates.getD []

end QueryParams

namespace Subquery

def ofStructure (j : Json) : Decoded (Subquery QueryParams) :=
  ofStructureWith QueryParams.ofStructure j

instance : Structural (Subquery QueryParams) :=
  ⟨fun s => (s.map QueryParams.toStructure).toStructure, ofStructure⟩

end Subquery

namespace Cte

def ofStructure (j : Json) : Decoded (Cte QueryParams) :=
  ofStructureWith QueryParams.ofStructure j

instance : Structural (Cte QueryParams) :=
  ⟨fun c => (c.map QueryParams.toStructure).toStructure, ofStructure⟩

end Cte

namespace RecursiveCte

def ofStructure (j : Json) : Decoded (RecursiveCte QueryParams) :=
  ofStructureWith QueryParams.ofStructure j

instance : Structural (RecursiveCte QueryParams) :=
  ⟨fun c => (c.map QueryParams.toStructure).toStructure, ofStructure⟩

end RecursiveCte

end RemoteQuery
