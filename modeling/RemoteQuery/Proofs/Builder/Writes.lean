import Mathlib.Data.List.Induction
import Mathlib.Logic.Function.Basic
import RemoteQuery.Builder.Call
import RemoteQuery.Proofs.Fields
import RemoteQuery.Proofs.Query.Content
/-!
What builder calls write. A call writes items to slots, and a run of calls is the run of their
writes; so a slot holds what its own items make, and the table stays.
-/

namespace RemoteQuery

namespace Shape

def put : (k : Shape) → Option k.Content → k.Item → Option k.Content
  | .keyed _, content, entry => some (Fields.insert (content.getD []) entry.1 entry.2)
  | .listed _, content, item => Builder.push content item
  | .latest _, _, item => some item

def collect : (k : Shape) → List k.Item → Option k.Content
  | .keyed _, entries => if entries.isEmpty then none else some (Fields.ofPairs entries)
  | .listed _, items => if items.isEmpty then none else some items
  | .latest _, items => items.getLast?

theorem collect_concat (k : Shape) (items : List k.Item) (item : k.Item) :
    k.collect (items ++ [item]) = k.put (k.collect items) item := by
  cases k with
  | keyed α => cases items <;> simp [collect, put, Fields.ofPairs]
  | listed α => cases items <;> simp [collect, put, Builder.push]
  | latest α => simp [collect, put]

theorem foldl_put (k : Shape) (items : List k.Item) : items.foldl k.put none = k.collect items := by
  induction items using List.reverseRecOn with
  | nil => cases k <;> rfl
  | append_singleton items item ih =>
      rw [List.foldl_append, ih, collect_concat, List.foldl_cons, List.foldl_nil]

theorem collect_eq_none (k : Shape) (items : List k.Item) :
    k.collect items = none ↔ items = [] := by
  cases k <;> simp [collect]

theorem getD_collect_keyed {α : Type} (entries : List (String × α)) :
    ((Shape.keyed α).collect entries).getD [] = Fields.ofPairs entries := by
  cases entries <;> rfl

theorem getD_collect_listed {α : Type} (items : List α) :
    ((Shape.listed α).collect items).getD [] = items := by
  cases items <;> rfl

end Shape

structure Write where
  slot : Slot
  item : slot.shape.Item

namespace Write

def item? (s : Slot) (w : Write) : Option s.shape.Item :=
  if h : w.slot = s then some (h ▸ w.item) else none

@[simp] theorem item?_self (s : Slot) (item : s.shape.Item) : item? s ⟨s, item⟩ = some item :=
  dif_pos rfl

theorem item?_of_ne {s : Slot} {w : Write} (h : w.slot ≠ s) : w.item? s = none := dif_neg h

end Write

def QueryParams.write (p : QueryParams) (w : Write) : QueryParams :=
  ofContent (Function.update p.content w.slot (w.slot.shape.put (p.content w.slot) w.item))

theorem QueryParams.content_write (p : QueryParams) (w : Write) (s : Slot) :
    (p.write w).content s = (w.item? s).toList.foldl s.shape.put (p.content s) := by
  obtain ⟨slot, item⟩ := w
  rw [write, content_ofContent]
  by_cases h : slot = s
  · subst h
    rw [Function.update_self, Write.item?_self]
    rfl
  · rw [Function.update_of_ne (Ne.symm h), Write.item?_of_ne h]
    rfl

namespace Builder

def note (order : List String) (entry : String × Value) : List String :=
  if order.contains entry.1 then order else order ++ [entry.1]

def write (b : Builder) (w : Write) : Builder where
  table := b.table
  params := b.params.write w
  filterOrder := (w.item? .filter).toList.foldl note b.filterOrder

end Builder

def BooleanGroup.unlessEmpty (combinator : Combinator) : List Condition → List BooleanGroup
  | [] => []
  | c :: rest => [⟨combinator, c :: rest⟩]

namespace Call

def groupWrites (t : String) (combinator : Combinator) (scope : List Call) : List Write :=
  (BooleanGroup.unlessEmpty combinator ((Builder.new t).run scope).conditions).map
    fun group => ⟨.groups, group⟩

def comparison (field : String) (operator : Operator) (value : Value)
    (combinator : Option Combinator) : Predicate :=
  ⟨field, operator, if operator = .isNull ∨ operator = .isNotNull then none else some value,
    combinator⟩

def subqueryWrite (table : String) (on : Option JoinCondition) (negated : Bool)
    (scope : List Call) : Write :=
  ⟨.subqueries, { table, query := ((Builder.new table).run scope).params, on, negated }⟩

def cteWrite (name table : String) (calls : List Call) (columns : Option (List String)) : Write :=
  ⟨.ctes, { name, table := some table, query := ((Builder.new table).run calls).params, columns }⟩

def rankingWrite (function : WindowFunction) (label : String) (partitionBy : List String)
    (order : OrderSpec) : Write :=
  ⟨.windows, { function, «alias» := label, «over» := { partitionBy, orderBy := [order] } }⟩

def shiftWrite (function : WindowFunction) (field label : String) (distance : UInt64)
    (order : OrderSpec) : Write :=
  ⟨.windows,
    { function, field := some field, «alias» := label, «over» := { orderBy := [order] },
      args := [.num (.unsigned distance)] }⟩

def writes (t : String) : Call → List Write
  | .whereEq field value => [⟨.filter, (field, value)⟩]
  | .whereMap entries => entries.map fun entry => ⟨.filter, entry⟩
  | .whereOp field operator value => [⟨.predicates, comparison field operator value none⟩]
  | .orWhereOp field operator value =>
      [⟨.predicates, comparison field operator value (some .any)⟩]
  | .wherePredicate p => [⟨.predicates, p⟩]
  | .whereBetween field low high => [⟨.ranges, ⟨field, low, high⟩⟩]
  | .whereIn field values => [⟨.oneOf, ⟨field, values⟩⟩]
  | .whereNotIn field values => [⟨.noneOf, ⟨field, values⟩⟩]
  | .whereNull field => [⟨.nullness, ⟨field, true⟩⟩]
  | .whereNotNull field => [⟨.nullness, ⟨field, false⟩⟩]
  | .orWhere scope => groupWrites t .any scope
  | .andWhere scope => groupWrites t .all scope
  | .whereExists table scope => [subqueryWrite table none false scope]
  | .whereNotExists table scope => [subqueryWrite table none true scope]
  | .whereExistsJoin table left right scope =>
      [subqueryWrite table (some ⟨left, .equal, right⟩) false scope]
  | .whereNotExistsJoin table left right scope =>
      [subqueryWrite table (some ⟨left, .equal, right⟩) true scope]
  | .groupBy fields => [⟨.groupBy, fields⟩]
  | .select fields => [⟨.select, fields⟩]
  | .having field operator value => [⟨.having, ⟨field, operator, value⟩⟩]
  | .aggregate spec => [⟨.aggregates, spec⟩]
  | .aggregateOf function field label => [⟨.aggregates, ⟨function, field, label⟩⟩]
  | .orderBy field direction => [⟨.orderBy, ⟨field, direction, none⟩⟩]
  | .orderByNulls field direction nulls =>
      [⟨.orderBy, ⟨field, direction, some nulls⟩⟩]
  | .limit count => [⟨.limit, count⟩]
  | .offset count => [⟨.offset, count⟩]
  | .paginate page perPage =>
      [⟨.limit, perPage⟩,
        ⟨.offset, UInt64.ofNat (min ((page.toNat - 1) * perPage.toNat) (UInt64.size - 1))⟩]
  | .window spec => [⟨.windows, spec⟩]
  | .windowAdvanced spec => [⟨.advancedWindows, spec⟩]
  | .rowNumber label partitionBy order => [rankingWrite .rowNumber label partitionBy order]
  | .rank label partitionBy order => [rankingWrite .rank label partitionBy order]
  | .lag field label distance order => [shiftWrite .lag field label distance order]
  | .lead field label distance order => [shiftWrite .lead field label distance order]
  | .withQuery name table calls columns => [cteWrite name table calls columns]
  | .withCte name scope columns => [cteWrite name t scope columns]
  | .withRecursive name initialTable initial recursiveTable recursive unionAll columns =>
      [⟨.recursiveCtes,
        { name, initial := ((Builder.new initialTable).run initial).params,
          initialTable := some initialTable,
          recursive := ((Builder.new recursiveTable).run recursive).params,
          recursiveTable := some recursiveTable, unionAll, columns }⟩]
  | .transform spec => [⟨.transform, spec⟩]
  | .pivot column values measure =>
      [⟨.transform, { pivot := some ⟨column, values, measure⟩ }⟩]
  | .compute entries =>
      [⟨.transform,
        { compute := if entries.isEmpty then none else some (Fields.ofPairs entries) }⟩]
  | .raw expression => [⟨.raw, ⟨expression, []⟩⟩]
  | .rawWithBindings expression bindings => [⟨.raw, ⟨expression, bindings⟩⟩]
  | .explain options => [⟨.explain, options⟩]

theorem new_eq_comparison (field : String) (operator : Operator) (value : Value) :
    Predicate.new field operator value = comparison field operator value none := by
  cases operator <;> rfl

end Call

theorem TransformSpec.foldl_addComputed (entries : List (String × String)) :
    entries.foldl (fun spec entry => spec.addComputed entry.1 entry.2) ({} : TransformSpec)
      = { compute := if entries.isEmpty then none else some (Fields.ofPairs entries) } := by
  induction entries using List.reverseRecOn with
  | nil => rfl
  | append_singleton entries entry ih =>
      rw [List.foldl_append, ih, List.foldl_cons, List.foldl_nil, addComputed,
        Fields.ofPairs_append_singleton]
      cases entries <;> rfl

namespace Builder

theorem table_foldl_write (b : Builder) (ws : List Write) : (ws.foldl write b).table = b.table := by
  induction ws generalizing b with
  | nil => rfl
  | cons w rest ih => exact ih (b.write w)

theorem content_foldl_write (b : Builder) (ws : List Write) (s : Slot) :
    (ws.foldl write b).params.content s
      = (ws.filterMap (Write.item? s)).foldl s.shape.put (b.params.content s) := by
  induction ws generalizing b with
  | nil => rfl
  | cons w rest ih =>
      rw [List.foldl_cons, ih, write, QueryParams.content_write, ← List.foldl_append]
      cases h : w.item? s <;> simp [h]

theorem filterOrder_foldl_write (b : Builder) (ws : List Write) :
    (ws.foldl write b).filterOrder
      = (ws.filterMap (Write.item? .filter)).foldl note b.filterOrder := by
  induction ws generalizing b with
  | nil => rfl
  | cons w rest ih =>
      rw [List.foldl_cons, ih, write, ← List.foldl_append]
      cases h : w.item? .filter <;> simp [h]

theorem whereMap_eq (b : Builder) (entries : List (String × Value)) :
    b.whereMap entries = (entries.map fun entry => ⟨.filter, entry⟩).foldl write b := by
  have hwhereEq : ∀ (b : Builder) (entry : String × Value),
      b.whereEq entry.1 entry.2 = b.write ⟨.filter, entry⟩ := by
    intro b entry
    obtain ⟨t, p, order⟩ := b
    cases p
    rfl
  rw [whereMap, List.foldl_map]
  simp only [hwhereEq]

theorem addGroup_eq (b : Builder) (group : BooleanGroup) :
    b.addGroup group = b.write ⟨.groups, group⟩ := by
  obtain ⟨t, p, order⟩ := b
  cases p
  rfl

theorem addPredicate_eq (b : Builder) (p : Predicate) :
    b.addPredicate p = b.write ⟨.predicates, p⟩ := by
  obtain ⟨t, q, order⟩ := b
  cases q
  rfl

theorem transform_eq (b : Builder) (spec : TransformSpec) :
    b.transform spec = b.write ⟨.transform, spec⟩ := by
  obtain ⟨t, p, order⟩ := b
  cases p
  rfl

theorem whereGroup_eq (b : Builder) (combinator : Combinator) (scope : List Call) :
    b.whereGroup combinator (fun q => q.run scope)
      = (Call.groupWrites b.table combinator scope).foldl write b := by
  rw [whereGroup, Call.groupWrites, Builder.scope, toGroup]
  cases ((new b.table).run scope).conditions with
  | nil => rfl
  | cons c rest => exact addGroup_eq b ⟨combinator, c :: rest⟩

theorem table_call (b : Builder) (c : Call) : (b.call c).table = b.table := by
  cases c with
  | whereMap entries => rw [call, whereMap_eq, table_foldl_write]
  | orWhere scope => rw [call, orWhere, whereGroup_eq, table_foldl_write]
  | andWhere scope => rw [call, andWhere, whereGroup_eq, table_foldl_write]
  | _ => rfl

theorem table_run (b : Builder) (calls : List Call) : (b.run calls).table = b.table := by
  induction calls generalizing b with
  | nil => rfl
  | cons c rest ih => rw [run, ih, table_call]

theorem withQuery_eq (b : Builder) (name : String) (source : Builder)
    (columns : Option (List String)) :
    b.withQuery name source columns
      = b.write ⟨.ctes, { name, table := some source.table, query := source.params, columns }⟩ := by
  obtain ⟨t, p, order⟩ := b
  cases p
  rfl

theorem withRecursive_eq (b : Builder) (name : String) (initial recursive : Builder)
    (unionAll : Bool) (columns : Option (List String)) :
    b.withRecursive name initial recursive unionAll columns
      = b.write ⟨.recursiveCtes,
        { name, initial := initial.params, initialTable := some initial.table,
          recursive := recursive.params, recursiveTable := some recursive.table, unionAll,
          columns }⟩ := by
  obtain ⟨t, p, order⟩ := b
  cases p
  rfl

theorem call_eq (b : Builder) (c : Call) : b.call c = (c.writes b.table).foldl write b := by
  cases c with
  | whereMap entries => rw [call, whereMap_eq, Call.writes]
  | whereOp field operator value =>
      rw [call, whereOp, addPredicate_eq, Call.new_eq_comparison]
      rfl
  | orWhereOp field operator value =>
      rw [call, orWhereOp, addPredicate_eq, Call.new_eq_comparison]
      rfl
  | compute entries =>
      rw [call, compute, TransformSpec.foldl_addComputed, transform_eq]
      rfl
  | orWhere scope => rw [call, orWhere, whereGroup_eq, Call.writes]
  | andWhere scope => rw [call, andWhere, whereGroup_eq, Call.writes]
  | withQuery name table calls columns =>
      rw [call, withQuery_eq, table_run]
      rfl
  | withCte name scope columns =>
      rw [call, withCte, withQuery_eq, table_run]
      rfl
  | withRecursive name initialTable initial recursiveTable recursive unionAll columns =>
      rw [call, withRecursive_eq, table_run, table_run]
      rfl
  -- With the slots of the parameters given, both sides compute to the same builder.
  | _ =>
      obtain ⟨t, p, order⟩ := b
      cases p
      rfl

theorem run_eq (b : Builder) (calls : List Call) :
    b.run calls = (calls.flatMap (Call.writes b.table)).foldl write b := by
  induction calls generalizing b with
  | nil => rfl
  | cons c rest ih =>
      rw [run, ih, table_call, call_eq, List.flatMap_cons, List.foldl_append]

end Builder

end RemoteQuery
