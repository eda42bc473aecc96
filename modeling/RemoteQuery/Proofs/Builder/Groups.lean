import RemoteQuery.Proofs.Builder.Drain
import RemoteQuery.Proofs.Builder.Slotwise

namespace RemoteQuery

namespace Call

def grouping : Combinator → List Call → Call
  | .any => .orWhere
  | .all => .andWhere

def equated : Call → List (String × Value)
  | .whereEq field value => [(field, value)]
  | .whereMap entries => entries
  | _ => []

def stated : Call → List Predicate
  | .whereOp field operator value => [comparison field operator value none]
  | .orWhereOp field operator value => [comparison field operator value (some .any)]
  | .wherePredicate p => [p]
  | _ => []

end Call

def gathered (scope : List Call) (groups : List BooleanGroup) : List Condition :=
  (equalitiesOf (scope.flatMap Call.equated)).map .predicate
    ++ (scope.flatMap Call.stated).map .predicate
    ++ groups.map fun g => .group g.combinator g.conditions

namespace Call

mutual
def opened : Call → List BooleanGroup
  | .orWhere scope => BooleanGroup.unlessEmpty .any (gathered scope (openedIn scope))
  | .andWhere scope => BooleanGroup.unlessEmpty .all (gathered scope (openedIn scope))
  | _ => []
def openedIn : List Call → List BooleanGroup
  | [] => []
  | c :: rest => opened c ++ openedIn rest
end

def conditionsOf (scope : List Call) : List Condition := gathered scope (openedIn scope)

mutual
/-- The calls of a scope that its group is made of, and so in the scopes within. -/
def kept : Call → List Call
  | .orWhere scope => [.orWhere (keptIn scope)]
  | .andWhere scope => [.andWhere (keptIn scope)]
  | c => if .filter ∈ c.slots ∨ .predicates ∈ c.slots then [c] else []
def keptIn : List Call → List Call
  | [] => []
  | c :: rest => kept c ++ keptIn rest
end

theorem opened_grouping (combinator : Combinator) (scope : List Call) :
    (grouping combinator scope).opened
      = BooleanGroup.unlessEmpty combinator (conditionsOf scope) := by
  cases combinator <;> simp only [grouping, opened, conditionsOf]

theorem kept_grouping (combinator : Combinator) (scope : List Call) :
    (grouping combinator scope).kept = [grouping combinator (keptIn scope)] := by
  cases combinator <;> simp only [grouping, kept]

@[elab_as_elim] theorem scope_induct {motive : Call → Prop}
    (grouping : ∀ combinator scope, (∀ c ∈ scope, motive c) → motive (.grouping combinator scope))
    (other : ∀ c : Call, .groups ∉ c.slots → motive c) (c : Call) : motive c := by
  cases c with
  | orWhere scope => exact grouping .any scope fun c hc => scope_induct grouping other c
  | andWhere scope => exact grouping .all scope fun c hc => scope_induct grouping other c
  | _ => exact other _ (by simp [slots])
termination_by sizeOf c
decreasing_by
  all_goals
    have := List.sizeOf_lt_of_mem hc
    simp only [Call.orWhere.sizeOf_spec, Call.andWhere.sizeOf_spec]
    omega

theorem openedIn_eq_flatMap (scope : List Call) : openedIn scope = scope.flatMap opened := by
  induction scope with
  | nil => rfl
  | cons c rest ih => rw [openedIn, ih, List.flatMap_cons]

theorem keptIn_eq_flatMap (scope : List Call) : keptIn scope = scope.flatMap kept := by
  induction scope with
  | nil => rfl
  | cons c rest ih => rw [keptIn, ih, List.flatMap_cons]

theorem opened_of_not_mem {c : Call} (h : .groups ∉ c.slots) : c.opened = [] := by
  cases c with
  | orWhere | andWhere => exact absurd List.mem_cons_self h
  | _ => rfl

theorem items_filter (t : String) (c : Call) : c.items t .filter = c.equated := by
  cases c with
  | whereEq field value => rfl
  | whereMap entries =>
      rw [items, writes, List.filterMap_map, equated]
      exact List.filterMap_some
  | _ => exact items_eq_nil (by simp [slots])

theorem flatMap_items_equated (t : String) (scope : List Call) :
    scope.flatMap (items t .filter) = scope.flatMap equated :=
  List.flatMap_congr fun c _ => items_filter t c

theorem items_predicates (t : String) (c : Call) : c.items t .predicates = c.stated := by
  cases c with
  | whereOp | orWhereOp | wherePredicate => rfl
  | _ => exact items_eq_nil (by simp [slots])

end Call

namespace Builder

theorem Keeps.run {b : Builder} {history : List (String × Value)} (h : b.Keeps history)
    (calls : List Call) : (b.run calls).Keeps (history ++ calls.flatMap Call.equated) := by
  have hitems : calls.flatMap (Call.items b.table .filter) = calls.flatMap Call.equated :=
    Call.flatMap_items_equated b.table calls
  constructor
  · have hcontent : (b.run calls).params.filter
        = (calls.flatMap (Call.items b.table .filter)).foldl (Shape.keyed Value).put
          b.params.filter := content_run b calls .filter
    rw [hcontent, hitems, h.filter, ← Shape.foldl_put, ← Shape.foldl_put, List.foldl_append]
  · rw [filterOrder_run, hitems, h.order, ← foldl_note, ← foldl_note, List.foldl_append]

theorem keeps_run_new (t : String) (scope : List Call) :
    ((new t).run scope).Keeps (scope.flatMap Call.equated) := (keeps_new t).run scope

theorem predicates_run_new (t : String) (scope : List Call) :
    ((new t).run scope).params.predicates.getD [] = scope.flatMap Call.stated := by
  have hcontent : ((new t).run scope).params.predicates
      = Slot.predicates.shape.collect (scope.flatMap (Call.items t .predicates)) :=
    content_run_new t scope .predicates
  rw [hcontent, Shape.getD_collect_listed]
  exact List.flatMap_congr fun c _ => Call.items_predicates t c

theorem groups_run_new (t : String) (scope : List Call) :
    ((new t).run scope).params.groups.getD [] = scope.flatMap (Call.items t .groups) := by
  have hcontent : ((new t).run scope).params.groups
      = Slot.groups.shape.collect (scope.flatMap (Call.items t .groups)) :=
    content_run_new t scope .groups
  rw [hcontent, Shape.getD_collect_listed]

theorem conditions_run_new (t : String) (scope : List Call) :
    ((new t).run scope).conditions = gathered scope (scope.flatMap (Call.items t .groups)) := by
  rw [(keeps_run_new t scope).conditions_eq, predicates_run_new, groups_run_new]
  rfl

end Builder

namespace Call

theorem items_grouping (t : String) (combinator : Combinator) (scope : List Call) :
    (grouping combinator scope).items t .groups
      = BooleanGroup.unlessEmpty combinator ((Builder.new t).run scope).conditions := by
  have hwrites : (grouping combinator scope).writes t = groupWrites t combinator scope := by
    cases combinator <;> rfl
  rw [items, hwrites, groupWrites, List.filterMap_map]
  exact List.filterMap_some

theorem items_groups (t : String) (c : Call) : c.items t .groups = c.opened := by
  induction c using scope_induct with
  | grouping combinator scope ih =>
      -- What the scope holds under its groups is, by induction, what its calls open.
      rw [items_grouping, opened_grouping, conditionsOf, openedIn_eq_flatMap,
        Builder.conditions_run_new, List.flatMap_congr ih]
  | other c h => rw [items_eq_nil h, opened_of_not_mem h]

theorem kept_of_not_mem {c : Call} (h : .groups ∉ c.slots) :
    c.kept = if .filter ∈ c.slots ∨ .predicates ∈ c.slots then [c] else [] := by
  cases c with
  | orWhere | andWhere => exact absurd List.mem_cons_self h
  | _ => rfl

theorem flatMap_keptIn {α : Type} {f : Call → List α} {scope : List Call}
    (hf : ∀ c ∈ scope, c.kept.flatMap f = f c) : (keptIn scope).flatMap f = scope.flatMap f := by
  rw [keptIn_eq_flatMap, List.flatMap_assoc]
  exact List.flatMap_congr hf

theorem gathered_keptIn (scope : List Call) (groups : List BooleanGroup) :
    gathered (keptIn scope) groups = gathered scope groups := by
  have hequated : ∀ c : Call, c.kept.flatMap equated = c.equated := by
    intro c
    cases c <;> simp [kept, slots, equated]
  have hstated : ∀ c : Call, c.kept.flatMap stated = c.stated := by
    intro c
    cases c <;> simp [kept, slots, stated]
  rw [gathered, flatMap_keptIn fun c _ => hequated c, flatMap_keptIn fun c _ => hstated c, gathered]

theorem openedIn_keptIn {scope : List Call} (h : ∀ c ∈ scope, c.kept.flatMap opened = c.opened) :
    openedIn (keptIn scope) = openedIn scope := by
  rw [openedIn_eq_flatMap, openedIn_eq_flatMap, flatMap_keptIn h]

theorem flatMap_kept_opened (c : Call) : c.kept.flatMap opened = c.opened := by
  induction c using scope_induct with
  | grouping combinator scope ih =>
      rw [kept_grouping, List.flatMap_singleton, opened_grouping, opened_grouping, conditionsOf,
        conditionsOf, openedIn_keptIn ih, gathered_keptIn]
  | other c h =>
      rw [kept_of_not_mem h]
      split
      · rw [List.flatMap_singleton]
      · rw [opened_of_not_mem h, List.flatMap_nil]

theorem conditionsOf_keptIn (scope : List Call) :
    conditionsOf (keptIn scope) = conditionsOf scope := by
  have hopened : openedIn (keptIn scope) = openedIn scope :=
    openedIn_keptIn fun c _ => flatMap_kept_opened c
  rw [conditionsOf, hopened, gathered_keptIn, conditionsOf]

end Call

namespace Builder

theorem conditions_run (b : Builder) (scope : List Call) :
    (b.scope.run scope).conditions = Call.conditionsOf scope := by
  rw [Builder.scope, conditions_run_new, Call.conditionsOf, Call.openedIn_eq_flatMap]
  congr 1
  exact List.flatMap_congr fun c _ => Call.items_groups b.table c

theorem call_grouping (b : Builder) (combinator : Combinator) (scope : List Call) :
    b.call (.grouping combinator scope)
      = if Call.conditionsOf scope = [] then b
        else b.addGroup ⟨combinator, Call.conditionsOf scope⟩ := by
  have hgroup : (b.scope.run scope).toGroup combinator = ⟨combinator, Call.conditionsOf scope⟩ := by
    rw [toGroup, conditions_run]
  have hcall : b.call (.grouping combinator scope)
      = b.whereGroup combinator fun q => q.run scope := by
    cases combinator <;> rfl
  rw [hcall, whereGroup, hgroup]
  simp only [BooleanGroup.isEmpty, List.isEmpty_iff]

theorem group_composition (b : Builder) (combinator : Combinator) (scope : List Call) :
    let entries := scope.flatMap Call.equated
    (equalitiesOf entries).map Predicate.field = (entries.map Prod.fst).eraseDups ∧
    (∀ p, p ∈ equalitiesOf entries ↔ ∃ field value,
      entries.reverse.lookup field = some value ∧ p = ⟨field, .equal, some value, none⟩) ∧
    (Call.conditionsOf scope = [] → b.call (.grouping combinator scope) = b) ∧
    (Call.conditionsOf scope ≠ [] →
      b.call (.grouping combinator scope) = { b with
        params := { b.params with
          groups := some (b.params.groups.getD [] ++ [⟨combinator, Call.conditionsOf scope⟩]) } }) ∧
    b.call (.grouping combinator (Call.keptIn scope)) = b.call (.grouping combinator scope) := by
  refine ⟨field_equalitiesOf _, fun _ => mem_equalitiesOf, fun h => ?_, fun h => ?_, ?_⟩
  · rw [call_grouping, if_pos h]
  · rw [call_grouping, if_neg h]
    rfl
  · rw [call_grouping, call_grouping, Call.conditionsOf_keptIn]

theorem group_composition_rewritten :
    let scope := [Call.whereEq "a" .null, .andWhere [.limit 3], .orWhereOp "n" .isNull (.bool true),
      .andWhere [.whereNull "m", .whereEq "c" .null], .whereMap [("b", .null), ("a", .bool true)]]
    let conditions : List Condition :=
      [.predicate ⟨"a", .equal, some (.bool true), none⟩, .predicate ⟨"b", .equal, some .null, none⟩,
        .predicate ⟨"n", .isNull, none, some .any⟩,
        .group .all [.predicate ⟨"c", .equal, some .null, none⟩]]
    ((new "users").call (.orWhere scope)).params.groups = some [⟨.any, conditions⟩] ∧
      (new "users").call (.andWhere [.limit 3]) = new "users" := by
  intro scope conditions
  have hconditions : Call.conditionsOf scope = conditions := rfl
  have hne : Call.conditionsOf scope ≠ [] := hconditions ▸ List.cons_ne_nil _ _
  obtain ⟨-, -, -, hcall, -⟩ := group_composition (new "users") .any scope
  obtain ⟨-, -, hempty, -, -⟩ := group_composition (new "users") .all [.limit 3]
  refine ⟨?_, hempty rfl⟩
  have hgroups := congrArg (fun b : Builder => b.params.groups) (hcall hne)
  rwa [hconditions] at hgroups

end Builder

end RemoteQuery
