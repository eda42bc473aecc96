import Mathlib.Data.List.Nodup
import RemoteQuery.Proofs.Builder.Reachable

namespace RemoteQuery

def Condition.predicate? : Condition → Option Predicate
  | .predicate p => some p
  | .group .. => none

theorem filterMap_predicate? (predicates : List Predicate) (groups : List BooleanGroup) :
    (predicates.map Condition.predicate ++ groups.map BooleanGroup.toCondition).filterMap
      Condition.predicate? = predicates := by
  have hgroup : ∀ c ∈ groups.map BooleanGroup.toCondition, c.predicate? = none := by
    intro c hc
    obtain ⟨g, -, rfl⟩ := List.mem_map.1 hc
    rfl
  rw [List.filterMap_append, List.filterMap_eq_nil_iff.2 hgroup, List.append_nil, List.filterMap_map]
  exact List.filterMap_some

variable {entries : List (String × Value)} {p : Predicate}

theorem nodup_equalitiesOf (entries : List (String × Value)) : (equalitiesOf entries).Nodup := by
  apply List.Nodup.of_map Predicate.field
  rw [field_equalitiesOf]
  exact Builder.nodup_fields entries

def Fields.equalities (fields : Fields Value) : List Predicate :=
  fields.map fun (field, value) => ⟨field, .equal, some value, none⟩

theorem Fields.pairwise_equalities {fields : Fields Value} (h : fields.Sorted) :
    fields.equalities.Pairwise fun p q => p.field < q.field := List.pairwise_map.2 h

theorem mem_equalities_ofPairs : p ∈ (Fields.ofPairs entries).equalities ↔
    ∃ field value, entries.reverse.lookup field = some value ∧
      p = ⟨field, .equal, some value, none⟩ := by
  have hsorted := Fields.sorted_ofPairs entries
  rw [Fields.equalities, List.mem_map]
  constructor
  · rintro ⟨⟨field, value⟩, hentry, rfl⟩
    rw [Fields.mem_iff_get?_of_sorted hsorted, Fields.get?_ofPairs] at hentry
    exact ⟨field, value, hentry, rfl⟩
  · rintro ⟨field, value, hvalue, rfl⟩
    rw [← Fields.get?_ofPairs, ← Fields.mem_iff_get?_of_sorted hsorted] at hvalue
    exact ⟨(field, value), hvalue, rfl⟩

theorem equalities_perm (entries : List (String × Value)) :
    (Fields.ofPairs entries).equalities.Perm (equalitiesOf entries) := by
  have hsorted := Fields.pairwise_equalities (Fields.sorted_ofPairs entries)
  have hnodup : (Fields.ofPairs entries).equalities.Nodup := by
    refine hsorted.imp fun {p q} hlt heq => ?_
    rw [heq] at hlt
    exact String.lt_irrefl _ hlt
  refine (List.perm_ext_iff_of_nodup hnodup (nodup_equalitiesOf entries)).2 fun p => ?_
  rw [mem_equalities_ofPairs, mem_equalitiesOf]

namespace Builder

theorem Keeps.effectivePredicates_eq {b : Builder} {history : List (String × Value)}
    (h : b.Keeps history) : b.params.effectivePredicates
      = (Fields.ofPairs history).equalities ++ b.params.predicates.getD [] := by
  rw [QueryParams.effectivePredicates, h.getD_filter]
  rfl

theorem toGroup_holds_effectivePredicates {b : Builder} {history : List (String × Value)}
    (h : b.Reachable history) (combinator : Combinator) :
    let inserted := equalitiesOf history
    let explicit := b.params.predicates.getD []
    let group := b.toGroup combinator
    group.combinator = combinator ∧
    group.conditions = inserted.map .predicate ++ explicit.map .predicate
      ++ (b.params.groups.getD []).map (fun g => .group g.combinator g.conditions) ∧
    (∃ keyed, b.params.effectivePredicates = keyed ++ explicit ∧ keyed.Perm inserted ∧
      keyed.Pairwise fun p q => p.field < q.field) ∧
    inserted.map Predicate.field = (history.map Prod.fst).eraseDups ∧
    (∀ p, p ∈ inserted ↔
      ∃ field value, history.reverse.lookup field = some value ∧
        p = ⟨field, .equal, some value, none⟩) ∧
    (group.conditions.filterMap Condition.predicate?).Perm b.params.effectivePredicates := by
  intro inserted explicit group
  have hkeeps := h.keeps
  have hconditions : group.conditions = inserted.map .predicate ++ explicit.map .predicate
      ++ (b.params.groups.getD []).map BooleanGroup.toCondition := hkeeps.conditions_eq
  have hperm : (Fields.ofPairs history).equalities.Perm inserted := equalities_perm history
  refine ⟨rfl, hconditions, ⟨_, hkeeps.effectivePredicates_eq, hperm, ?_⟩, field_equalitiesOf history,
    fun _ => mem_equalitiesOf, ?_⟩
  · exact Fields.pairwise_equalities (Fields.sorted_ofPairs history)
  · rw [hconditions, ← List.map_append, filterMap_predicate?, hkeeps.effectivePredicates_eq]
    exact (hperm.append_right explicit).symm

theorem toGroup_holds_effectivePredicates_rewritten :
    let calls := [Call.whereEq "b" .null, .whereOp "n" .isNull (.bool true), .whereEq "a" .null,
      .andWhere [.whereEq "c" .null], .whereMap [("b", .bool true)]]
    let b := (new "users").run calls
    let a : Predicate := ⟨"a", .equal, some .null, none⟩
    let last : Predicate := ⟨"b", .equal, some (.bool true), none⟩
    let n : Predicate := ⟨"n", .isNull, none, none⟩
    b.Reachable [("b", .null), ("a", .null), ("b", .bool true)] ∧
      (b.toGroup .any).conditions = [.predicate last, .predicate a, .predicate n,
        .group .all [.predicate ⟨"c", .equal, some .null, none⟩]] ∧
      b.params.effectivePredicates = [a, last, n] ∧
      ((b.toGroup .any).conditions.filterMap Condition.predicate?).Perm
        b.params.effectivePredicates := by
  intro calls b a last n
  have hreachable : b.Reachable [("b", .null), ("a", .null), ("b", .bool true)] :=
    reachable_run_new "users" calls
  obtain ⟨-, hconditions, -, -, -, hperm⟩ := toGroup_holds_effectivePredicates hreachable .any
  exact ⟨hreachable, hconditions, rfl, hperm⟩

end Builder

end RemoteQuery
