import RemoteQuery.Clause.Aggregate
import RemoteQuery.Clause.Embedded
import RemoteQuery.Clause.Explain
import RemoteQuery.Clause.Raw
import RemoteQuery.Clause.Window
import RemoteQuery.Proofs.Clause.Complete
import RemoteQuery.Proofs.Fields
import RemoteQuery.Proofs.Wire.Ordered

namespace RemoteQuery

open Json

def Value.Ordered (v : Value) : Prop := v.toJson.Ordered

theorem Value.ordered_values {vs : List Value} (h : ∀ v ∈ vs, v.Ordered) :
    (Json.values vs).Ordered := by
  apply ordered_list.2
  intro j hj
  obtain ⟨v, hv, rfl⟩ := List.mem_map.1 hj
  exact h v hv

namespace Predicate

def Ordered (p : Predicate) : Prop := ∀ v, p.value = some v → v.Ordered

theorem ordered_toStructure {p : Predicate} (h : p.Ordered) : p.toStructure.Ordered := by
  have hvalue : ∀ v, p.value = some v → v.toJson.Ordered := h
  apply ordered_record ["combinator", "field", "operator", "value"] (by decide) rfl
  simpa using hvalue

end Predicate

namespace RangeClause

def Ordered (r : RangeClause) : Prop := r.low.Ordered ∧ r.high.Ordered

theorem ordered_toStructure {r : RangeClause} (h : r.Ordered) : r.toStructure.Ordered := by
  have hvalues : (Json.values [r.low, r.high]).Ordered := by
    apply Value.ordered_values
    intro v hv
    simp only [List.mem_cons, List.not_mem_nil, or_false] at hv
    rcases hv with rfl | rfl
    · exact h.1
    · exact h.2
  apply ordered_record ["field", "value"] (by decide) rfl
  simpa using hvalues

end RangeClause

namespace SetClause

def Ordered (s : SetClause) : Prop := ∀ v ∈ s.values, v.Ordered

theorem ordered_toStructure {s : SetClause} (h : s.Ordered) : s.toStructure.Ordered := by
  apply ordered_record ["field", "value"] (by decide) rfl
  simpa using Value.ordered_values h

end SetClause

theorem NullnessClause.ordered_toStructure (n : NullnessClause) : n.toStructure.Ordered := by
  apply ordered_record ["field", "isNull"] (by decide) rfl
  simp

namespace HavingClause

def Ordered (h : HavingClause) : Prop := h.value.Ordered

theorem ordered_toStructure {c : HavingClause} (h : c.Ordered) : c.toStructure.Ordered := by
  have hvalue : c.value.toJson.Ordered := h
  apply ordered_record ["field", "operator", "value"] (by decide) rfl
  simpa using hvalue

end HavingClause

@[simp] theorem OrderSpec.ordered_toStructure (o : OrderSpec) : o.toStructure.Ordered := by
  apply ordered_record ["direction", "field", "nulls"] (by decide) rfl
  simp

@[simp] theorem AggregateSpec.ordered_toStructure (a : AggregateSpec) : a.toStructure.Ordered := by
  apply ordered_record ["alias", "field", "type"] (by decide) rfl
  simp

namespace PivotSpec

def Ordered (p : PivotSpec) : Prop := ∀ v ∈ p.values, v.Ordered

theorem ordered_toStructure {p : PivotSpec} (h : p.Ordered) : p.toStructure.Ordered := by
  apply ordered_record ["aggregate", "column", "values"] (by decide) rfl
  simpa using Value.ordered_values h

end PivotSpec

namespace TransformSpec

structure Ordered (t : TransformSpec) : Prop where
  pivot : ∀ p, t.pivot = some p → p.Ordered
  compute : ∀ c, t.compute = some c → Fields.Sorted c

theorem ordered_computedToJson {compute : Fields String} (h : compute.Sorted) :
    (computedToJson compute).Ordered := by
  refine ordered_object.2 ⟨(Fields.sorted_map Json.str).2 h, ?_⟩
  intro entry hentry
  obtain ⟨e, _, rfl⟩ := List.mem_map.1 hentry
  exact ordered_str e.2

theorem ordered_toStructure {t : TransformSpec} (h : t.Ordered) : t.toStructure.Ordered := by
  have hpivot : ∀ p, t.pivot = some p → p.toStructure.Ordered := fun p hp =>
    PivotSpec.ordered_toStructure (h.pivot p hp)
  have hcompute : ∀ c, t.compute = some c → (computedToJson c).Ordered := fun c hc =>
    ordered_computedToJson (h.compute c hc)
  apply ordered_record ["compute", "flatten", "groupBy", "pivot", "select"] (by decide) rfl
  simpa using ⟨hcompute, hpivot⟩

end TransformSpec

theorem ExplainOptions.ordered_toStructure (e : ExplainOptions) : e.toStructure.Ordered := by
  apply ordered_record ["analyze", "buffers", "costs", "format", "verbose"] (by decide) rfl
  simp

namespace RawExpression

def Ordered (r : RawExpression) : Prop := ∀ v ∈ r.bindings, v.Ordered

theorem ordered_toStructure {r : RawExpression} (h : r.Ordered) : r.toStructure.Ordered := by
  have hbindings := orderedOption_unlessEmpty (Value.ordered_values h)
  apply ordered_record ["bindings", "expression"] (by decide) rfl
  simpa using hbindings

end RawExpression

@[simp] theorem JoinCondition.ordered_toStructure (c : JoinCondition) : c.toStructure.Ordered := by
  apply ordered_record ["leftField", "operator", "rightField"] (by decide) rfl
  simp

theorem Subquery.ordered_toStructure {s : Subquery Json} (h : s.query.Ordered) :
    s.toStructure.Ordered := by
  have hnegated : OrderedOption (if s.negated then some (.bool true) else none) := by
    split
    · exact orderedOption_some.2 (ordered_bool true)
    · exact orderedOption_none
  apply ordered_record ["negated", "on", "query", "table"] (by decide) rfl
  simpa using ⟨hnegated, h⟩

theorem Cte.ordered_toStructure {c : Cte Json} (h : c.query.Ordered) : c.toStructure.Ordered := by
  apply ordered_record ["columns", "name", "query", "table"] (by decide) rfl
  simpa using h

theorem RecursiveCte.ordered_toStructure {c : RecursiveCte Json} (hinitial : c.initial.Ordered)
    (hrecursive : c.recursive.Ordered) : c.toStructure.Ordered := by
  apply ordered_record ["columns", "initial", "initialTable", "name", "recursive",
    "recursiveTable", "unionAll"] (by decide) rfl
  simpa using ⟨hinitial, hrecursive⟩

@[simp] theorem FrameSpec.ordered_toStructure (f : FrameSpec) : f.toStructure.Ordered := by
  apply ordered_record ["end", "mode", "start"] (by decide) rfl
  simp [FrameBound.toStructure]

namespace OverClause

@[simp] theorem orderedOption_partitionStructure (o : OverClause) :
    OrderedOption o.partitionStructure := orderedOption_unlessEmpty (ordered_strings _)

@[simp] theorem orderedOption_orderStructure (o : OverClause) : OrderedOption o.orderStructure :=
  orderedOption_unlessEmpty (ordered_listOf.2 fun c _ => c.ordered_toStructure)

@[simp] theorem orderedOption_frameStructure (o : OverClause) : OrderedOption o.frameStructure :=
  orderedOption_map.2 fun f _ => f.ordered_toStructure

@[simp] theorem ordered_toStructure (o : OverClause) : o.toStructure.Ordered := by
  apply ordered_record ["frame", "orderBy", "partitionBy"] (by decide) rfl
  simp

end OverClause

namespace WindowSpec

def Ordered (w : WindowSpec) : Prop := ∀ v ∈ w.args, v.Ordered

theorem ordered_toStructure {w : WindowSpec} (h : w.Ordered) : w.toStructure.Ordered := by
  have hargs := orderedOption_unlessEmpty (Value.ordered_values h)
  apply ordered_record ["alias", "args", "field", "frame", "orderBy", "partitionBy",
    "type"] (by decide) rfl
  simpa using hargs

end WindowSpec

namespace AdvancedWindowSpec

structure Ordered (a : AdvancedWindowSpec) : Prop where
  window : a.window.Ordered
  filters : ∀ p ∈ a.filters, p.Ordered

theorem ordered_toStructure {a : AdvancedWindowSpec} (h : a.Ordered) : a.toStructure.Ordered := by
  have hargs := orderedOption_unlessEmpty (Value.ordered_values h.window)
  have hfilters : OrderedOption (Json.unlessEmpty (.listOf Predicate.toStructure) a.filters) :=
    orderedOption_unlessEmpty
      (ordered_listOf.2 fun p hp => Predicate.ordered_toStructure (h.filters p hp))
  apply ordered_record ["alias", "args", "field", "filter", "over", "type"] (by decide) rfl
  simpa using ⟨hargs, hfilters⟩

end AdvancedWindowSpec

namespace Condition

def Ordered (c : Condition) : Prop := ∀ p, c.HasPredicate p → p.Ordered

theorem ordered_toStructure {c : Condition} : c.Ordered → c.toStructure.Ordered := by
  induction c using induct with
  | predicate p =>
      intro h
      rw [toStructure]
      exact Predicate.ordered_toStructure (h p .here)
  | group combinator conditions ih =>
      intro h
      have hconditions : (Json.list (conditions.map toStructure)).Ordered :=
        ordered_listOf.2 fun c hc => ih c hc fun p hp => h p (.within hc hp)
      rw [toStructure, toStructures_eq_map]
      apply ordered_record ["conditions", "type"] (by decide) rfl
      simpa using hconditions

end Condition

namespace BooleanGroup

def Ordered (g : BooleanGroup) : Prop := g.toCondition.Ordered

theorem ordered_toStructure {g : BooleanGroup} (h : g.Ordered) : g.toStructure.Ordered :=
  Condition.ordered_toStructure h

end BooleanGroup

end RemoteQuery
