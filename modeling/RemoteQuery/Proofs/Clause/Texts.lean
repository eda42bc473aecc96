import RemoteQuery.Clause.Aggregate
import RemoteQuery.Clause.Embedded
import RemoteQuery.Clause.Explain
import RemoteQuery.Clause.Raw
import RemoteQuery.Clause.Window
import RemoteQuery.Proofs.Clause.Complete
import RemoteQuery.Proofs.Clause.Vocabulary

namespace RemoteQuery

open Format Json

variable {P : String → Prop}

namespace Value

mutual
def texts : Value → List String
  | .str s => [s]
  | .list items => itemTexts items
  | .map entries => entryTexts entries
  | _ => []
def itemTexts : List Value → List String
  | [] => []
  | v :: rest => v.texts ++ itemTexts rest
def entryTexts : List (String × Value) → List String
  | [] => []
  | (key, v) :: rest => key :: v.texts ++ entryTexts rest
end

mutual
@[simp] theorem saysOnly_toJson : ∀ v : Value, v.toJson.SaysOnly P ↔ AllTexts P v.texts
  | .null => by simp [toJson, texts]
  | .bool b => by simp [toJson, texts]
  | .num n => by simp [toJson, texts]
  | .str s => by simp [toJson, texts]
  | .list items => by rw [toJson, texts, saysOnly_items items]
  | .map entries => by rw [toJson, texts, saysOnly_entries entries]
theorem saysOnly_items : ∀ items : List Value,
    (Json.list (toJsonItems items)).SaysOnly P ↔ AllTexts P (itemTexts items)
  | [] => by simp [toJsonItems, itemTexts, saysOnly_list]
  | v :: rest => by
      have hrest := saysOnly_items rest
      rw [saysOnly_list] at hrest ⊢
      rw [toJsonItems, List.forall_mem_cons, saysOnly_toJson v, hrest, itemTexts, allTexts_append]
theorem saysOnly_entries : ∀ entries : List (String × Value),
    (object (toJsonEntries entries)).SaysOnly P ↔ AllTexts P (entryTexts entries)
  | [] => by simp [toJsonEntries, entryTexts, saysOnly_object]
  | (key, v) :: rest => by
      have hrest := saysOnly_entries rest
      rw [saysOnly_object] at hrest ⊢
      rw [toJsonEntries, List.forall_mem_cons, saysOnly_toJson v, hrest, entryTexts,
        List.cons_append, allTexts_cons, allTexts_append, and_assoc]
end

@[simp] theorem saysOnly_values {vs : List Value} :
    (Json.values vs).SaysOnly P ↔ ∀ v ∈ vs, AllTexts P v.texts := by
  rw [Json.values, saysOnly_list, List.forall_mem_map]
  simp only [saysOnly_toJson]

end Value

namespace Json

variable (hP : ∀ t, IsText t → P t)

include hP

theorem saysOnly_token {α : Type} [Token α] [Vocabulary α] (a : α) :
    (Token.toStructure a).SaysOnly P := saysOnly_str.2 (hP _ (isText_token a))

theorem saysOnly_record (keys : List String) (hkeys : keys ⊆ recordKeys)
    {entries : List (String × Option Json)} (hentries : entries.map Prod.fst = keys) :
    (record entries).SaysOnly P ↔ ∀ entry ∈ entries, SaysOnlyOption P entry.2 := by
  apply saysOnly_object_members
  intro entry hentry
  have hkey : entry.1 ∈ keys := hentries ▸ List.mem_map_of_mem hentry
  exact hP _ (isText_recordKey (hkeys hkey))

end Json

def Predicate.texts (p : Predicate) : List String := p.field :: p.value.toList.flatMap Value.texts

def RangeClause.texts (r : RangeClause) : List String := r.field :: r.low.texts ++ r.high.texts

def SetClause.texts (s : SetClause) : List String := s.field :: s.values.flatMap Value.texts

def NullnessClause.texts (n : NullnessClause) : List String := [n.field]

def HavingClause.texts (h : HavingClause) : List String := h.field :: h.value.texts

def OrderSpec.texts (o : OrderSpec) : List String := [o.field]

def AggregateSpec.texts (a : AggregateSpec) : List String := a.alias.toList ++ [a.field]

def PivotSpec.texts (p : PivotSpec) : List String :=
  p.aggregate.texts ++ p.column :: p.values.flatMap Value.texts

def TransformSpec.computedTexts (compute : Fields String) : List String :=
  compute.flatMap fun (name, expression) => [name, expression]

def TransformSpec.texts (t : TransformSpec) : List String :=
  t.compute.toList.flatMap computedTexts ++ t.groupBy.toList.flatten
    ++ t.pivot.toList.flatMap PivotSpec.texts ++ t.select.toList.flatten

def RawExpression.texts (r : RawExpression) : List String :=
  r.bindings.flatMap Value.texts ++ [r.expression]

def JoinCondition.texts (c : JoinCondition) : List String := [c.left, c.right]

section Embedding

variable {Q : Type}

def Subquery.texts (s : Subquery Q) : List String :=
  s.on.toList.flatMap JoinCondition.texts ++ [s.table]

def Cte.texts (c : Cte Q) : List String :=
  c.columns.toList.flatten ++ c.name :: c.table.toList

def RecursiveCte.texts (c : RecursiveCte Q) : List String :=
  c.columns.toList.flatten ++ c.initialTable.toList ++ c.name :: c.recursiveTable.toList

end Embedding

def OverClause.texts (o : OverClause) : List String :=
  o.orderBy.flatMap OrderSpec.texts ++ o.partitionBy

def WindowSpec.texts (w : WindowSpec) : List String :=
  w.alias :: w.args.flatMap Value.texts ++ w.field.toList ++ w.over.texts

def AdvancedWindowSpec.texts (a : AdvancedWindowSpec) : List String :=
  a.window.texts ++ a.filters.flatMap Predicate.texts

namespace Condition

mutual
def texts : Condition → List String
  | .predicate p => p.texts
  | .group _ conditions => textsIn conditions
def textsIn : List Condition → List String
  | [] => []
  | c :: rest => c.texts ++ textsIn rest
end

theorem textsIn_eq_flatMap (cs : List Condition) : textsIn cs = cs.flatMap texts := by
  induction cs with
  | nil => rfl
  | cons c rest ih => simp [textsIn, ih]

end Condition

def BooleanGroup.texts (g : BooleanGroup) : List String := g.toCondition.texts

variable (hP : ∀ t, IsText t → P t)

include hP

theorem Predicate.saysOnly_iff {p : Predicate} :
    p.toStructure.SaysOnly P ↔ AllTexts P p.texts := by
  rw [toStructure, saysOnly_record hP ["combinator", "field", "operator", "value"] (by decide) rfl]
  simp [texts, saysOnly_token hP]

theorem RangeClause.saysOnly_iff {r : RangeClause} :
    r.toStructure.SaysOnly P ↔ AllTexts P r.texts := by
  rw [toStructure, saysOnly_record hP ["field", "value"] (by decide) rfl]
  simp [texts]

theorem SetClause.saysOnly_iff {s : SetClause} :
    s.toStructure.SaysOnly P ↔ AllTexts P s.texts := by
  rw [toStructure, saysOnly_record hP ["field", "value"] (by decide) rfl]
  simp [texts]

theorem NullnessClause.saysOnly_iff {n : NullnessClause} :
    n.toStructure.SaysOnly P ↔ AllTexts P n.texts := by
  rw [toStructure, saysOnly_record hP ["field", "isNull"] (by decide) rfl]
  simp [texts]

theorem HavingClause.saysOnly_iff {h : HavingClause} :
    h.toStructure.SaysOnly P ↔ AllTexts P h.texts := by
  rw [toStructure, saysOnly_record hP ["field", "operator", "value"] (by decide) rfl]
  simp [texts, saysOnly_token hP]

theorem OrderSpec.saysOnly_iff {o : OrderSpec} :
    o.toStructure.SaysOnly P ↔ AllTexts P o.texts := by
  rw [toStructure, saysOnly_record hP ["direction", "field", "nulls"] (by decide) rfl]
  simp [texts, saysOnly_token hP]

theorem AggregateSpec.saysOnly_iff {a : AggregateSpec} :
    a.toStructure.SaysOnly P ↔ AllTexts P a.texts := by
  rw [toStructure, saysOnly_record hP ["alias", "field", "type"] (by decide) rfl]
  simp [texts, saysOnly_token hP]

theorem PivotSpec.saysOnly_iff {p : PivotSpec} :
    p.toStructure.SaysOnly P ↔ AllTexts P p.texts := by
  rw [toStructure, saysOnly_record hP ["aggregate", "column", "values"] (by decide) rfl]
  simp [texts, AggregateSpec.saysOnly_iff hP]

omit hP in
theorem TransformSpec.saysOnly_computedToJson {compute : Fields String} :
    (computedToJson compute).SaysOnly P ↔ AllTexts P (computedTexts compute) := by
  rw [computedToJson, saysOnly_object, List.forall_mem_map]
  simp [computedTexts]

theorem TransformSpec.saysOnly_iff {t : TransformSpec} :
    t.toStructure.SaysOnly P ↔ AllTexts P t.texts := by
  rw [toStructure, saysOnly_record hP ["compute", "flatten", "groupBy", "pivot", "select"]
    (by decide) rfl]
  simp [texts, saysOnly_computedToJson, PivotSpec.saysOnly_iff hP]

theorem ExplainOptions.saysOnly {e : ExplainOptions} : e.toStructure.SaysOnly P := by
  rw [toStructure, saysOnly_record hP ["analyze", "buffers", "costs", "format", "verbose"]
    (by decide) rfl]
  simp [saysOnly_token hP]

theorem RawExpression.saysOnly_iff {r : RawExpression} :
    r.toStructure.SaysOnly P ↔ AllTexts P r.texts := by
  rw [toStructure, saysOnly_record hP ["bindings", "expression"] (by decide) rfl]
  simp [texts]

theorem JoinCondition.saysOnly_iff {c : JoinCondition} :
    c.toStructure.SaysOnly P ↔ AllTexts P c.texts := by
  rw [toStructure, saysOnly_record hP ["leftField", "operator", "rightField"] (by decide) rfl]
  simp [texts, saysOnly_token hP]

theorem Subquery.saysOnly_iff {s : Subquery Json} :
    s.toStructure.SaysOnly P ↔ AllTexts P s.texts ∧ s.query.SaysOnly P := by
  rw [toStructure, saysOnly_record hP ["negated", "on", "query", "table"] (by decide) rfl]
  have hnegated : SaysOnlyOption P (if s.negated then some (.bool true) else none) := by
    split <;> simp
  simp [texts, hnegated, JoinCondition.saysOnly_iff hP, and_assoc, and_left_comm, and_comm]

theorem Cte.saysOnly_iff {c : Cte Json} :
    c.toStructure.SaysOnly P ↔ AllTexts P c.texts ∧ c.query.SaysOnly P := by
  rw [toStructure, saysOnly_record hP ["columns", "name", "query", "table"] (by decide) rfl]
  simp [texts, and_assoc, and_left_comm, and_comm]

theorem RecursiveCte.saysOnly_iff {c : RecursiveCte Json} :
    c.toStructure.SaysOnly P ↔
      AllTexts P c.texts ∧ c.initial.SaysOnly P ∧ c.recursive.SaysOnly P := by
  rw [toStructure, saysOnly_record hP ["columns", "initial", "initialTable", "name", "recursive",
    "recursiveTable", "unionAll"] (by decide) rfl]
  simp [texts, and_assoc, and_left_comm, and_comm]

theorem FrameSpec.saysOnly {f : FrameSpec} : f.toStructure.SaysOnly P := by
  have hbound : ∀ b : FrameBound, P b.text := fun b => hP _ (.inr ⟨b, rfl⟩)
  rw [toStructure, saysOnly_record hP ["end", "mode", "start"] (by decide) rfl]
  simp [FrameBound.toStructure, hbound, saysOnly_token hP]

theorem OverClause.saysOnly_iff {o : OverClause} :
    o.toStructure.SaysOnly P ↔ AllTexts P o.texts := by
  rw [toStructure, saysOnly_record hP ["frame", "orderBy", "partitionBy"] (by decide) rfl]
  simp [texts, frameStructure, orderStructure, partitionStructure, FrameSpec.saysOnly hP,
    OrderSpec.saysOnly_iff hP]

theorem WindowSpec.saysOnly_iff {w : WindowSpec} :
    w.toStructure.SaysOnly P ↔ AllTexts P w.texts := by
  rw [toStructure, saysOnly_record hP ["alias", "args", "field", "frame", "orderBy", "partitionBy",
    "type"] (by decide) rfl]
  simp [texts, OverClause.texts, OverClause.frameStructure, OverClause.orderStructure,
    OverClause.partitionStructure, FrameSpec.saysOnly hP, OrderSpec.saysOnly_iff hP,
    saysOnly_token hP]

theorem AdvancedWindowSpec.saysOnly_iff {a : AdvancedWindowSpec} :
    a.toStructure.SaysOnly P ↔ AllTexts P a.texts := by
  rw [toStructure, saysOnly_record hP ["alias", "args", "field", "filter", "over", "type"]
    (by decide) rfl]
  simp [texts, WindowSpec.texts, OverClause.saysOnly_iff hP, Predicate.saysOnly_iff hP,
    saysOnly_token hP, and_comm]

theorem Condition.saysOnly_iff {c : Condition} :
    c.toStructure.SaysOnly P ↔ AllTexts P c.texts := by
  induction c using induct with
  | predicate p =>
      rw [toStructure, texts]
      exact Predicate.saysOnly_iff hP
  | group combinator conditions ih =>
      rw [toStructure, BooleanGroup.record, toStructures_eq_map, texts, textsIn_eq_flatMap,
        saysOnly_record hP ["conditions", "type"] (by decide) rfl]
      have hconditions : (∀ c ∈ conditions, c.toStructure.SaysOnly P) ↔
          ∀ c ∈ conditions, AllTexts P c.texts := forall₂_congr ih
      simpa [saysOnly_list, saysOnly_token hP] using hconditions

theorem BooleanGroup.saysOnly_iff {g : BooleanGroup} :
    g.toStructure.SaysOnly P ↔ AllTexts P g.texts := Condition.saysOnly_iff hP

end RemoteQuery
