import RemoteQuery.Proofs.Clause.Ordered
import RemoteQuery.Proofs.Query.Embedded
import RemoteQuery.Proofs.Query.Slots

namespace RemoteQuery

open Json

def Fields.Ordered (fields : Fields Value) : Prop :=
  fields.Sorted ∧ ∀ entry ∈ fields, entry.2.Ordered

theorem Fields.ordered_toJson {fields : Fields Value} (h : fields.Ordered) :
    fields.toJson.Ordered := by
  refine ordered_object.2 ⟨(Fields.sorted_map Value.toJson).2 h.1, ?_⟩
  intro entry hentry
  obtain ⟨e, he, rfl⟩ := List.mem_map.1 hentry
  exact h.2 e he

namespace QueryParams

structure OrderedClauses (p : QueryParams) : Prop where
  filter : ∀ fields, p.filter = some fields → fields.Ordered
  predicates : ∀ c ∈ p.predicates.getD [], c.Ordered
  ranges : ∀ c ∈ p.ranges.getD [], c.Ordered
  oneOf : ∀ c ∈ p.oneOf.getD [], c.Ordered
  noneOf : ∀ c ∈ p.noneOf.getD [], c.Ordered
  groups : ∀ c ∈ p.groups.getD [], c.Ordered
  having : ∀ c ∈ p.having.getD [], c.Ordered
  windows : ∀ c ∈ p.windows.getD [], c.Ordered
  advancedWindows : ∀ c ∈ p.advancedWindows.getD [], c.Ordered
  raw : ∀ c ∈ p.raw.getD [], c.Ordered
  transform : ∀ t, p.transform = some t → t.Ordered

inductive Ordered : QueryParams → Prop
  | intro {p : QueryParams} : p.OrderedClauses → (∀ q ∈ p.embedded, q.Ordered) → p.Ordered

theorem orderedOption_listSlot {α : Type} {write : α → Json} {slot : Option (List α)}
    (h : ∀ a ∈ slot.getD [], (write a).Ordered) : OrderedOption (listSlot write slot) := by
  cases slot with
  | none => exact orderedOption_none
  | some as => exact orderedOption_some.2 (ordered_listOf.2 h)

theorem orderedOption_encodeSlot {p : QueryParams} (h : p.OrderedClauses)
    (hembedded : ∀ q ∈ p.embedded, q.toStructure.Ordered) (s : Slot) :
    OrderedOption (p.encodeSlot s) := by
  cases s with
  | filter => exact orderedOption_map.2 fun fields hf => Fields.ordered_toJson (h.filter fields hf)
  | predicates =>
      exact orderedOption_listSlot fun c hc => Predicate.ordered_toStructure (h.predicates c hc)
  | ranges => exact orderedOption_listSlot fun c hc => RangeClause.ordered_toStructure (h.ranges c hc)
  | oneOf => exact orderedOption_listSlot fun c hc => SetClause.ordered_toStructure (h.oneOf c hc)
  | noneOf => exact orderedOption_listSlot fun c hc => SetClause.ordered_toStructure (h.noneOf c hc)
  | nullness => exact orderedOption_listSlot fun c _ => c.ordered_toStructure
  | subqueries =>
      refine orderedOption_listSlot fun s hs => Subquery.ordered_toStructure ?_
      exact hembedded s.query (mem_embedded.2 (.inl ⟨s, hs, rfl⟩))
  | groups => exact orderedOption_listSlot fun g hg => BooleanGroup.ordered_toStructure (h.groups g hg)
  | orderBy => exact orderedOption_listSlot fun c _ => c.ordered_toStructure
  | groupBy => exact orderedOption_map.2 fun items _ => ordered_strings items
  | having => exact orderedOption_listSlot fun c hc => HavingClause.ordered_toStructure (h.having c hc)
  | aggregates => exact orderedOption_listSlot fun c _ => c.ordered_toStructure
  | windows => exact orderedOption_listSlot fun w hw => WindowSpec.ordered_toStructure (h.windows w hw)
  | advancedWindows =>
      exact orderedOption_listSlot fun w hw =>
        AdvancedWindowSpec.ordered_toStructure (h.advancedWindows w hw)
  | ctes =>
      refine orderedOption_listSlot fun c hc => Cte.ordered_toStructure ?_
      exact hembedded c.query (mem_embedded.2 (.inr (.inl ⟨c, hc, rfl⟩)))
  | recursiveCtes =>
      refine orderedOption_listSlot fun c hc => RecursiveCte.ordered_toStructure ?_ ?_
      · exact hembedded c.initial (mem_embedded.2 (.inr (.inr ⟨c, hc, .inl rfl⟩)))
      · exact hembedded c.recursive (mem_embedded.2 (.inr (.inr ⟨c, hc, .inr rfl⟩)))
  | raw => exact orderedOption_listSlot fun c hc => RawExpression.ordered_toStructure (h.raw c hc)
  | transform =>
      exact orderedOption_map.2 fun t ht => TransformSpec.ordered_toStructure (h.transform t ht)
  | select => exact orderedOption_map.2 fun items _ => ordered_strings items
  | limit => exact orderedOption_map.2 fun n _ => ordered_unsigned n
  | offset => exact orderedOption_map.2 fun n _ => ordered_unsigned n
  | explain => exact orderedOption_map.2 fun e _ => e.ordered_toStructure

theorem sorted_fields (p : QueryParams) : p.fields.Sorted := by
  apply sorted_members Slot.keys_increasing
  rw [List.map_map]
  rfl

theorem ordered_toStructure {p : QueryParams} (h : p.Ordered) : p.toStructure.Ordered := by
  induction h with
  | intro hclauses _ ih =>
      rw [toStructure_eq]
      refine ordered_object.2 ⟨sorted_fields _, ?_⟩
      rintro ⟨key, j⟩ hmem
      obtain ⟨s, _, hs⟩ := mem_fields.1 hmem
      exact orderedOption_encodeSlot hclauses ih s j hs

end QueryParams

end RemoteQuery
