import RemoteQuery.Proofs.Query.Slots

namespace RemoteQuery

inductive Shape : Type 1 where
  | keyed (α : Type)
  | listed (α : Type)
  | latest (α : Type)

namespace Shape

abbrev Item : Shape → Type
  | .keyed α => String × α
  | .listed α => α
  | .latest α => α

abbrev Content : Shape → Type
  | .keyed α => Fields α
  | .listed α => List α
  | .latest α => α

end Shape

abbrev Slot.shape : Slot → Shape
  | .filter => .keyed Value
  | .predicates => .listed Predicate
  | .ranges => .listed RangeClause
  | .oneOf => .listed SetClause
  | .noneOf => .listed SetClause
  | .nullness => .listed NullnessClause
  | .subqueries => .listed (Subquery QueryParams)
  | .groups => .listed BooleanGroup
  | .orderBy => .listed OrderSpec
  | .groupBy => .latest (List String)
  | .having => .listed HavingClause
  | .aggregates => .listed AggregateSpec
  | .windows => .listed WindowSpec
  | .advancedWindows => .listed AdvancedWindowSpec
  | .ctes => .listed (Cte QueryParams)
  | .recursiveCtes => .listed (RecursiveCte QueryParams)
  | .raw => .listed RawExpression
  | .transform => .latest TransformSpec
  | .select => .latest (List String)
  | .limit => .latest UInt64
  | .offset => .latest UInt64
  | .explain => .latest ExplainOptions

abbrev Slot.Content (s : Slot) : Type := s.shape.Content

namespace QueryParams

def content (p : QueryParams) : (s : Slot) → Option s.Content
  | .filter => p.filter
  | .predicates => p.predicates
  | .ranges => p.ranges
  | .oneOf => p.oneOf
  | .noneOf => p.noneOf
  | .nullness => p.nullness
  | .subqueries => p.subqueries
  | .groups => p.groups
  | .orderBy => p.orderBy
  | .groupBy => p.groupBy
  | .having => p.having
  | .aggregates => p.aggregates
  | .windows => p.windows
  | .advancedWindows => p.advancedWindows
  | .ctes => p.ctes
  | .recursiveCtes => p.recursiveCtes
  | .raw => p.raw
  | .transform => p.transform
  | .select => p.select
  | .limit => p.limit
  | .offset => p.offset
  | .explain => p.explain

def ofContent (f : (s : Slot) → Option s.Content) : QueryParams where
  filter := f .filter
  predicates := f .predicates
  ranges := f .ranges
  oneOf := f .oneOf
  noneOf := f .noneOf
  nullness := f .nullness
  subqueries := f .subqueries
  groups := f .groups
  orderBy := f .orderBy
  groupBy := f .groupBy
  having := f .having
  aggregates := f .aggregates
  windows := f .windows
  advancedWindows := f .advancedWindows
  ctes := f .ctes
  recursiveCtes := f .recursiveCtes
  raw := f .raw
  transform := f .transform
  select := f .select
  limit := f .limit
  offset := f .offset
  explain := f .explain

@[simp] theorem content_ofContent (f : (s : Slot) → Option s.Content) (s : Slot) :
    (ofContent f).content s = f s := by
  cases s <;> rfl

theorem ofContent_content (p : QueryParams) : ofContent p.content = p := by
  cases p
  rfl

theorem ext_content {p q : QueryParams} (h : ∀ s, p.content s = q.content s) : p = q := by
  rw [← ofContent_content p, ← ofContent_content q, funext h]

@[simp] theorem content_empty (s : Slot) : ({} : QueryParams).content s = none := by
  cases s <;> rfl

theorem uses_eq_isSome (p : QueryParams) (s : Slot) : p.uses s = (p.content s).isSome := by
  cases s <;> rfl

theorem isSome_encodeSlot (p : QueryParams) (s : Slot) :
    (p.encodeSlot s).isSome = (p.content s).isSome := by
  cases s <;> exact Option.isSome_map

theorem populatedSlots_eq (p : QueryParams) :
    p.populatedSlots
      = (Slot.all.map Slot.key).filter fun key => (p.toStructure.member? key).isSome := by
  have hmember : ∀ s : Slot, (p.toStructure.member? s.key).isSome = p.uses s := by
    intro s
    have hget : p.toStructure.member? s.key = p.encodeSlot s := by
      rw [toStructure_eq, Json.member?, p.get?_fields]
    rw [hget, isSome_encodeSlot, uses_eq_isSome]
  rw [populatedSlots, List.filter_map]
  congr 2
  funext s
  exact (hmember s).symm

theorem isEmpty_iff {p : QueryParams} : p.isEmpty = true ↔ p = {} := by
  rw [isEmpty, populatedSlots, List.isEmpty_iff, List.map_eq_nil_iff, List.filter_eq_nil_iff]
  constructor
  · intro h
    apply ext_content
    intro s
    have hs := h s s.mem_all
    rw [uses_eq_isSome, Bool.not_eq_true, Option.isSome_eq_false_iff,
      Option.isNone_iff_eq_none] at hs
    rw [hs, content_empty]
  · rintro rfl s _
    rw [uses_eq_isSome, content_empty]
    exact Bool.false_ne_true

end QueryParams

end RemoteQuery
