import RemoteQuery.Query.Slot
import RemoteQuery.Proofs.Fields
import RemoteQuery.Proofs.Wire.Reading

namespace RemoteQuery

open Wire

namespace Slot

def inKeyOrder : List Slot :=
  [.advancedWindows, .aggregates, .explain, .filter, .groupBy, .having, .limit, .offset, .orderBy,
    .raw, .select, .transform, .ranges, .subqueries, .groups, .oneOf, .noneOf, .nullness,
    .predicates, .windows, .ctes, .recursiveCtes]

theorem keys_increasing : (inKeyOrder.map key).Pairwise (· < ·) := by decide

theorem mem_inKeyOrder (s : Slot) : s ∈ inKeyOrder := by cases s <;> decide

end Slot

namespace QueryParams

def encodeSlot (p : QueryParams) : Slot → Option Json
  | .filter => p.filter.map Fields.toJson
  | .predicates => listSlot Predicate.toStructure p.predicates
  | .ranges => listSlot RangeClause.toStructure p.ranges
  | .oneOf => listSlot SetClause.toStructure p.oneOf
  | .noneOf => listSlot SetClause.toStructure p.noneOf
  | .nullness => listSlot NullnessClause.toStructure p.nullness
  | .subqueries => listSlot (fun s => (s.map toStructure).toStructure) p.subqueries
  | .groups => listSlot BooleanGroup.toStructure p.groups
  | .orderBy => listSlot OrderSpec.toStructure p.orderBy
  | .groupBy => p.groupBy.map .strings
  | .having => listSlot HavingClause.toStructure p.having
  | .aggregates => listSlot AggregateSpec.toStructure p.aggregates
  | .windows => listSlot WindowSpec.toStructure p.windows
  | .advancedWindows => listSlot AdvancedWindowSpec.toStructure p.advancedWindows
  | .ctes => listSlot (fun c => (c.map toStructure).toStructure) p.ctes
  | .recursiveCtes => listSlot (fun c => (c.map toStructure).toStructure) p.recursiveCtes
  | .raw => listSlot RawExpression.toStructure p.raw
  | .transform => p.transform.map TransformSpec.toStructure
  | .select => p.select.map .strings
  | .limit => p.limit.map .unsigned
  | .offset => p.offset.map .unsigned
  | .explain => p.explain.map ExplainOptions.toStructure

def fields (p : QueryParams) : Fields Json :=
  Json.members (Slot.inKeyOrder.map fun s => (s.key, p.encodeSlot s))

theorem listSlot_encodeSubqueries? (slot : Option (List (Subquery QueryParams))) :
    listSlot Subquery.toStructure (encodeSubqueries? slot)
      = listSlot (fun s => (s.map toStructure).toStructure) slot := by
  cases slot with
  | none => rfl
  | some l =>
      simp [encodeSubqueries?, listSlot, Json.listOf, encodeSubqueries_eq_map]

theorem listSlot_encodeCtes? (slot : Option (List (Cte QueryParams))) :
    listSlot Cte.toStructure (encodeCtes? slot)
      = listSlot (fun c => (c.map toStructure).toStructure) slot := by
  cases slot with
  | none => rfl
  | some l => simp [encodeCtes?, listSlot, Json.listOf, encodeCtes_eq_map]

theorem listSlot_encodeRecursiveCtes? (slot : Option (List (RecursiveCte QueryParams))) :
    listSlot RecursiveCte.toStructure (encodeRecursiveCtes? slot)
      = listSlot (fun c => (c.map toStructure).toStructure) slot := by
  cases slot with
  | none => rfl
  | some l => simp [encodeRecursiveCtes?, listSlot, Json.listOf, encodeRecursiveCtes_eq_map]

theorem toStructure_eq (p : QueryParams) : p.toStructure = .object p.fields := by
  obtain ⟨⟩ := p
  simp only [toStructure, listSlot_encodeSubqueries?, listSlot_encodeCtes?,
    listSlot_encodeRecursiveCtes?]
  rfl

theorem get?_fields (p : QueryParams) (s : Slot) : p.fields.get? s.key = p.encodeSlot s := by
  cases s <;> simp [fields, Slot.inKeyOrder, Slot.key]

theorem get?_fields_insert {key : String} (hkey : ∀ s : Slot, s.key ≠ key) (p : QueryParams) (j : Json)
    (s : Slot) : (p.fields.insert key j).get? s.key = p.encodeSlot s := by
  rw [Fields.get?_insert, if_neg (hkey s), p.get?_fields]

theorem mem_fields {p : QueryParams} {key : String} {j : Json} :
    (key, j) ∈ p.fields ↔ ∃ s : Slot, s.key = key ∧ p.encodeSlot s = some j := by
  rw [fields, Json.mem_members, List.mem_map]
  constructor
  · rintro ⟨s, _, hs⟩
    exact ⟨s, (Prod.mk.inj hs).1, (Prod.mk.inj hs).2⟩
  · rintro ⟨s, rfl, hj⟩
    exact ⟨s, s.mem_inKeyOrder, by rw [hj]⟩

theorem get?_fields_of_ne {key : String} (hkey : ∀ s : Slot, s.key ≠ key) (p : QueryParams) :
    p.fields.get? key = none := by
  cases hget : p.fields.get? key with
  | none => rfl
  | some j =>
      obtain ⟨s, hs, -⟩ := mem_fields.1 (Fields.mem_of_get? hget)
      exact absurd hs (hkey s)

theorem listSlot_eq_some {α : Type} {write : α → Json} {slot : Option (List α)} {j : Json}
    (h : listSlot write slot = some j) : ∃ js, j = .list js := by
  obtain ⟨as, _, rfl⟩ := Option.map_eq_some_iff.1 h
  exact ⟨as.map write, rfl⟩

theorem encodeSlot_cases {p : QueryParams} {s : Slot} {j : Json} (h : p.encodeSlot s = some j) :
    (∃ js, j = .list js) ∨ (∃ fields, j = .object fields) ∨ ∃ n, j = .unsigned n := by
  cases s with
  | filter | transform | explain =>
      obtain ⟨a, _, rfl⟩ := Option.map_eq_some_iff.1 h
      exact .inr (.inl ⟨_, rfl⟩)
  | groupBy | select =>
      obtain ⟨items, _, rfl⟩ := Option.map_eq_some_iff.1 h
      exact .inl ⟨_, rfl⟩
  | limit | offset =>
      obtain ⟨n, _, rfl⟩ := Option.map_eq_some_iff.1 h
      exact .inr (.inr ⟨n, rfl⟩)
  | _ => exact .inl (listSlot_eq_some h)

structure SlotsRead (read : Json → Decoded QueryParams) (fields : Fields Json) (p : QueryParams) :
    Prop where
  filter : optional fields "filter" (valueMap decodeContext) = .ok p.filter
  predicates : slotOf fields "whereRaw" Predicate.ofStructure = .ok p.predicates
  ranges : slotOf fields "whereBetween" RangeClause.ofStructure = .ok p.ranges
  oneOf : slotOf fields "whereIn" SetClause.ofStructure = .ok p.oneOf
  noneOf : slotOf fields "whereNotIn" SetClause.ofStructure = .ok p.noneOf
  nullness : slotOf fields "whereNull" NullnessClause.ofStructure = .ok p.nullness
  subqueries : slotOf fields "whereExists" (Subquery.ofStructureWith read) = .ok p.subqueries
  groups : slotOf fields "whereGroups" BooleanGroup.ofStructure = .ok p.groups
  orderBy : slotOf fields "orderBy" OrderSpec.ofStructure = .ok p.orderBy
  groupBy : optional fields "groupBy" (strings decodeContext) = .ok p.groupBy
  having : slotOf fields "having" HavingClause.ofStructure = .ok p.having
  aggregates : slotOf fields "aggregates" AggregateSpec.ofStructure = .ok p.aggregates
  windows : slotOf fields "windows" WindowSpec.ofStructure = .ok p.windows
  advancedWindows :
    slotOf fields "advancedWindows" AdvancedWindowSpec.ofStructure = .ok p.advancedWindows
  ctes : slotOf fields "with" (Cte.ofStructureWith read) = .ok p.ctes
  recursiveCtes :
    slotOf fields "withRecursive" (RecursiveCte.ofStructureWith read) = .ok p.recursiveCtes
  raw : slotOf fields "raw" RawExpression.ofStructure = .ok p.raw
  transform : optional fields "transform" TransformSpec.ofStructure = .ok p.transform
  select : optional fields "select" (strings decodeContext) = .ok p.select
  limit : optional fields "limit" (unsigned decodeContext) = .ok p.limit
  offset : optional fields "offset" (unsigned decodeContext) = .ok p.offset
  explain : optional fields "explain" ExplainOptions.ofStructure = .ok p.explain

theorem ofFieldsWith_eq_ok {read : Json → Decoded QueryParams} {fields : Fields Json}
    {p : QueryParams} : ofFieldsWith read fields = .ok p ↔ SlotsRead read fields p := by
  constructor
  · intro h
    simp only [ofFieldsWith, Decoded.bind_eq_ok, Decoded.pure_eq_ok, Except.ok.injEq] at h
    obtain
      ⟨filter, hfilter, predicates, hpredicates, ranges, hranges, oneOf, honeOf, noneOf,
      hnoneOf, nullness, hnullness, subqueries, hsubqueries, groups, hgroups, orderBy,
      horderBy, groupBy, hgroupBy, having, hhaving, aggregates, haggregates, windows,
      hwindows, advancedWindows, hadvancedWindows, ctes, hctes, recursiveCtes,
      hrecursiveCtes, raw, hraw, transform, htransform, select, hselect, limit, hlimit,
      offset, hoffset, explain, hexplain, rfl⟩ := h
    exact
      ⟨hfilter, hpredicates, hranges, honeOf, hnoneOf, hnullness, hsubqueries, hgroups,
      horderBy, hgroupBy, hhaving, haggregates, hwindows, hadvancedWindows, hctes,
      hrecursiveCtes, hraw, htransform, hselect, hlimit, hoffset, hexplain⟩
  · intro h
    simp only
      [ofFieldsWith, h.filter, h.predicates, h.ranges, h.oneOf, h.noneOf, h.nullness,
      h.subqueries, h.groups, h.orderBy, h.groupBy, h.having, h.aggregates, h.windows,
      h.advancedWindows, h.ctes, h.recursiveCtes, h.raw, h.transform, h.select, h.limit,
      h.offset, h.explain, Decoded.ok_bind]
    cases p
    rfl

end QueryParams

end RemoteQuery
