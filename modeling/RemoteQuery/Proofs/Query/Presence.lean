import RemoteQuery.Proofs.Fields
import RemoteQuery.Proofs.Query.Content
import RemoteQuery.Proofs.Wire.Found

namespace RemoteQuery

open Wire

namespace Wire

variable {α : Type} {fields : Fields Json} {key context : String}

theorem isSome_of_optional {read : Json → Decoded α} {slot : Option α}
    (h : optional fields key read = .ok slot) : slot.isSome = fields.has key := by
  rw [Fields.has]
  rw [optional] at h
  split at h
  · obtain ⟨a, _, rfl⟩ := Decoded.map_eq_ok.1 h
    simp [*]
  · cases h
    simp [*]

/-- The member under this key is a list as long as the slot's, and its elements decode to the items. -/
def ItemsKept (fields : Fields Json) (key : String) (read : Json → Decoded α)
    (slot : Option (List α)) : Prop :=
  ∀ items, slot = some items → ∃ js, fields.get? key = some (.list js) ∧
    js.length = items.length ∧
      ∀ i (hj : i < js.length) (ha : i < items.length), read js[i] = .ok items[i]

theorem itemsKept_of_optional {read : Json → Decoded α} {slot : Option (List α)}
    (h : optional fields key (listOf context read) = .ok slot) : ItemsKept fields key read slot := by
  rintro items rfl
  obtain ⟨j, hj, hlist⟩ := optional_eq_some.1 h
  obtain ⟨js, rfl, hread⟩ := exists_list_of_listOf hlist
  have hitems := forall₂_of_readAll hread
  exact ⟨js, hj, hitems.length_eq, fun i hi ha => hitems.get hi ha⟩

end Wire

namespace QueryParams

variable {fields : Fields Json} {p : QueryParams}

theorem slotsRead_of_ofStructure (h : ofStructure (.object fields) = .ok p) :
    SlotsRead ofStructure fields p := by
  rw [ofStructure_eq] at h
  exact ofFieldsWith_eq_ok.1 h

theorem isSome_content (h : SlotsRead ofStructure fields p) (s : Slot) :
    (p.content s).isSome = fields.has s.key := by
  cases s with
  | filter => exact isSome_of_optional h.filter
  | predicates => exact isSome_of_optional h.predicates
  | ranges => exact isSome_of_optional h.ranges
  | oneOf => exact isSome_of_optional h.oneOf
  | noneOf => exact isSome_of_optional h.noneOf
  | nullness => exact isSome_of_optional h.nullness
  | subqueries => exact isSome_of_optional h.subqueries
  | groups => exact isSome_of_optional h.groups
  | orderBy => exact isSome_of_optional h.orderBy
  | groupBy => exact isSome_of_optional h.groupBy
  | having => exact isSome_of_optional h.having
  | aggregates => exact isSome_of_optional h.aggregates
  | windows => exact isSome_of_optional h.windows
  | advancedWindows => exact isSome_of_optional h.advancedWindows
  | ctes => exact isSome_of_optional h.ctes
  | recursiveCtes => exact isSome_of_optional h.recursiveCtes
  | raw => exact isSome_of_optional h.raw
  | transform => exact isSome_of_optional h.transform
  | select => exact isSome_of_optional h.select
  | limit => exact isSome_of_optional h.limit
  | offset => exact isSome_of_optional h.offset
  | explain => exact isSome_of_optional h.explain

structure ListsKept (fields : Fields Json) (p : QueryParams) : Prop where
  predicates : ItemsKept fields "whereRaw" Predicate.ofStructure p.predicates
  ranges : ItemsKept fields "whereBetween" RangeClause.ofStructure p.ranges
  oneOf : ItemsKept fields "whereIn" SetClause.ofStructure p.oneOf
  noneOf : ItemsKept fields "whereNotIn" SetClause.ofStructure p.noneOf
  nullness : ItemsKept fields "whereNull" NullnessClause.ofStructure p.nullness
  subqueries : ItemsKept fields "whereExists" Subquery.ofStructure p.subqueries
  groups : ItemsKept fields "whereGroups" BooleanGroup.ofStructure p.groups
  orderBy : ItemsKept fields "orderBy" OrderSpec.ofStructure p.orderBy
  groupBy : ItemsKept fields "groupBy" (string decodeContext) p.groupBy
  having : ItemsKept fields "having" HavingClause.ofStructure p.having
  aggregates : ItemsKept fields "aggregates" AggregateSpec.ofStructure p.aggregates
  windows : ItemsKept fields "windows" WindowSpec.ofStructure p.windows
  advancedWindows :
    ItemsKept fields "advancedWindows" AdvancedWindowSpec.ofStructure p.advancedWindows
  ctes : ItemsKept fields "with" Cte.ofStructure p.ctes
  recursiveCtes : ItemsKept fields "withRecursive" RecursiveCte.ofStructure p.recursiveCtes
  raw : ItemsKept fields "raw" RawExpression.ofStructure p.raw
  select : ItemsKept fields "select" (string decodeContext) p.select

theorem SlotsRead.listsKept (h : SlotsRead ofStructure fields p) : ListsKept fields p where
  predicates := itemsKept_of_optional h.predicates
  ranges := itemsKept_of_optional h.ranges
  oneOf := itemsKept_of_optional h.oneOf
  noneOf := itemsKept_of_optional h.noneOf
  nullness := itemsKept_of_optional h.nullness
  subqueries := itemsKept_of_optional h.subqueries
  groups := itemsKept_of_optional h.groups
  orderBy := itemsKept_of_optional h.orderBy
  groupBy := itemsKept_of_optional h.groupBy
  having := itemsKept_of_optional h.having
  aggregates := itemsKept_of_optional h.aggregates
  windows := itemsKept_of_optional h.windows
  advancedWindows := itemsKept_of_optional h.advancedWindows
  ctes := itemsKept_of_optional h.ctes
  recursiveCtes := itemsKept_of_optional h.recursiveCtes
  raw := itemsKept_of_optional h.raw
  select := itemsKept_of_optional h.select

theorem isSome_member? (p : QueryParams) (s : Slot) :
    (p.toStructure.member? s.key).isSome = (p.content s).isSome := by
  rw [toStructure_eq, Json.member?, p.get?_fields, isSome_encodeSlot]

theorem mem_populatedSlots {s : Slot} :
    s.key ∈ p.populatedSlots ↔ (p.content s).isSome = true := by
  rw [populatedSlots_eq, List.mem_filter, isSome_member?,
    and_iff_right (List.mem_map_of_mem s.mem_all)]

theorem exists_slot_of_member? {key : String} (h : (p.toStructure.member? key).isSome = true) :
    ∃ s : Slot, s.key = key := by
  obtain ⟨j, hj⟩ := Option.isSome_iff_exists.1 h
  rw [toStructure_eq, Json.member?] at hj
  obtain ⟨s, hs, _⟩ := mem_fields.1 (Fields.mem_of_get? hj)
  exact ⟨s, hs⟩

theorem populatedSlots_sublist (p : QueryParams) :
    p.populatedSlots.Sublist (Slot.all.map Slot.key) := by
  rw [populatedSlots_eq]
  exact List.filter_sublist

theorem nodup_populatedSlots (p : QueryParams) : p.populatedSlots.Nodup :=
  p.populatedSlots_sublist.nodup (by decide)

theorem eq_empty_iff (h : SlotsRead ofStructure fields p) :
    p = {} ↔ ∀ s : Slot, fields.has s.key = false := by
  constructor
  · rintro rfl s
    rw [← isSome_content h, content_empty, Option.isSome_none]
  · intro hnone
    apply ext_content
    intro s
    have hs := isSome_content h s
    rw [hnone, Option.isSome_eq_false_iff, Option.isNone_iff_eq_none] at hs
    rw [hs, content_empty]

theorem presence_survives (h : ofStructure (.object fields) = .ok p) :
    (∀ s : Slot, (fields.has s.key = true ↔ (p.content s).isSome = true) ∧
      ((p.content s).isSome = true ↔ (p.toStructure.member? s.key).isSome = true) ∧
      ((p.toStructure.member? s.key).isSome = true ↔ s.key ∈ p.populatedSlots)) ∧
    (∀ key, (p.toStructure.member? key).isSome = true → ∃ s : Slot, s.key = key) ∧
    p.populatedSlots.Sublist (Slot.all.map Slot.key) ∧ p.populatedSlots.Nodup ∧
    ListsKept fields p ∧
    (p.isEmpty = true ↔ p = {}) ∧ (p = {} ↔ ∀ s : Slot, fields.has s.key = false) := by
  have hslots := slotsRead_of_ofStructure h
  refine ⟨fun s => ⟨?_, ?_, ?_⟩, fun key => exists_slot_of_member?, p.populatedSlots_sublist,
    p.nodup_populatedSlots, hslots.listsKept, isEmpty_iff, eq_empty_iff hslots⟩
  · rw [isSome_content hslots]
  · rw [isSome_member?]
  · rw [isSome_member?, mem_populatedSlots]

/-- An empty list, a list that relies on a default, and a key of no slot. -/
def sparse : Fields Json :=
  [("limit", .unsigned 5), ("note", .null),
    ("orderBy", .list [.object [("field", .str "a")],
      .object [("direction", .str "desc"), ("field", .str "b")]]),
    ("whereRaw", .list [])]

def sparseParams : QueryParams where
  predicates := some []
  orderBy := some [.new "a" .ascending, .new "b" .descending]
  limit := some 5

theorem presence_survives_sparse : ofStructure (.object sparse) = .ok sparseParams ∧
    (∀ s : Slot, Fields.has sparse s.key = true ↔ s.key ∈ sparseParams.populatedSlots) ∧
    ItemsKept sparse "whereRaw" Predicate.ofStructure (some []) ∧ sparseParams.isEmpty ≠ true := by
  have h : ofStructure (.object sparse) = .ok sparseParams := rfl
  obtain ⟨hslots, -, -, -, hlists, hempty, hnone⟩ := presence_survives h
  refine ⟨h, fun s => ?_, hlists.predicates, fun he => ?_⟩
  · obtain ⟨hcontent, hmember, hpopulated⟩ := hslots s
    exact hcontent.trans (hmember.trans hpopulated)
  · have hlimit := hnone.1 (hempty.1 he) .limit
    exact absurd hlimit (by decide)

end QueryParams

end RemoteQuery
