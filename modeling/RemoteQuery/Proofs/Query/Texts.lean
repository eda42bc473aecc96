import RemoteQuery.Proofs.Clause.Texts
import RemoteQuery.Proofs.Query.Content
import RemoteQuery.Proofs.Query.SelfReference
/-!
The texts that a caller puts into a query, in its own clauses and in the queries that it embeds. A
table expression whose name is no word of the format is found to name itself exactly when one of
these texts has the name as a word; a name that is such a word may be found where no text has it.
-/

namespace RemoteQuery

open Format Json

namespace QueryParams

def slotTexts (q : QueryParams) : Slot → List String
  | .filter => q.filter.toList.flatMap Value.entryTexts
  | .predicates => (q.predicates.getD []).flatMap Predicate.texts
  | .ranges => (q.ranges.getD []).flatMap RangeClause.texts
  | .oneOf => (q.oneOf.getD []).flatMap SetClause.texts
  | .noneOf => (q.noneOf.getD []).flatMap SetClause.texts
  | .nullness => (q.nullness.getD []).flatMap NullnessClause.texts
  | .subqueries => (q.subqueries.getD []).flatMap Subquery.texts
  | .groups => (q.groups.getD []).flatMap BooleanGroup.texts
  | .orderBy => (q.orderBy.getD []).flatMap OrderSpec.texts
  | .groupBy => q.groupBy.getD []
  | .having => (q.having.getD []).flatMap HavingClause.texts
  | .aggregates => (q.aggregates.getD []).flatMap AggregateSpec.texts
  | .windows => (q.windows.getD []).flatMap WindowSpec.texts
  | .advancedWindows => (q.advancedWindows.getD []).flatMap AdvancedWindowSpec.texts
  | .ctes => (q.ctes.getD []).flatMap Cte.texts
  | .recursiveCtes => (q.recursiveCtes.getD []).flatMap RecursiveCte.texts
  | .raw => (q.raw.getD []).flatMap RawExpression.texts
  | .transform => q.transform.toList.flatMap TransformSpec.texts
  | .select => q.select.getD []
  | .limit => []
  | .offset => []
  | .explain => []

inductive Supplies (t : String) : QueryParams → Prop
  | slot {q : QueryParams} (s : Slot) : t ∈ q.slotTexts s → Supplies t q
  | embedded {q r : QueryParams} : r ∈ q.embedded → Supplies t r → Supplies t q

def embeddedIn (q : QueryParams) : Slot → List QueryParams
  | .subqueries => (q.subqueries.getD []).map Subquery.query
  | .ctes => (q.ctes.getD []).map Cte.query
  | .recursiveCtes => (q.recursiveCtes.getD []).flatMap fun c => [c.initial, c.recursive]
  | _ => []

theorem mem_embedded_iff {q r : QueryParams} : r ∈ q.embedded ↔ ∃ s, r ∈ q.embeddedIn s := by
  rw [embedded, List.mem_append, List.mem_append]
  constructor
  · rintro ((h | h) | h)
    · exact ⟨.subqueries, h⟩
    · exact ⟨.ctes, h⟩
    · exact ⟨.recursiveCtes, h⟩
  · rintro ⟨s, h⟩
    cases s with
    | subqueries => exact .inl (.inl h)
    | ctes => exact .inl (.inr h)
    | recursiveCtes => exact .inr h
    | _ => cases h

variable {P : String → Prop}

theorem saysOnlyOption_listSlot {α : Type} {write : α → Json} {slot : Option (List α)} :
    SaysOnlyOption P (listSlot write slot) ↔ ∀ a ∈ slot.getD [], (write a).SaysOnly P := by
  cases slot <;> simp [listSlot]

theorem saysOnlyOption_flatMap {α : Type} {write : α → Json} {texts : α → List String}
    {slot : Option (List α)} (h : ∀ a, (write a).SaysOnly P ↔ AllTexts P (texts a)) :
    SaysOnlyOption P (listSlot write slot) ↔ AllTexts P ((slot.getD []).flatMap texts) := by
  rw [saysOnlyOption_listSlot, allTexts_flatMap]
  exact forall₂_congr fun a _ => h a

theorem saysOnlyOption_strings {items : Option (List String)} :
    SaysOnlyOption P (items.map .strings) ↔ AllTexts P (items.getD []) := by
  cases items <;> simp

theorem saysOnlyOption_filter {filter : Option (Fields Value)} :
    SaysOnlyOption P (filter.map Fields.toJson) ↔
      AllTexts P (filter.toList.flatMap Value.entryTexts) := by
  rw [saysOnlyOption_map, allTexts_flatMap]
  refine forall₂_congr fun fields _ => ?_
  rw [Fields.toJson, ← Value.toJsonEntries_eq_map, Value.saysOnly_entries]

theorem saysOnlyOption_encodeSlot (hP : ∀ t, IsText t → P t) (q : QueryParams) (s : Slot) :
    SaysOnlyOption P (q.encodeSlot s) ↔
      AllTexts P (q.slotTexts s) ∧ ∀ r ∈ q.embeddedIn s, r.toStructure.SaysOnly P := by
  -- All slots but three embed nothing.
  have own : ∀ {a b : Prop}, (a ↔ b) →
      (a ↔ b ∧ ∀ r ∈ ([] : List QueryParams), r.toStructure.SaysOnly P) := fun h =>
    h.trans (and_iff_left (by rintro r ⟨⟩)).symm
  cases s with
  | filter => exact own saysOnlyOption_filter
  | predicates => exact own (saysOnlyOption_flatMap fun _ => Predicate.saysOnly_iff hP)
  | ranges => exact own (saysOnlyOption_flatMap fun _ => RangeClause.saysOnly_iff hP)
  | oneOf => exact own (saysOnlyOption_flatMap fun _ => SetClause.saysOnly_iff hP)
  | noneOf => exact own (saysOnlyOption_flatMap fun _ => SetClause.saysOnly_iff hP)
  | nullness => exact own (saysOnlyOption_flatMap fun _ => NullnessClause.saysOnly_iff hP)
  | groups => exact own (saysOnlyOption_flatMap fun _ => BooleanGroup.saysOnly_iff hP)
  | orderBy => exact own (saysOnlyOption_flatMap fun _ => OrderSpec.saysOnly_iff hP)
  | groupBy => exact own saysOnlyOption_strings
  | having => exact own (saysOnlyOption_flatMap fun _ => HavingClause.saysOnly_iff hP)
  | aggregates => exact own (saysOnlyOption_flatMap fun _ => AggregateSpec.saysOnly_iff hP)
  | windows => exact own (saysOnlyOption_flatMap fun _ => WindowSpec.saysOnly_iff hP)
  | advancedWindows =>
      exact own (saysOnlyOption_flatMap fun _ => AdvancedWindowSpec.saysOnly_iff hP)
  | raw => exact own (saysOnlyOption_flatMap fun _ => RawExpression.saysOnly_iff hP)
  | transform =>
      refine own ?_
      simp [encodeSlot, slotTexts, TransformSpec.saysOnly_iff hP]
  | select => exact own saysOnlyOption_strings
  | limit => exact own (by simp [encodeSlot, slotTexts])
  | offset => exact own (by simp [encodeSlot, slotTexts])
  | explain => exact own (by simp [encodeSlot, slotTexts, ExplainOptions.saysOnly hP])
  | subqueries =>
      simp only [encodeSlot, saysOnlyOption_listSlot, Subquery.saysOnly_iff hP, slotTexts,
        embeddedIn, allTexts_flatMap, List.forall_mem_map]
      exact forall₂_and
  | ctes =>
      simp only [encodeSlot, saysOnlyOption_listSlot, Cte.saysOnly_iff hP, slotTexts, embeddedIn,
        allTexts_flatMap, List.forall_mem_map]
      exact forall₂_and
  | recursiveCtes =>
      simp only [encodeSlot, saysOnlyOption_listSlot, RecursiveCte.saysOnly_iff hP, slotTexts,
        embeddedIn, allTexts_flatMap, List.forall_mem_flatMap, List.forall_mem_cons,
        List.not_mem_nil, IsEmpty.forall_iff, implies_true, and_true]
      exact forall₂_and

theorem saysOnly_fields_iff (hP : ∀ t, IsText t → P t) (q : QueryParams) :
    q.toStructure.SaysOnly P ↔ ∀ s, SaysOnlyOption P (q.encodeSlot s) := by
  rw [toStructure_eq, saysOnly_object]
  constructor
  · intro h s j hj
    exact (h (s.key, j) (mem_fields.2 ⟨s, rfl, Option.mem_toList.1 hj⟩)).2
  · rintro h ⟨key, j⟩ hmem
    obtain ⟨s, rfl, hs⟩ := mem_fields.1 hmem
    exact ⟨hP _ (isText_key s), h s j (Option.mem_toList.2 hs)⟩

theorem saysOnly_toStructure_iff (hP : ∀ t, IsText t → P t) (q : QueryParams) :
    q.toStructure.SaysOnly P ↔ ∀ t, q.Supplies t → P t := by
  induction q using induct with
  | embed q ih =>
      rw [saysOnly_fields_iff hP]
      simp only [saysOnlyOption_encodeSlot hP]
      constructor
      · rintro h t (⟨s, ht⟩ | ⟨hr, ht⟩)
        · exact (h s).1 t ht
        · obtain ⟨s, hs⟩ := mem_embedded_iff.1 hr
          exact (ih _ hr).1 ((h s).2 _ hs) t ht
      · intro h s
        refine ⟨fun t ht => h t (.slot s ht), fun r hr => ?_⟩
        have hembedded := mem_embedded_iff.2 ⟨s, hr⟩
        exact (ih r hembedded).2 fun t ht => h t (.embedded hembedded ht)

theorem isText_or_supplies {q : QueryParams} {t : String} (h : q.toStructure.Says t) :
    IsText t ∨ q.Supplies t := by
  have hall : q.toStructure.SaysOnly fun u => IsText u ∨ q.Supplies u :=
    (saysOnly_toStructure_iff (fun _ => .inl) q).2 fun _ => .inr
  exact hall t h

theorem says_or_isText {q : QueryParams} {t : String} (h : q.Supplies t) :
    q.toStructure.Says t ∨ IsText t := by
  have hsays : q.toStructure.SaysOnly fun u => q.toStructure.Says u ∨ IsText u := fun _ => .inl
  exact (saysOnly_toStructure_iff (fun _ => .inr) q).1 hsays t h

end QueryParams

namespace RecursiveCte

variable {c : RecursiveCte QueryParams}

theorem referencesSelf_cases (h : c.referencesSelf = true) : c.recursiveTable = some c.name ∨
    (∃ t, c.recursive.Supplies t ∧ Text.namesWord t c.name = true) ∨
      ∃ t, IsText t ∧ c.recursive.toStructure.Says t ∧ Text.namesWord t c.name = true := by
  rcases referencesSelf_iff.1 h with htable | ⟨t, hsays, hword⟩
  · exact .inl htable
  · rcases QueryParams.isText_or_supplies hsays with ht | ht
    · exact .inr (.inr ⟨t, ht, hsays, hword⟩)
    · exact .inr (.inl ⟨t, ht, hword⟩)

theorem not_isText_of_namesWord (hname : isWord c.name = false) {t : String}
    (hword : Text.namesWord t c.name = true) : ¬IsText t := by
  intro ht
  rw [isWord_iff.2 ⟨t, ht, hword⟩] at hname
  cases hname

theorem referencesSelf_supplied (c : RecursiveCte QueryParams) :
    (c.referencesSelf = true → c.recursiveTable = some c.name ∨
      (∃ t, c.recursive.Supplies t ∧ Text.namesWord t c.name = true) ∨
        ∃ t, IsText t ∧ c.recursive.toStructure.Says t ∧ Text.namesWord t c.name = true) ∧
    (isWord c.name = false → (c.referencesSelf = true ↔ c.recursiveTable = some c.name ∨
      ∃ t, c.recursive.Supplies t ∧ Text.namesWord t c.name = true)) := by
  refine ⟨referencesSelf_cases, fun hname => ⟨fun h => ?_, ?_⟩⟩
  · rcases referencesSelf_cases h with htable | hsupplied | ⟨t, ht, _, hword⟩
    · exact .inl htable
    · exact .inr hsupplied
    · exact absurd ht (not_isText_of_namesWord hname hword)
  · rintro (htable | ⟨t, ht, hword⟩)
    · exact referencesSelf_iff.2 (.inl htable)
    · rcases QueryParams.says_or_isText ht with hsays | hformat
      · exact referencesSelf_iff.2 (.inr ⟨t, hsays, hword⟩)
      · exact absurd hformat (not_isText_of_namesWord hname hword)

def rawTree : RecursiveCte QueryParams :=
  { name := "tree"
    initial := {}
    recursive :=
      { ctes := some [{ name := "inner", query := { raw := some [⟨"tree.id > 1", []⟩] } }] } }

theorem referencesSelf_rawTree : isWord rawTree.name = false ∧ rawTree.referencesSelf = true := by
  have hname : isWord rawTree.name = false := by decide +kernel
  have hsupplies : rawTree.recursive.Supplies "tree.id > 1" :=
    .embedded List.mem_cons_self (.slot .raw List.mem_cons_self)
  have hword : Text.namesWord "tree.id > 1" rawTree.name = true := by decide +kernel
  exact ⟨hname, ((referencesSelf_supplied rawTree).2 hname).2 (.inr ⟨_, hsupplies, hword⟩)⟩

theorem referencesSelf_of_uses {s : Slot} (hname : c.name = s.key)
    (huses : c.recursive.uses s = true) : c.referencesSelf = true := by
  rw [QueryParams.uses_eq_isSome, ← QueryParams.isSome_encodeSlot] at huses
  obtain ⟨j, hj⟩ := Option.isSome_iff_exists.1 huses
  have hsays : c.recursive.toStructure.Says s.key := by
    rw [QueryParams.toStructure_eq]
    exact .key (QueryParams.mem_fields.2 ⟨s, rfl, hj⟩)
  have hword : Text.namesWord s.key s.key = true := by
    rw [Text.namesWord_self_iff]
    cases s <;> decide +kernel
  exact referencesSelf_iff.2 (.inr ⟨s.key, hsays, hname ▸ hword⟩)

def limited : RecursiveCte QueryParams :=
  { name := "limit", initial := {}, recursive := { limit := some 5 } }

theorem referencesSelf_limited :
    limited.name ≠ "" ∧ limited.referencesSelf = true ∧
      ¬(limited.recursiveTable = some limited.name ∨
        ∃ t, limited.recursive.Supplies t ∧ Text.namesWord t limited.name = true) := by
  have hnone : ∀ t, ¬limited.recursive.Supplies t := by
    rintro t (⟨s, ht⟩ | ⟨hr, _⟩)
    · cases s <;> cases ht
    · cases hr
  refine ⟨by decide, referencesSelf_of_uses (s := .limit) rfl rfl, ?_⟩
  rintro (htable | ⟨t, ht, _⟩)
  · cases htable
  · exact hnone t ht

end RecursiveCte

end RemoteQuery
