import RemoteQuery.Proofs.Query.Embedded
import RemoteQuery.Proofs.Query.Slots

namespace RemoteQuery

open Wire

namespace Subquery

theorem acceptedWith {s : Subquery QueryParams} {read : Json → Decoded QueryParams} {p : Prop}
    (h : AcceptedIf p s.query (read s.query.toStructure)) :
    AcceptedIf p s (ofStructureWith read (s.map QueryParams.toStructure).toStructure) := by
  have hspec : ofStructureWith read (s.map QueryParams.toStructure).toStructure
      = (read s.query.toStructure).map fun query => ⟨s.table, query, s.on, s.negated⟩ := by
    cases hn : s.negated <;>
      simp [ofStructureWith, toStructure, map, Json.record_eq, required, optional_eq, orElse_eq,
        readOr, hn, Decoded.bind_ok]
  rw [hspec]
  exact h.map rfl

theorem exists_of_ofStructureWith {read : Json → Decoded QueryParams} {j : Json}
    {s : Subquery QueryParams} (h : ofStructureWith read j = .ok s) :
    ∃ k : Json, k.depth < j.depth ∧ read k = .ok s.query := by
  simp only [ofStructureWith, Decoded.bind_eq_ok, Decoded.pure_eq_ok, Except.ok.injEq] at h
  obtain ⟨fields, hfields, table, _, query, hquery, on, _, negated, _, rfl⟩ := h
  obtain ⟨k, hk, hread⟩ := required_eq_ok.1 hquery
  rw [object_eq_ok.1 hfields]
  exact ⟨k, Json.depth_lt_of_get? hk, hread⟩

end Subquery

namespace Cte

theorem acceptedWith {c : Cte QueryParams} {read : Json → Decoded QueryParams} {p : Prop}
    (h : AcceptedIf p c.query (read c.query.toStructure)) :
    AcceptedIf p c (ofStructureWith read (c.map QueryParams.toStructure).toStructure) := by
  have hspec : ofStructureWith read (c.map QueryParams.toStructure).toStructure
      = (read c.query.toStructure).map fun query => ⟨c.name, c.table, query, c.columns⟩ := by
    simp [ofStructureWith, toStructure, map, Json.record_eq, required, optional_eq,
      Decoded.bind_ok]
  rw [hspec]
  exact h.map rfl

theorem exists_of_ofStructureWith {read : Json → Decoded QueryParams} {j : Json}
    {c : Cte QueryParams} (h : ofStructureWith read j = .ok c) :
    ∃ k : Json, k.depth < j.depth ∧ read k = .ok c.query := by
  simp only [ofStructureWith, Decoded.bind_eq_ok, Decoded.pure_eq_ok, Except.ok.injEq] at h
  obtain ⟨fields, hfields, name, _, table, _, query, hquery, columns, _, rfl⟩ := h
  obtain ⟨k, hk, hread⟩ := required_eq_ok.1 hquery
  rw [object_eq_ok.1 hfields]
  exact ⟨k, Json.depth_lt_of_get? hk, hread⟩

end Cte

namespace RecursiveCte

theorem acceptedWith {c : RecursiveCte QueryParams} {read : Json → Decoded QueryParams}
    {p q : Prop} (hi : AcceptedIf p c.initial (read c.initial.toStructure))
    (hr : AcceptedIf q c.recursive (read c.recursive.toStructure)) :
    AcceptedIf (p ∧ q) c (ofStructureWith read (c.map QueryParams.toStructure).toStructure) := by
  have hspec : ofStructureWith read (c.map QueryParams.toStructure).toStructure
      = (read c.initial.toStructure >>= fun initial =>
          (read c.recursive.toStructure).map fun recursive =>
            ⟨c.name, initial, c.initialTable, recursive, c.recursiveTable, c.unionAll,
              c.columns⟩) := by
    simp [ofStructureWith, toStructure, map, Json.record_eq, required, optional_eq, orElse_eq,
      Decoded.bind_ok]
  rw [hspec]
  exact hi.bind (hr.map rfl)

theorem exists_of_ofStructureWith {read : Json → Decoded QueryParams} {j : Json}
    {c : RecursiveCte QueryParams} (h : ofStructureWith read j = .ok c) :
    (∃ k : Json, k.depth < j.depth ∧ read k = .ok c.initial) ∧
      ∃ k : Json, k.depth < j.depth ∧ read k = .ok c.recursive := by
  simp only [ofStructureWith, Decoded.bind_eq_ok, Decoded.pure_eq_ok, Except.ok.injEq] at h
  obtain ⟨fields, hfields, name, _, initial, hinitial, initialTable, _, recursive, hrecursive,
    recursiveTable, _, unionAll, _, columns, _, rfl⟩ := h
  obtain ⟨i, hi, hreadi⟩ := required_eq_ok.1 hinitial
  obtain ⟨r, hr, hreadr⟩ := required_eq_ok.1 hrecursive
  rw [object_eq_ok.1 hfields]
  exact ⟨⟨i, Json.depth_lt_of_get? hi, hreadi⟩, ⟨r, Json.depth_lt_of_get? hr, hreadr⟩⟩

end RecursiveCte

namespace QueryParams

variable {α : Type} {fields : Fields Json} {key : String} {read : Json → Decoded α}
  {write : α → Json}

theorem optional_written {o : Option α} (hget : fields.get? key = o.map write)
    (h : ∀ a, read (write a) = .ok a) : optional fields key read = .ok o := by
  rw [optional_eq, hget, readOption_map h]

theorem slotOf_written {slot : Option (List α)} (hget : fields.get? key = listSlot write slot)
    (h : ∀ a, read (write a) = .ok a) : slotOf fields key read = .ok slot :=
  optional_written hget fun _ => listOf_listOf h

theorem slotOf_accepted {slot : Option (List α)} {legal : α → Prop}
    (hget : fields.get? key = listSlot write slot)
    (h : ∀ a ∈ slot.getD [], AcceptedIf (legal a) a (read (write a))) :
    AcceptedIf (∀ a ∈ slot.getD [], legal a) slot (slotOf fields key read) := by
  have hslot : AcceptedIf (∀ as, slot = some as → ∀ a ∈ as, legal a) slot
      (readOption (listOf decodeContext read) (slot.map (Json.listOf write))) := by
    refine AcceptedIf.readOption fun as has => AcceptedIf.listOf decodeContext fun a ha => ?_
    exact h a (by rw [has]; exact ha)
  rw [slotOf, optional_eq, hget]
  apply hslot.congr
  cases slot <;> simp

theorem accepted_of_slots {p : QueryParams} (hget : ∀ s : Slot, fields.get? s.key = p.encodeSlot s)
    (ih : ∀ q ∈ p.embedded, AcceptedIf q.Complete q (ofStructure q.toStructure)) :
    AcceptedIf p.Complete p (ofFieldsWith ofStructure fields) := by
  have hpredicates := slotOf_accepted (hget .predicates) fun q _ => Predicate.accepted q
  have hsubqueries := slotOf_accepted (hget .subqueries) fun s hs =>
    Subquery.acceptedWith (ih s.query (mem_embedded.2 (.inl ⟨s, hs, rfl⟩)))
  have hgroups := slotOf_accepted (hget .groups) fun g _ => BooleanGroup.accepted g
  have hadvanced := slotOf_accepted (hget .advancedWindows) fun w _ =>
    AdvancedWindowSpec.accepted w
  have hctes := slotOf_accepted (hget .ctes) fun c hc =>
    Cte.acceptedWith (ih c.query (mem_embedded.2 (.inr (.inl ⟨c, hc, rfl⟩))))
  have hrecursive := slotOf_accepted (hget .recursiveCtes) fun c hc =>
    RecursiveCte.acceptedWith
      (ih c.initial (mem_embedded.2 (.inr (.inr ⟨c, hc, .inl rfl⟩))))
      (ih c.recursive (mem_embedded.2 (.inr (.inr ⟨c, hc, .inr rfl⟩))))
  have hfilter : optional fields "filter" (valueMap decodeContext) = .ok p.filter :=
    optional_written (hget .filter) (valueMap_toJson _)
  have hranges : slotOf fields "whereBetween" RangeClause.ofStructure = .ok p.ranges :=
    slotOf_written (hget .ranges) RangeClause.ofStructure_toStructure
  have honeOf : slotOf fields "whereIn" SetClause.ofStructure = .ok p.oneOf :=
    slotOf_written (hget .oneOf) SetClause.ofStructure_toStructure
  have hnoneOf : slotOf fields "whereNotIn" SetClause.ofStructure = .ok p.noneOf :=
    slotOf_written (hget .noneOf) SetClause.ofStructure_toStructure
  have hnullness : slotOf fields "whereNull" NullnessClause.ofStructure = .ok p.nullness :=
    slotOf_written (hget .nullness) NullnessClause.ofStructure_toStructure
  have horderBy : slotOf fields "orderBy" OrderSpec.ofStructure = .ok p.orderBy :=
    slotOf_written (hget .orderBy) OrderSpec.ofStructure_toStructure
  have hgroupBy : optional fields "groupBy" (strings decodeContext) = .ok p.groupBy :=
    optional_written (hget .groupBy) (strings_strings _)
  have hhaving : slotOf fields "having" HavingClause.ofStructure = .ok p.having :=
    slotOf_written (hget .having) HavingClause.ofStructure_toStructure
  have haggregates : slotOf fields "aggregates" AggregateSpec.ofStructure = .ok p.aggregates :=
    slotOf_written (hget .aggregates) AggregateSpec.ofStructure_toStructure
  have hwindows : slotOf fields "windows" WindowSpec.ofStructure = .ok p.windows :=
    slotOf_written (hget .windows) WindowSpec.ofStructure_toStructure
  have hraw : slotOf fields "raw" RawExpression.ofStructure = .ok p.raw :=
    slotOf_written (hget .raw) RawExpression.ofStructure_toStructure
  have htransform : optional fields "transform" TransformSpec.ofStructure = .ok p.transform :=
    optional_written (hget .transform) TransformSpec.ofStructure_toStructure
  have hselect : optional fields "select" (strings decodeContext) = .ok p.select :=
    optional_written (hget .select) (strings_strings _)
  have hlimit : optional fields "limit" (unsigned decodeContext) = .ok p.limit :=
    optional_written (hget .limit) (unsigned_unsigned _)
  have hoffset : optional fields "offset" (unsigned decodeContext) = .ok p.offset :=
    optional_written (hget .offset) (unsigned_unsigned _)
  have hexplain : optional fields "explain" ExplainOptions.ofStructure = .ok p.explain :=
    optional_written (hget .explain) ExplainOptions.ofStructure_toStructure
  have hall : AcceptedIf
      ((∀ q ∈ p.predicates.getD [], q.Complete) ∧ (∀ s ∈ p.subqueries.getD [], s.query.Complete) ∧
        (∀ g ∈ p.groups.getD [], g.Complete) ∧ (∀ w ∈ p.advancedWindows.getD [], w.Complete) ∧
        (∀ c ∈ p.ctes.getD [], c.query.Complete) ∧
        (∀ c ∈ p.recursiveCtes.getD [], c.initial.Complete ∧ c.recursive.Complete) ∧ True)
      p (ofFieldsWith ofStructure fields) := by
    simp only [ofFieldsWith, hfilter, hranges, honeOf, hnoneOf, hnullness, horderBy, hgroupBy,
      hhaving, haggregates, hwindows, hraw, htransform, hselect, hlimit, hoffset, hexplain,
      Decoded.ok_bind]
    apply hpredicates.bind
    apply hsubqueries.bind
    apply hgroups.bind
    apply hadvanced.bind
    apply hctes.bind
    apply hrecursive.bind
    exact AcceptedIf.of_ok (by cases p; rfl)
  apply hall.congr
  rw [complete_iff, and_true]

theorem accepted (p : QueryParams) : AcceptedIf p.Complete p (ofStructure p.toStructure) := by
  induction p using induct with
  | embed p ih =>
      have hlayer : ofStructure p.toStructure = ofFieldsWith ofStructure p.fields := by
        rw [ofStructure_eq, toStructure_eq]
        rfl
      rw [hlayer]
      exact accepted_of_slots p.get?_fields ih

theorem accepted_object {p : QueryParams} (hget : ∀ s : Slot, fields.get? s.key = p.encodeSlot s) :
    AcceptedIf p.Complete p (ofStructure (.object fields)) := by
  rw [ofStructure_eq]
  exact accepted_of_slots hget fun q _ => accepted q

theorem exists_of_slotOf {slot : Option (List α)} {a : α} (h : slotOf fields key read = .ok slot)
    (ha : a ∈ slot.getD []) :
    ∃ k : Json, k.depth < (Json.object fields).depth ∧ read k = .ok a := by
  cases slot with
  | none => cases ha
  | some as =>
      obtain ⟨j, hj, hlist⟩ := optional_eq_some.1 h
      obtain ⟨k, hk, hread⟩ := exists_of_listOf hlist ha
      exact ⟨k, Nat.lt_trans hk (Json.depth_lt_of_get? hj), hread⟩

theorem complete_of_layer {read : Json → Decoded QueryParams} {j : Json} {p : QueryParams}
    (hread : ∀ k : Json, k.depth < j.depth → ∀ q, read k = .ok q → q.Complete)
    (h : layer read j = .ok p) : p.Complete := by
  simp only [layer, Decoded.bind_eq_ok] at h
  obtain ⟨fields, hfields, h⟩ := h
  have hslots := ofFieldsWith_eq_ok.1 h
  rw [object_eq_ok.1 hfields] at hread
  rw [complete_iff]
  refine ⟨?_, ?_, ?_, ?_, ?_, ?_⟩
  · intro q hq
    obtain ⟨k, _, hk⟩ := exists_of_slotOf hslots.predicates hq
    exact Predicate.complete_of_ofStructure hk
  · intro s hs
    obtain ⟨k, hdepth, hk⟩ := exists_of_slotOf hslots.subqueries hs
    obtain ⟨i, hi, hquery⟩ := Subquery.exists_of_ofStructureWith hk
    exact hread i (Nat.lt_trans hi hdepth) _ hquery
  · intro g hg
    obtain ⟨k, _, hk⟩ := exists_of_slotOf hslots.groups hg
    exact BooleanGroup.complete_of_ofStructure hk
  · intro w hw
    obtain ⟨k, _, hk⟩ := exists_of_slotOf hslots.advancedWindows hw
    exact AdvancedWindowSpec.complete_of_ofStructure hk
  · intro c hc
    obtain ⟨k, hdepth, hk⟩ := exists_of_slotOf hslots.ctes hc
    obtain ⟨i, hi, hquery⟩ := Cte.exists_of_ofStructureWith hk
    exact hread i (Nat.lt_trans hi hdepth) _ hquery
  · intro c hc
    obtain ⟨k, hdepth, hk⟩ := exists_of_slotOf hslots.recursiveCtes hc
    obtain ⟨⟨i, hi, hinitial⟩, ⟨r, hr, hrecursive⟩⟩ := RecursiveCte.exists_of_ofStructureWith hk
    exact ⟨hread i (Nat.lt_trans hi hdepth) _ hinitial,
      hread r (Nat.lt_trans hr hdepth) _ hrecursive⟩

theorem complete_of_ofStructure {j : Json} {p : QueryParams} (h : ofStructure j = .ok p) :
    p.Complete := by
  have hall : ∀ p, ofStructure j = .ok p → p.Complete :=
    Json.descend_induction (motive := fun _ d => ∀ p, d = .ok p → p.Complete) layer_local
      (fun _ ih _ hp => complete_of_layer ih hp) j
  exact hall p h

end QueryParams

end RemoteQuery
