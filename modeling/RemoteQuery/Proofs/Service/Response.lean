import RemoteQuery.Service.Response
import RemoteQuery.Proofs.Query.RoundTrip

namespace RemoteQuery

open Wire

namespace Response

def Complete (r : Response) : Prop := ∀ p, r.params = some p → p.Complete

theorem readRows_rows (rows : List (Fields Value)) :
    readRows (.listOf Fields.toJson rows) = .ok rows := by
  simp only [readRows, Json.listOf, listOf, items, Decoded.ok_bind]
  exact readAll_map fun row _ => valueMap_toJson "result row" row

theorem accepted (r : Response) : AcceptedIf r.Complete r (ofStructure r.toStructure) := by
  have hparams : AcceptedIf r.Complete r.params
      (readOption QueryParams.ofStructure (r.params.map QueryParams.toStructure)) :=
    AcceptedIf.readOption fun p _ => QueryParams.accepted p
  have hspec : ofStructure r.toStructure
      = (readOption QueryParams.ofStructure (r.params.map QueryParams.toStructure)).map fun params =>
          ⟨r.data, params, r.message, r.error, r.id⟩ := by
    simp [ofStructure, toStructure, ofFields, Json.record_eq, optional_eq, orElse_eq, readRows_rows,
      Decoded.bind_ok]
  rw [hspec]
  exact hparams.map rfl

theorem complete_of_ofStructure {j : Json} {r : Response} (h : ofStructure j = .ok r) :
    r.Complete := by
  intro p hp
  cases j with
  | null =>
      simp only [ofStructure, Except.ok.injEq] at h
      subst h
      cases hp
  | object fields =>
      simp only [ofStructure, object_object, Decoded.ok_bind, ofFields, Decoded.bind_eq_ok,
        Decoded.pure_eq_ok, Except.ok.injEq] at h
      obtain ⟨data, _, params, hparams, message, _, error, _, id, _, rfl⟩ := h
      rw [show params = some p from hp] at hparams
      obtain ⟨k, _, hk⟩ := optional_eq_some.1 hparams
      exact QueryParams.complete_of_ofStructure hk
  | _ => simp [ofStructure, object] at h

end Response

theorem reads_back_iff_complete :
    (∀ p : QueryParams,
      (QueryParams.ofStructure p.toStructure = .ok p ↔
        ∀ c, p.HasPredicate c →
          c.operator = .isNull ∨ c.operator = .isNotNull ∨ c.value.isSome = true) ∧
      ∀ c, p.HasPredicate c → c.operator ≠ .isNull → c.operator ≠ .isNotNull → c.value = none →
        ∃ e, QueryParams.ofStructure p.toStructure = .error e ∧ e.value = "value") ∧
    ∀ r : Response, (∀ p, r.params = some p → p.Complete) →
      Response.ofStructure r.toStructure = .ok r := by
  refine ⟨fun p => ⟨?_, ?_⟩, fun r => (Response.accepted r).accepts⟩
  · rw [(QueryParams.accepted p).ok_iff]
    exact forall₂_congr fun c _ => Predicate.complete_iff
  · intro c hc hnull hnotNull hvalue
    refine ⟨missingValue, (QueryParams.accepted p).refuses fun hp => ?_, rfl⟩
    rcases Predicate.complete_iff.1 (hp c hc) with h | h | h
    · exact hnull h
    · exact hnotNull h
    · rw [hvalue] at h
      cases h

def comparison (value : Option Value) : Predicate := ⟨"age", .greater, value, none⟩

def grouped (value : Option Value) : QueryParams where
  groups := some [⟨.any, [.group .all [.predicate (comparison value)]]⟩]

def correlated (value : Option Value) : QueryParams where
  subqueries := some [{ table := "users", query := grouped value }]

def nested (value : Option Value) : QueryParams where
  ctes := some [{ name := "adults", query := correlated value }]

theorem hasPredicate_nested (value : Option Value) :
    (nested value).HasPredicate (comparison value) := by
  have hgrouped : (grouped value).HasPredicate (comparison value) :=
    .grouped (List.mem_singleton_self _)
      (.within (List.mem_singleton_self _) (.within (List.mem_singleton_self _) .here))
  have hcorrelated : (correlated value).HasPredicate (comparison value) :=
    .embedded (QueryParams.mem_embedded.2 (.inl ⟨_, List.mem_singleton_self _, rfl⟩)) hgrouped
  exact .embedded (QueryParams.mem_embedded.2 (.inr (.inl ⟨_, List.mem_singleton_self _, rfl⟩)))
    hcorrelated

theorem complete_nested (v : Value) : (nested (some v)).Complete := by
  have hgrouped : (grouped (some v)).Complete := by
    rw [QueryParams.complete_iff]
    simp [grouped, BooleanGroup.Complete, Condition.complete_group, Condition.complete_predicate,
      Predicate.Complete, comparison]
  have hcorrelated : (correlated (some v)).Complete := by
    rw [QueryParams.complete_iff]
    simp [correlated, hgrouped]
  rw [QueryParams.complete_iff]
  simp [nested, hcorrelated]

theorem nested_reads_back_with_value_only :
    (∃ e, QueryParams.ofStructure (nested none).toStructure = .error e ∧ e.value = "value") ∧
    Response.ofStructure (Response.toStructure { params := some (nested (some .null)) })
      = .ok { params := some (nested (some .null)) } := by
  constructor
  · exact (reads_back_iff_complete.1 (nested none)).2 (comparison none) (hasPredicate_nested none)
      (by decide) (by decide) rfl
  · apply reads_back_iff_complete.2
    intro p hp
    cases hp
    exact complete_nested .null

end RemoteQuery
