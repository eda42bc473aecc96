import RemoteQuery.Clause.Group
import RemoteQuery.Proofs.Clause.Written
import RemoteQuery.Proofs.Wire.AcceptedIf
import RemoteQuery.Proofs.Wire.Found

namespace RemoteQuery

open Wire

namespace Predicate

theorem complete_iff {p : Predicate} :
    p.Complete ↔ p.operator = .isNull ∨ p.operator = .isNotNull ∨ p.value.isSome = true := by
  obtain ⟨field, operator, value, combinator⟩ := p
  cases operator <;> simp [Complete, Operator.requiresValue]

theorem accepted (p : Predicate) : AcceptedIf p.Complete p (ofStructure p.toStructure) := by
  obtain ⟨field, operator, value, combinator⟩ := p
  simp only [Complete]
  cases value with
  | some v =>
      refine (AcceptedIf.of_ok ?_).congr (p := True) (by simp)
      simp [ofStructure, toStructure, Json.record_eq, required, optional_eq, readValue,
        Value.ofJson_toJson]
  | none =>
      cases hop : operator.requiresValue with
      | true =>
          refine ⟨fun h => by simp at h, fun _ => ?_⟩
          simp [ofStructure, toStructure, Json.record_eq, required, readValue, hop, missingValue]
      | false =>
          refine (AcceptedIf.of_ok ?_).congr (p := True) (by simp)
          simp [ofStructure, toStructure, Json.record_eq, required, optional_eq, readValue, hop]

theorem complete_of_ofStructure {j : Json} {p : Predicate} (h : ofStructure j = .ok p) :
    p.Complete := by
  simp only [ofStructure, Decoded.bind_eq_ok, Decoded.pure_eq_ok, Except.ok.injEq] at h
  obtain ⟨fields, _, operator, _, value, hvalue, field, _, combinator, _, rfl⟩ := h
  intro hop
  simp only [readValue] at hvalue
  cases hget : fields.get? "value" with
  | some j =>
      simp only [hget, Except.ok.injEq] at hvalue
      subst hvalue
      rfl
  | none => simp [hget, hop] at hvalue

end Predicate

namespace AdvancedWindowSpec

def Complete (a : AdvancedWindowSpec) : Prop := ∀ p ∈ a.filters, p.Complete

theorem accepted (a : AdvancedWindowSpec) :
    AcceptedIf a.Complete a (ofStructure a.toStructure) := by
  have hfilters : AcceptedIf a.Complete a.filters
      (readOr [] (listOf "advanced window spec" Predicate.ofStructure)
        (Json.unlessEmpty (.listOf Predicate.toStructure) a.filters)) := by
    cases hf : a.filters with
    | nil =>
        refine (AcceptedIf.of_ok rfl).congr (p := True) ?_
        simp [Complete, hf]
    | cons p rest =>
        have hall : AcceptedIf (∀ q ∈ p :: rest, q.Complete) (p :: rest) _ :=
          AcceptedIf.listOf "advanced window spec" fun q _ => Predicate.accepted q
        exact hall.congr (by simp only [Complete, hf])
  have hspec : ofStructure a.toStructure
      = (readOr [] (listOf "advanced window spec" Predicate.ofStructure)
          (Json.unlessEmpty (.listOf Predicate.toStructure) a.filters)).map
          fun filters => ⟨a.window, filters⟩ := by
    simp [ofStructure, toStructure, Json.record_eq, required, optional_eq, orElse_eq,
      Decoded.bind_ok]
  rw [hspec]
  exact hfilters.map rfl

theorem complete_of_ofStructure {j : Json} {a : AdvancedWindowSpec} (h : ofStructure j = .ok a) :
    a.Complete := by
  simp only [ofStructure, Decoded.bind_eq_ok, Decoded.pure_eq_ok, Except.ok.injEq] at h
  obtain ⟨fields, _, clause, _, function, _, field, _, label, _, args, _, filters, hfilters, rfl⟩ := h
  intro p hp
  rcases orElse_eq_ok.1 hfilters with ⟨_, rfl⟩ | ⟨k, _, hk⟩
  · cases hp
  · obtain ⟨i, _, hi⟩ := exists_of_listOf hk hp
    exact Predicate.complete_of_ofStructure hi

end AdvancedWindowSpec

namespace Condition

@[elab_as_elim] theorem induct {motive : Condition → Prop}
    (predicate : ∀ p, motive (.predicate p))
    (group : ∀ combinator conditions, (∀ c ∈ conditions, motive c) →
      motive (.group combinator conditions)) (c : Condition) : motive c := by
  match c with
  | .predicate p => exact predicate p
  | .group combinator conditions =>
      exact group combinator conditions fun c hc => induct predicate group c
termination_by sizeOf c
decreasing_by
  have := List.sizeOf_lt_of_mem hc
  simp only [Condition.group.sizeOf_spec]
  omega

inductive HasPredicate (p : Predicate) : Condition → Prop
  | here : HasPredicate p (.predicate p)
  | within {combinator : Combinator} {conditions : List Condition} {c : Condition} :
      c ∈ conditions → HasPredicate p c → HasPredicate p (.group combinator conditions)

def Complete (c : Condition) : Prop := ∀ p, c.HasPredicate p → p.Complete

theorem complete_predicate {p : Predicate} : (predicate p).Complete ↔ p.Complete := by
  constructor
  · intro h
    exact h p .here
  · rintro h _ ⟨⟩
    exact h

theorem complete_group {combinator : Combinator} {conditions : List Condition} :
    (group combinator conditions).Complete ↔ ∀ c ∈ conditions, c.Complete := by
  constructor
  · intro h c hc p hp
    exact h p (.within hc hp)
  · intro h p hp
    cases hp with
    | within hc hp => exact h _ hc p hp

end Condition

namespace BooleanGroup

def Complete (g : BooleanGroup) : Prop := ∀ c ∈ g.conditions, c.Complete

theorem acceptedWith (g : BooleanGroup)
    (h : ∀ c ∈ g.conditions, AcceptedIf c.Complete c (Condition.ofStructure c.toStructure)) :
    AcceptedIf g.Complete g (ofStructureWith Condition.ofStructure g.toStructure) := by
  have hgroup : ofStructureWith Condition.ofStructure g.toStructure
      = (listOf "boolean group" Condition.ofStructure
          (.listOf Condition.toStructure g.conditions)).map fun conditions =>
            ⟨g.combinator, conditions⟩ := by
    simp [ofStructureWith, toStructure, toCondition, Condition.toStructure, record, Json.record_eq,
      required, Condition.toStructures_eq_map, Json.listOf, Decoded.bind_ok]
  rw [hgroup]
  exact (AcceptedIf.listOf "boolean group" h).map rfl

theorem completeWith {read : Json → Decoded Condition} {j : Json} {g : BooleanGroup}
    (hread : ∀ k : Json, k.depth < j.depth → ∀ c, read k = .ok c → c.Complete)
    (h : ofStructureWith read j = .ok g) : g.Complete := by
  simp only [ofStructureWith, Decoded.bind_eq_ok, Decoded.pure_eq_ok, Except.ok.injEq] at h
  obtain ⟨fields, hfields, combinator, _, conditions, hconditions, rfl⟩ := h
  obtain ⟨k, hk, hlist⟩ := required_eq_ok.1 hconditions
  intro c hc
  obtain ⟨i, hi, hc⟩ := exists_of_listOf hlist hc
  have hdepth : k.depth < j.depth := by
    rw [object_eq_ok.1 hfields]
    exact Json.depth_lt_of_get? hk
  exact hread i (by omega) c hc

end BooleanGroup

namespace Condition

theorem accepted (c : Condition) : AcceptedIf c.Complete c (ofStructure c.toStructure) := by
  induction c using induct with
  | predicate p =>
      have hlayer : ofStructure (predicate p).toStructure
          = (Predicate.ofStructure p.toStructure).map predicate := by
        rw [ofStructure_eq]
        simp [layer, toStructure, Predicate.toStructure, Json.record_eq, Fields.has,
          Decoded.bind_ok]
      rw [hlayer]
      exact ((Predicate.accepted p).map rfl).congr complete_predicate.symm
  | group combinator conditions ih =>
      have hlayer : ofStructure (group combinator conditions).toStructure
          = (BooleanGroup.ofStructureWith ofStructure
              (BooleanGroup.mk combinator conditions).toStructure).map fun g =>
                group g.combinator g.conditions := by
        rw [ofStructure_eq]
        simp [layer, BooleanGroup.toStructure, BooleanGroup.toCondition, toStructure,
          BooleanGroup.record, Json.record_eq, Fields.has, Decoded.bind_ok]
      rw [hlayer]
      have hgroup := BooleanGroup.acceptedWith ⟨combinator, conditions⟩ ih
      refine (hgroup.map ?_).congr complete_group.symm
      rfl

theorem complete_of_layer {read : Json → Decoded Condition} {j : Json} {c : Condition}
    (hread : ∀ k : Json, k.depth < j.depth → ∀ c, read k = .ok c → c.Complete)
    (h : layer read j = .ok c) : c.Complete := by
  simp only [layer, Decoded.bind_eq_ok] at h
  obtain ⟨fields, _, h⟩ := h
  split at h
  · simp only [Decoded.bind_eq_ok, Decoded.pure_eq_ok, Except.ok.injEq] at h
    obtain ⟨g, hg, rfl⟩ := h
    exact complete_group.2 (BooleanGroup.completeWith hread hg)
  · simp only [Decoded.bind_eq_ok, Decoded.pure_eq_ok, Except.ok.injEq] at h
    obtain ⟨p, hp, rfl⟩ := h
    exact complete_predicate.2 (Predicate.complete_of_ofStructure hp)

theorem complete_of_ofStructure {j : Json} {c : Condition} (h : ofStructure j = .ok c) :
    c.Complete := by
  have hall : ∀ c, ofStructure j = .ok c → c.Complete :=
    Json.descend_induction (motive := fun _ d => ∀ c, d = .ok c → c.Complete) layer_local
      (fun _ ih _ hc => complete_of_layer ih hc) j
  exact hall c h

end Condition

namespace BooleanGroup

theorem accepted (g : BooleanGroup) : AcceptedIf g.Complete g (ofStructure g.toStructure) :=
  acceptedWith g fun c _ => Condition.accepted c

theorem complete_of_ofStructure {j : Json} {g : BooleanGroup} (h : ofStructure j = .ok g) :
    g.Complete :=
  completeWith (fun _ _ _ hc => Condition.complete_of_ofStructure hc) h

end BooleanGroup

end RemoteQuery
