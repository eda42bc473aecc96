import Mathlib.Logic.Relation
import RemoteQuery.Proofs.Query.RoundTrip

namespace RemoteQuery

namespace Predicate

inductive Constructed : Predicate → Prop
  | new (field : String) (operator : Operator) (value : Value) :
      Constructed (.new field operator value)
  | withCombinator {p : Predicate} (combinator : Combinator) :
      Constructed p → Constructed (p.withCombinator combinator)

def Legal (p : Predicate) : Prop := p.value.isSome = p.operator.requiresValue

theorem legal_new (field : String) (operator : Operator) (value : Value) :
    (new field operator value).Legal := by
  cases operator <;> rfl

theorem legal_withCombinator {p : Predicate} (h : p.Legal) (combinator : Combinator) :
    (p.withCombinator combinator).Legal := h

theorem Constructed.legal {p : Predicate} (h : p.Constructed) : p.Legal := by
  induction h with
  | new field operator value => exact legal_new field operator value
  | withCombinator combinator _ ih => exact legal_withCombinator ih combinator

theorem legal_iff {p : Predicate} :
    p.Legal ↔ (p.value.isSome = true ↔ p.operator ≠ .isNull ∧ p.operator ≠ .isNotNull) := by
  obtain ⟨field, operator, value, combinator⟩ := p
  cases operator <;> simp [Legal, Operator.requiresValue]

theorem Legal.complete {p : Predicate} (h : p.Legal) : p.Complete := fun hop => h.trans hop

end Predicate

namespace AdvancedWindowSpec

inductive Constructed : AdvancedWindowSpec → Prop
  | new (w : WindowSpec) : Constructed { window := w }
  | filter {a : AdvancedWindowSpec} {p : Predicate} :
      Constructed a → p.Constructed → Constructed { a with filters := a.filters ++ [p] }

def Legal (a : AdvancedWindowSpec) : Prop := ∀ p ∈ a.filters, p.Legal

theorem Constructed.legal {a : AdvancedWindowSpec} (h : a.Constructed) : a.Legal := by
  induction h with
  | new w =>
      rintro p ⟨⟩
  | filter _ hp ih =>
      intro q hq
      rcases List.mem_append.1 hq with hq | hq
      · exact ih q hq
      · rw [List.mem_singleton.1 hq]
        exact hp.legal

end AdvancedWindowSpec

namespace Condition

inductive HasGroup (g : BooleanGroup) : Condition → Prop
  | here : HasGroup g (.group g.combinator g.conditions)
  | within {combinator : Combinator} {conditions : List Condition} {c : Condition} :
      c ∈ conditions → HasGroup g c → HasGroup g (.group combinator conditions)

inductive Legal : Condition → Prop
  | predicate {p : Predicate} : p.Legal → Legal (.predicate p)
  | group {combinator : Combinator} {conditions : List Condition} :
      conditions ≠ [] → (∀ c ∈ conditions, Legal c) → Legal (.group combinator conditions)

theorem Legal.of_hasPredicate {c : Condition} (h : c.Legal) {p : Predicate}
    (hp : c.HasPredicate p) : p.Legal := by
  induction hp with
  | here =>
      cases h with
      | predicate hp => exact hp
  | within hc _ ih =>
      cases h with
      | group _ hall => exact ih (hall _ hc)

theorem Legal.of_hasGroup {c : Condition} (h : c.Legal) {g : BooleanGroup} (hg : c.HasGroup g) :
    g.conditions ≠ [] := by
  induction hg with
  | here =>
      cases h with
      | group hne _ => exact hne
  | within hc _ ih =>
      cases h with
      | group _ hall => exact ih (hall _ hc)

end Condition

namespace QueryParams

inductive HasGroup (g : BooleanGroup) : QueryParams → Prop
  | own {q : QueryParams} {h : BooleanGroup} :
      h ∈ q.groups.getD [] → h.toCondition.HasGroup g → HasGroup g q
  | embedded {q r : QueryParams} : r ∈ q.embedded → HasGroup g r → HasGroup g q

structure LegalClauses (q : QueryParams) : Prop where
  predicates : ∀ p ∈ q.predicates.getD [], p.Legal
  groups : ∀ g ∈ q.groups.getD [], g.toCondition.Legal
  advancedWindows : ∀ a ∈ q.advancedWindows.getD [], a.Legal

inductive Legal : QueryParams → Prop
  | intro {q : QueryParams} : q.LegalClauses → (∀ r ∈ q.embedded, r.Legal) → q.Legal

theorem Legal.clauses {q : QueryParams} (h : q.Legal) : q.LegalClauses := by
  cases h with
  | intro hclauses _ => exact hclauses

theorem Legal.embedded {q r : QueryParams} (h : q.Legal) (hr : r ∈ q.embedded) : r.Legal := by
  cases h with
  | intro _ hembedded => exact hembedded r hr

def Reaches : QueryParams → QueryParams → Prop :=
  Relation.ReflTransGen fun outer inner => inner ∈ outer.embedded

theorem Legal.of_reaches {q r : QueryParams} (h : q.Legal) (hr : q.Reaches r) : r.Legal := by
  induction hr with
  | refl => exact h
  | tail _ hr ih => exact ih.embedded hr

theorem Legal.of_hasPredicate {q : QueryParams} (h : q.Legal) {p : Predicate}
    (hp : q.HasPredicate p) : p.Legal := by
  induction hp with
  | explicit hp => exact h.clauses.predicates p hp
  | grouped hg hp => exact (h.clauses.groups _ hg).of_hasPredicate hp
  | windowed ha hp => exact h.clauses.advancedWindows _ ha p hp
  | embedded hr _ ih => exact ih (h.embedded hr)

theorem Legal.of_hasGroup {q : QueryParams} (h : q.Legal) {g : BooleanGroup}
    (hg : q.HasGroup g) : g.conditions ≠ [] := by
  induction hg with
  | own hh hg => exact (h.clauses.groups _ hh).of_hasGroup hg
  | embedded hr _ ih => exact ih (h.embedded hr)

theorem Legal.reads_back {q : QueryParams} (h : q.Legal) : ofStructure q.toStructure = .ok q :=
  (accepted q).accepts fun _ hp => (h.of_hasPredicate hp).complete

theorem legal_empty : ({} : QueryParams).Legal := by
  refine .intro ⟨?_, ?_, ?_⟩ ?_
  · rintro p ⟨⟩
  · rintro g ⟨⟩
  · rintro a ⟨⟩
  · rintro r ⟨⟩

end QueryParams

end RemoteQuery
