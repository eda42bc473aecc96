import RemoteQuery.Query.Params
import RemoteQuery.Proofs.Clause.Complete

namespace RemoteQuery.QueryParams

def embedded (p : QueryParams) : List QueryParams :=
  (p.subqueries.getD []).map Subquery.query ++ (p.ctes.getD []).map Cte.query
    ++ (p.recursiveCtes.getD []).flatMap fun c => [c.initial, c.recursive]

theorem mem_embedded {p q : QueryParams} : q ∈ p.embedded ↔
    (∃ s ∈ p.subqueries.getD [], s.query = q) ∨ (∃ c ∈ p.ctes.getD [], c.query = q) ∨
      ∃ c ∈ p.recursiveCtes.getD [], c.initial = q ∨ c.recursive = q := by
  simp only [embedded, List.mem_append, List.mem_map, List.mem_flatMap, List.mem_cons,
    List.not_mem_nil, or_false, or_assoc, eq_comm]

theorem sizeOf_lt_of_mem_getD {α : Type} [SizeOf α] {slot : Option (List α)} {a : α}
    (h : a ∈ slot.getD []) : sizeOf a < sizeOf slot := by
  cases slot with
  | none => cases h
  | some as =>
      have : sizeOf a < sizeOf as := List.sizeOf_lt_of_mem h
      simp only [Option.some.sizeOf_spec]
      omega

theorem sizeOf_lt_of_mem_embedded {p q : QueryParams} (h : q ∈ p.embedded) :
    sizeOf q < sizeOf p := by
  have hp : sizeOf p.subqueries + sizeOf p.ctes + sizeOf p.recursiveCtes < sizeOf p := by
    cases p
    simp only [QueryParams.mk.sizeOf_spec]
    omega
  rcases mem_embedded.1 h with ⟨s, hs, rfl⟩ | ⟨c, hc, rfl⟩ | ⟨c, hc, hq⟩
  · have := sizeOf_lt_of_mem_getD hs
    have : sizeOf s.query < sizeOf s := by cases s; simp only [Subquery.mk.sizeOf_spec]; omega
    omega
  · have := sizeOf_lt_of_mem_getD hc
    have : sizeOf c.query < sizeOf c := by cases c; simp only [Cte.mk.sizeOf_spec]; omega
    omega
  · have := sizeOf_lt_of_mem_getD hc
    have : sizeOf c.initial < sizeOf c ∧ sizeOf c.recursive < sizeOf c := by
      cases c
      simp only [RecursiveCte.mk.sizeOf_spec]
      omega
    rcases hq with rfl | rfl <;> omega

@[elab_as_elim] theorem induct {motive : QueryParams → Prop}
    (embed : ∀ p, (∀ q ∈ p.embedded, motive q) → motive p) (p : QueryParams) : motive p :=
  embed p fun q _ => induct embed q
termination_by sizeOf p
decreasing_by exact sizeOf_lt_of_mem_embedded ‹_›

inductive HasPredicate (p : Predicate) : QueryParams → Prop
  | explicit {q : QueryParams} : p ∈ q.predicates.getD [] → HasPredicate p q
  | grouped {q : QueryParams} {g : BooleanGroup} :
      g ∈ q.groups.getD [] → g.toCondition.HasPredicate p → HasPredicate p q
  | windowed {q : QueryParams} {w : AdvancedWindowSpec} :
      w ∈ q.advancedWindows.getD [] → p ∈ w.filters → HasPredicate p q
  | embedded {q r : QueryParams} : r ∈ q.embedded → HasPredicate p r → HasPredicate p q

def Complete (q : QueryParams) : Prop := ∀ p, q.HasPredicate p → p.Complete

theorem complete_iff {q : QueryParams} : q.Complete ↔
    (∀ p ∈ q.predicates.getD [], p.Complete) ∧ (∀ s ∈ q.subqueries.getD [], s.query.Complete) ∧
      (∀ g ∈ q.groups.getD [], g.Complete) ∧ (∀ w ∈ q.advancedWindows.getD [], w.Complete) ∧
      (∀ c ∈ q.ctes.getD [], c.query.Complete) ∧
      ∀ c ∈ q.recursiveCtes.getD [], c.initial.Complete ∧ c.recursive.Complete := by
  constructor
  · intro h
    have hembedded : ∀ r ∈ q.embedded, r.Complete := fun r hr p hp => h p (.embedded hr hp)
    refine ⟨fun p hp => h p (.explicit hp), ?_, ?_, ?_, ?_, ?_⟩
    · intro s hs
      exact hembedded _ (mem_embedded.2 (.inl ⟨s, hs, rfl⟩))
    · intro g hg c hc p hp
      exact h p (.grouped hg (.within hc hp))
    · intro w hw p hp
      exact h p (.windowed hw hp)
    · intro c hc
      exact hembedded _ (mem_embedded.2 (.inr (.inl ⟨c, hc, rfl⟩)))
    · intro c hc
      exact ⟨hembedded _ (mem_embedded.2 (.inr (.inr ⟨c, hc, .inl rfl⟩))),
        hembedded _ (mem_embedded.2 (.inr (.inr ⟨c, hc, .inr rfl⟩)))⟩
  · rintro ⟨hexplicit, hsubqueries, hgroups, hwindows, hctes, hrecursive⟩ p hp
    cases hp with
    | explicit hp => exact hexplicit p hp
    | grouped hg hp => exact Condition.complete_group.2 (hgroups _ hg) p hp
    | windowed hw hp => exact hwindows _ hw p hp
    | embedded hr hp =>
        rcases mem_embedded.1 hr with ⟨s, hs, rfl⟩ | ⟨c, hc, rfl⟩ | ⟨c, hc, rfl | rfl⟩
        · exact hsubqueries s hs p hp
        · exact hctes c hc p hp
        · exact (hrecursive c hc).1 p hp
        · exact (hrecursive c hc).2 p hp

end RemoteQuery.QueryParams
