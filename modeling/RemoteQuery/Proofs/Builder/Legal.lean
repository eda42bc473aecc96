import RemoteQuery.Proofs.Builder.Slotwise
import RemoteQuery.Proofs.Query.Legal

namespace RemoteQuery

namespace Shape

def All : (k : Shape) → (k.Item → Prop) → Option k.Content → Prop
  | .keyed _, legal, content => ∀ key a, (content.getD []).get? key = some a → legal (key, a)
  | .listed _, legal, content => ∀ a ∈ content.getD [], legal a
  | .latest _, legal, content => ∀ a, content = some a → legal a

theorem all_put {k : Shape} {legal : k.Item → Prop} {content : Option k.Content} {item : k.Item}
    (h : k.All legal content) (hitem : legal item) : k.All legal (k.put content item) := by
  cases k with
  | keyed α =>
      intro key a ha
      have hget : ((put (.keyed α) content item).getD []).get? key
          = if key = item.1 then some item.2 else (content.getD []).get? key :=
        Fields.get?_insert ..
      rw [hget] at ha
      split at ha
      · rename_i hkey
        cases ha
        exact hkey ▸ hitem
      · exact h key a ha
  | listed α =>
      intro a ha
      rcases List.mem_append.1 ha with ha | ha
      · exact h a ha
      · rw [List.mem_singleton.1 ha]
        exact hitem
  | latest α =>
      rintro a ⟨⟩
      exact hitem

theorem all_foldl_put {k : Shape} {legal : k.Item → Prop} {content : Option k.Content}
    {items : List k.Item} (h : k.All legal content) (hitems : ∀ item ∈ items, legal item) :
    k.All legal (items.foldl k.put content) := by
  induction items generalizing content with
  | nil => exact h
  | cons item rest ih =>
      exact ih (all_put h (hitems item List.mem_cons_self)) fun other hother =>
        hitems other (List.mem_cons_of_mem _ hother)

end Shape

def Slot.LegalItem : (s : Slot) → s.shape.Item → Prop
  | .predicates, p => Predicate.Legal p
  | .groups, g => (BooleanGroup.toCondition g).Legal
  | .advancedWindows, a => AdvancedWindowSpec.Legal a
  | .subqueries, s => (Subquery.query s).Legal
  | .ctes, c => (Cte.query c).Legal
  | .recursiveCtes, c => (RecursiveCte.initial c).Legal ∧ (RecursiveCte.recursive c).Legal
  | _, _ => True

theorem QueryParams.legal_iff_all {q : QueryParams} :
    q.Legal ↔ ∀ s : Slot, s.shape.All s.LegalItem (q.content s) := by
  constructor
  · intro h s
    cases s with
    | predicates => exact h.clauses.predicates
    | groups => exact h.clauses.groups
    | advancedWindows => exact h.clauses.advancedWindows
    | subqueries => exact fun s hs => h.embedded (mem_embedded.2 (.inl ⟨s, hs, rfl⟩))
    | ctes => exact fun c hc => h.embedded (mem_embedded.2 (.inr (.inl ⟨c, hc, rfl⟩)))
    | recursiveCtes =>
        exact fun c hc => ⟨h.embedded (mem_embedded.2 (.inr (.inr ⟨c, hc, .inl rfl⟩))),
          h.embedded (mem_embedded.2 (.inr (.inr ⟨c, hc, .inr rfl⟩)))⟩
    | filter => exact fun _ _ _ => trivial
    | _ => exact fun _ _ => trivial
  · intro h
    refine .intro ⟨h .predicates, h .groups, h .advancedWindows⟩ fun r hr => ?_
    rcases mem_embedded.1 hr with ⟨s, hs, rfl⟩ | ⟨c, hc, rfl⟩ | ⟨c, hc, rfl | rfl⟩
    · exact h .subqueries s hs
    · exact h .ctes c hc
    · exact (h .recursiveCtes c hc).1
    · exact (h .recursiveCtes c hc).2

namespace Builder

theorem mem_drain {order : List String} {filter : Fields Value} {p : Predicate}
    (h : p ∈ (drain order filter).1) : ∃ field value, p = .eq field value := by
  induction order generalizing filter with
  | nil => cases h
  | cons field order ih =>
      cases hget : filter.get? field with
      | none =>
          simp only [drain, hget] at h
          exact ih h
      | some value =>
          simp only [drain, hget] at h
          rcases List.mem_cons.1 h with rfl | h
          · exact ⟨field, value, rfl⟩
          · exact ih h

theorem legal_of_mem_conditions {b : Builder} (h : b.params.Legal) {c : Condition}
    (hc : c ∈ b.conditions) : c.Legal := by
  simp only [conditions, List.mem_append, List.mem_map] at hc
  rcases hc with ((⟨p, hp, rfl⟩ | ⟨entry, -, rfl⟩) | ⟨p, hp, rfl⟩) | ⟨g, hg, rfl⟩
  · obtain ⟨field, value, rfl⟩ := mem_drain hp
    exact .predicate (Predicate.legal_new _ _ _)
  · exact .predicate (Predicate.legal_new _ _ _)
  · exact .predicate (h.clauses.predicates p hp)
  · exact h.clauses.groups g hg

end Builder

namespace Call

def scopes : Call → List (List Call)
  | .orWhere scope | .andWhere scope => [scope]
  | .whereExists _ scope | .whereNotExists _ scope => [scope]
  | .whereExistsJoin _ _ _ scope | .whereNotExistsJoin _ _ _ scope => [scope]
  | .withQuery _ _ calls _ => [calls]
  | .withCte _ scope _ => [scope]
  | .withRecursive _ _ initial _ recursive _ _ => [initial, recursive]
  | _ => []

theorem sizeOf_lt_of_mem_scopes {c : Call} {scope : List Call} (h : scope ∈ c.scopes) :
    sizeOf scope < sizeOf c := by
  cases c with
  | withRecursive name initialTable initial recursiveTable recursive unionAll columns =>
      simp only [Call.withRecursive.sizeOf_spec]
      rcases List.mem_cons.1 h with rfl | h
      · omega
      · rw [List.mem_singleton.1 h]
        omega
  | orWhere | andWhere | whereExists | whereNotExists | whereExistsJoin | whereNotExistsJoin
  | withQuery | withCte =>
      obtain rfl := List.mem_singleton.1 h
      simp +arith
  | _ => cases h

@[elab_as_elim] theorem calls_induct {motive : List Call → Prop}
    (scopes : ∀ calls, (∀ c ∈ calls, ∀ scope ∈ c.scopes, motive scope) → motive calls)
    (calls : List Call) : motive calls :=
  scopes calls fun _ _ scope _ => calls_induct scopes scope
termination_by sizeOf calls
decreasing_by exact Nat.lt_trans (sizeOf_lt_of_mem_scopes ‹_›) (List.sizeOf_lt_of_mem ‹_›)

inductive MadeIn (c : Call) : List Call → Prop
  | here {calls : List Call} : c ∈ calls → MadeIn c calls
  | within {calls scope : List Call} {d : Call} :
      d ∈ calls → scope ∈ d.scopes → MadeIn c scope → MadeIn c calls

theorem madeIn_nil (c : Call) : ¬ MadeIn c [] := by
  rintro (⟨⟨⟩⟩ | ⟨⟨⟩, -, -⟩)

theorem madeIn_cons {c d : Call} {rest : List Call} : MadeIn c (d :: rest) ↔
    c = d ∨ (∃ scope ∈ d.scopes, MadeIn c scope) ∨ MadeIn c rest := by
  constructor
  · intro h
    cases h with
    | here hc => exact (List.mem_cons.1 hc).imp_right fun hc => .inr (.here hc)
    | within hd hscope hc =>
        rcases List.mem_cons.1 hd with rfl | hd
        · exact .inr (.inl ⟨_, hscope, hc⟩)
        · exact .inr (.inr (.within hd hscope hc))
  · rintro (rfl | ⟨scope, hscope, hc⟩ | hc)
    · exact .here List.mem_cons_self
    · exact .within List.mem_cons_self hscope hc
    · cases hc with
      | here hc => exact .here (List.mem_cons_of_mem _ hc)
      | within hd hscope hc => exact .within (List.mem_cons_of_mem _ hd) hscope hc

structure Given (calls : List Call) : Prop where
  predicates : ∀ p, MadeIn (.wherePredicate p) calls → p.Constructed
  windows : ∀ a, MadeIn (.windowAdvanced a) calls → a.Constructed

theorem Given.scope {calls scope : List Call} {c : Call} (h : Given calls) (hc : c ∈ calls)
    (hscope : scope ∈ c.scopes) : Given scope :=
  ⟨fun p hp => h.predicates p (.within hc hscope hp),
    fun a ha => h.windows a (.within hc hscope ha)⟩

theorem legal_comparison (field : String) (operator : Operator) (value : Value)
    (combinator : Option Combinator) : (comparison field operator value combinator).Legal := by
  cases operator <;> rfl

theorem legal_groupWrites {t : String} {combinator : Combinator} {scope : List Call} {w : Write}
    (h : ((Builder.new t).run scope).params.Legal) (hw : w ∈ groupWrites t combinator scope) :
    w.slot.LegalItem w.item := by
  obtain ⟨group, hgroup, rfl⟩ := List.mem_map.1 hw
  cases hconditions : ((Builder.new t).run scope).conditions with
  | nil =>
      rw [hconditions] at hgroup
      cases hgroup
  | cons c rest =>
      rw [hconditions] at hgroup
      obtain rfl := List.mem_singleton.1 hgroup
      refine .group (List.cons_ne_nil c rest) fun d hd => ?_
      exact Builder.legal_of_mem_conditions h (hconditions ▸ hd)

theorem legal_of_mem_writes {t : String} {calls : List Call} {c : Call} {w : Write}
    (hgiven : Given calls) (hc : c ∈ calls)
    (hscopes : ∀ scope ∈ c.scopes, ∀ t, ((Builder.new t).run scope).params.Legal)
    (hw : w ∈ c.writes t) : w.slot.LegalItem w.item := by
  cases c with
  | whereMap entries =>
      obtain ⟨entry, -, rfl⟩ := List.mem_map.1 hw
      trivial
  | whereOp field operator value =>
      obtain rfl := List.mem_singleton.1 hw
      exact legal_comparison field operator value none
  | orWhereOp field operator value =>
      obtain rfl := List.mem_singleton.1 hw
      exact legal_comparison field operator value (some .any)
  | wherePredicate p =>
      obtain rfl := List.mem_singleton.1 hw
      exact (hgiven.predicates p (.here hc)).legal
  | windowAdvanced a =>
      obtain rfl := List.mem_singleton.1 hw
      exact (hgiven.windows a (.here hc)).legal
  | orWhere scope => exact legal_groupWrites (hscopes scope List.mem_cons_self t) hw
  | andWhere scope => exact legal_groupWrites (hscopes scope List.mem_cons_self t) hw
  | whereExists table scope =>
      obtain rfl := List.mem_singleton.1 hw
      exact hscopes scope List.mem_cons_self table
  | whereNotExists table scope =>
      obtain rfl := List.mem_singleton.1 hw
      exact hscopes scope List.mem_cons_self table
  | whereExistsJoin table left right scope =>
      obtain rfl := List.mem_singleton.1 hw
      exact hscopes scope List.mem_cons_self table
  | whereNotExistsJoin table left right scope =>
      obtain rfl := List.mem_singleton.1 hw
      exact hscopes scope List.mem_cons_self table
  | withQuery name table calls columns =>
      obtain rfl := List.mem_singleton.1 hw
      exact hscopes calls List.mem_cons_self table
  | withCte name scope columns =>
      obtain rfl := List.mem_singleton.1 hw
      exact hscopes scope List.mem_cons_self t
  | withRecursive name initialTable initial recursiveTable recursive unionAll columns =>
      obtain rfl := List.mem_singleton.1 hw
      exact ⟨hscopes initial List.mem_cons_self initialTable,
        hscopes recursive (List.mem_cons_of_mem _ List.mem_cons_self) recursiveTable⟩
  | paginate page perPage =>
      rcases List.mem_cons.1 hw with rfl | hw
      · trivial
      · obtain rfl := List.mem_singleton.1 hw
        trivial
  | _ =>
      obtain rfl := List.mem_singleton.1 hw
      trivial

end Call

namespace Builder

theorem legal_run_of_writes {b : Builder} {calls : List Call} (hb : b.params.Legal)
    (h : ∀ c ∈ calls, ∀ w ∈ c.writes b.table, w.slot.LegalItem w.item) :
    (b.run calls).params.Legal := by
  rw [QueryParams.legal_iff_all] at hb ⊢
  intro s
  rw [content_run]
  apply Shape.all_foldl_put (hb s)
  intro item hitem
  obtain ⟨c, hc, hitem⟩ := List.mem_flatMap.1 hitem
  obtain ⟨⟨slot, written⟩, hw, hwritten⟩ := List.mem_filterMap.1 hitem
  rw [Write.item?] at hwritten
  split at hwritten
  · rename_i hslot
    cases hslot
    cases hwritten
    exact h c hc _ hw
  · cases hwritten

theorem legal_run {calls : List Call} (hgiven : Call.Given calls) {b : Builder}
    (hb : b.params.Legal) : (b.run calls).params.Legal := by
  induction calls using Call.calls_induct generalizing b with
  | scopes calls ih =>
      apply legal_run_of_writes hb
      intro c hc w hw
      refine Call.legal_of_mem_writes hgiven hc ?_ hw
      intro scope hscope t
      exact ih c hc scope hscope (hgiven.scope hc hscope) QueryParams.legal_empty

theorem run_legal_on_wire (t : String) (calls : List Call)
    (hpredicates : ∀ p, Call.MadeIn (.wherePredicate p) calls → p.Constructed)
    (hwindows : ∀ a, Call.MadeIn (.windowAdvanced a) calls → a.Constructed) :
    let params := ((new t).run calls).params
    (∀ p, params.HasPredicate p →
      (p.value.isSome = true ↔ p.operator ≠ .isNull ∧ p.operator ≠ .isNotNull)) ∧
    (∀ g, params.HasGroup g → g.conditions ≠ []) ∧
    QueryParams.ofStructure params.toStructure = .ok params ∧
    ∀ q, params.Reaches q → QueryParams.ofStructure q.toStructure = .ok q := by
  intro params
  have hlegal : params.Legal := legal_run ⟨hpredicates, hwindows⟩ QueryParams.legal_empty
  refine ⟨?_, fun g hg => hlegal.of_hasGroup hg, hlegal.reads_back, ?_⟩
  · intro p hp
    exact Predicate.legal_iff.1 (hlegal.of_hasPredicate hp)
  · intro q hq
    exact (hlegal.of_reaches hq).reads_back

theorem run_legal_on_wire_nested :
    let ranked : AdvancedWindowSpec := {
      window := { function := .rank, «alias» := "place" }
      filters := [.new "place" .less (.bool true)] }
    let top := [Call.windowAdvanced ranked]
    let calls := [Call.orWhere [.whereOp "deleted" .isNull (.bool true), .andWhere [.limit 3]],
      .withCte "top" top none, .wherePredicate ((Predicate.isNull "name").withCombinator .any)]
    let params := ((new "users").run calls).params
    let inner := ((new "users").run top).params
    params.groups = some [⟨.any, [.predicate ⟨"deleted", .isNull, none, none⟩]⟩] ∧
      QueryParams.ofStructure params.toStructure = .ok params ∧
      QueryParams.ofStructure inner.toStructure = .ok inner := by
  intro ranked top calls params inner
  have hpredicates : ∀ p, Call.MadeIn (.wherePredicate p) calls → p.Constructed := by
    intro p hp
    have hname : p = (Predicate.isNull "name").withCombinator .any := by
      simpa [calls, top, Call.madeIn_cons, Call.madeIn_nil, Call.scopes] using hp
    rw [hname]
    exact .withCombinator .any (.new "name" .isNull .null)
  have hwindows : ∀ a, Call.MadeIn (.windowAdvanced a) calls → a.Constructed := by
    intro a ha
    have hranked : a = ranked := by
      simpa [calls, top, Call.madeIn_cons, Call.madeIn_nil, Call.scopes] using ha
    rw [hranked]
    exact .filter (.new _) (.new "place" .less (.bool true))
  obtain ⟨-, -, hparams, hembedded⟩ := run_legal_on_wire "users" calls hpredicates hwindows
  refine ⟨rfl, hparams, hembedded inner (.single ?_)⟩
  exact QueryParams.mem_embedded.2 (.inr (.inl ⟨_, List.mem_cons_self, rfl⟩))

end Builder

end RemoteQuery
