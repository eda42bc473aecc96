import RemoteQuery.Proofs.Builder.Groups

namespace RemoteQuery.Builder

/-- A builder that calls can make, with the equality filters written to it, one after another. A scope
is any function that makes such a builder of the one it is given, and a builder may be used again. -/
inductive Reachable : Builder → List (String × Value) → Prop
  | new (table : String) : Reachable (new table) []
  | scope {b : Builder} {history : List (String × Value)} :
      Reachable b history → Reachable b.scope []
  | call {b : Builder} {history : List (String × Value)} (c : Call) :
      Reachable b history → Reachable (b.call c) (history ++ c.equated)
  | whereGroup {b : Builder} {history inner : List (String × Value)} {within : Builder → Builder}
      (combinator : Combinator) :
      Reachable b history → Reachable (within b.scope) inner →
        Reachable (b.whereGroup combinator within) history
  | whereSubquery {b : Builder} {history inner : List (String × Value)}
      {within : Builder → Builder} (table : String) (on : Option JoinCondition) (negated : Bool) :
      Reachable b history → Reachable (within (.new table)) inner →
        Reachable (b.whereSubquery table on negated within) history
  -- A scope's expression, `withCte`, is this one with what the scope makes as the source.
  | withQuery {b source : Builder} {history inner : List (String × Value)} (name : String)
      (columns : Option (List String)) :
      Reachable b history → Reachable source inner →
        Reachable (b.withQuery name source columns) history
  | withRecursive {b initial recursive : Builder} {history first second : List (String × Value)}
      (name : String) (unionAll : Bool) (columns : Option (List String)) :
      Reachable b history → Reachable initial first → Reachable recursive second →
        Reachable (b.withRecursive name initial recursive unionAll columns) history

variable {b d : Builder} {history : List (String × Value)}

theorem Reachable.run (h : b.Reachable history) (calls : List Call) :
    (b.run calls).Reachable (history ++ calls.flatMap Call.equated) := by
  induction calls generalizing b history with
  | nil => simpa [Builder.run] using h
  | cons c rest ih => simpa [Builder.run] using ih (h.call c)

theorem reachable_run_new (t : String) (calls : List Call) :
    ((new t).run calls).Reachable (calls.flatMap Call.equated) := (Reachable.new t).run calls

theorem Keeps.of_eq (h : b.Keeps history) (hfilter : d.params.filter = b.params.filter)
    (horder : d.filterOrder = b.filterOrder) : d.Keeps history :=
  ⟨hfilter.trans h.filter, horder.trans h.order⟩

theorem Keeps.call (h : b.Keeps history) (c : Call) : (b.call c).Keeps (history ++ c.equated) := by
  simpa [Builder.run] using h.run [c]

theorem Keeps.whereGroup (h : b.Keeps history) (combinator : Combinator)
    (within : Builder → Builder) : (b.whereGroup combinator within).Keeps history := by
  rw [Builder.whereGroup]
  split
  · exact h
  · exact h.of_eq rfl rfl

theorem Reachable.keeps (h : b.Reachable history) : b.Keeps history := by
  induction h with
  | new table => exact keeps_new table
  | @scope b _ _ _ => exact keeps_new b.table
  | call c _ ih => exact ih.call c
  | whereGroup combinator _ _ ih _ => exact ih.whereGroup combinator _
  | whereSubquery table on negated _ _ ih _ => exact ih.of_eq rfl rfl
  | withQuery name columns _ _ ih _ => exact ih.of_eq rfl rfl
  | withRecursive name unionAll columns _ _ _ ih _ _ => exact ih.of_eq rfl rfl

theorem Keeps.mem_order_iff (h : b.Keeps history) {field : String} :
    field ∈ b.filterOrder ↔ field ∈ (b.params.filter.getD []).keys := by
  rw [h.order, List.mem_eraseDups, ← isSome_lookup_reverse, ← h.get?_filter, Fields.isSome_get?_iff]

theorem Keeps.order_perm_keys (h : b.Keeps history) :
    b.filterOrder.Perm (b.params.filter.getD []).keys := by
  have hnodup : (b.params.filter.getD []).keys.Nodup := by
    rw [h.getD_filter]
    exact Fields.nodup_keys_of_sorted (Fields.sorted_ofPairs history)
  exact (List.perm_ext_iff_of_nodup h.nodup_order hnodup).2 fun field => h.mem_order_iff

theorem Keeps.filter_eq_none_iff (h : b.Keeps history) :
    b.params.filter = none ↔ b.filterOrder = [] := by
  rw [h.filter, Shape.collect_eq_none, h.order]
  cases history <;> simp [List.eraseDups_cons]

theorem filterOrder_in_step (h : b.Reachable history) :
    b.filterOrder.Nodup ∧
    b.filterOrder.Perm (b.params.filter.getD []).keys ∧
    b.filterOrder = (history.map Prod.fst).eraseDups ∧
    (b.params.filter = none ↔ b.filterOrder = []) ∧
    b.leftover = [] ∧
    ∀ combinator, (b.toGroup combinator).conditions
      = b.equalities.map .predicate
        ++ (b.params.predicates.getD []).map .predicate
        ++ (b.params.groups.getD []).map BooleanGroup.toCondition := by
  have hkeeps := h.keeps
  refine ⟨hkeeps.nodup_order, hkeeps.order_perm_keys, hkeeps.order, hkeeps.filter_eq_none_iff,
    hkeeps.leftover_eq, fun _ => ?_⟩
  rw [toGroup, hkeeps.conditions_eq, hkeeps.equalities_eq]

theorem filterOrder_in_step_reused :
    let original := (new "users").run
      [.whereEq "b" .null, .whereMap [("a", .bool true), ("b", .bool false)], .whereMap []]
    let reused := (original.whereGroup .any fun _ => original).withQuery "copy" original none
    reused.Reachable [("b", .null), ("a", .bool true), ("b", .bool false)] ∧
      reused.filterOrder = ["b", "a"] ∧ reused.leftover = [] := by
  intro original reused
  have horiginal : original.Reachable [("b", .null), ("a", .bool true), ("b", .bool false)] :=
    reachable_run_new "users" _
  have hgrouped : (original.whereGroup .any fun _ => original).Reachable _ :=
    horiginal.whereGroup .any horiginal
  have hreused := hgrouped.withQuery "copy" none horiginal
  obtain ⟨-, -, horder, -, hleftover, -⟩ := filterOrder_in_step hreused
  exact ⟨hreused, horder, hleftover⟩

end RemoteQuery.Builder
