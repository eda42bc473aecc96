import Mathlib.Data.List.Basic
import RemoteQuery.Proofs.Builder.Writes

namespace RemoteQuery

namespace Call

def items (t : String) (s : Slot) (c : Call) : List s.shape.Item :=
  (c.writes t).filterMap (Write.item? s)

/-- The slots that a call addresses, though it may write nothing there. -/
def slots : Call → List Slot
  | .whereEq .. | .whereMap _ => [.filter]
  | .whereOp .. | .orWhereOp .. | .wherePredicate _ => [.predicates]
  | .whereBetween .. => [.ranges]
  | .whereIn .. => [.oneOf]
  | .whereNotIn .. => [.noneOf]
  | .whereNull _ | .whereNotNull _ => [.nullness]
  | .orWhere _ | .andWhere _ => [.groups]
  | .whereExists .. | .whereNotExists .. | .whereExistsJoin .. | .whereNotExistsJoin .. =>
      [.subqueries]
  | .groupBy _ => [.groupBy]
  | .select _ => [.select]
  | .having .. => [.having]
  | .aggregate _ | .aggregateOf .. => [.aggregates]
  | .orderBy .. | .orderByNulls .. => [.orderBy]
  | .limit _ => [.limit]
  | .offset _ => [.offset]
  | .paginate .. => [.limit, .offset]
  | .window _ | .rowNumber .. | .rank .. | .lag .. | .lead .. => [.windows]
  | .windowAdvanced _ => [.advancedWindows]
  | .withQuery .. | .withCte .. => [.ctes]
  | .withRecursive .. => [.recursiveCtes]
  | .transform _ | .pivot .. | .compute _ => [.transform]
  | .raw _ | .rawWithBindings .. => [.raw]
  | .explain _ => [.explain]

variable {t : String} {s : Slot} {c : Call}

theorem slot_mem_slots {w : Write} (h : w ∈ c.writes t) : w.slot ∈ c.slots := by
  have hgroup : ∀ {combinator scope}, w ∈ groupWrites t combinator scope → w.slot = .groups := by
    intro combinator scope h
    obtain ⟨group, -, rfl⟩ := List.mem_map.1 h
    rfl
  cases c with
  | whereMap entries =>
      obtain ⟨entry, -, rfl⟩ := List.mem_map.1 h
      exact List.mem_singleton.2 rfl
  | orWhere scope => exact List.mem_singleton.2 (hgroup h)
  | andWhere scope => exact List.mem_singleton.2 (hgroup h)
  | paginate page perPage =>
      rcases List.mem_cons.1 h with rfl | h
      · exact List.mem_cons_self
      · rw [List.mem_singleton.1 h]
        exact List.mem_cons_of_mem _ List.mem_cons_self
  | _ => exact List.mem_singleton.2 (congrArg Write.slot (List.mem_singleton.1 h))

theorem items_eq_nil (h : s ∉ c.slots) : c.items t s = [] := by
  rw [items, List.filterMap_eq_nil_iff]
  intro w hw
  exact Write.item?_of_ne fun hs => h (hs ▸ slot_mem_slots hw)

theorem exists_items_eq (h : s ∈ c.slots) (hfilter : s ≠ .filter) (hgroups : s ≠ .groups) :
    ∃ item, c.items t s = [item] := by
  cases c with
  | whereEq | whereMap => exact absurd (List.mem_singleton.1 h) hfilter
  | orWhere | andWhere => exact absurd (List.mem_singleton.1 h) hgroups
  | paginate page perPage =>
      rcases List.mem_cons.1 h with rfl | h
      · exact ⟨_, rfl⟩
      · obtain rfl := List.mem_singleton.1 h
        exact ⟨_, rfl⟩
  | _ =>
      obtain rfl := List.mem_singleton.1 h
      exact ⟨_, rfl⟩

theorem flatMap_items_filter (t : String) (s : Slot) (calls : List Call) :
    (calls.filter fun c => s ∈ c.slots).flatMap (items t s) = calls.flatMap (items t s) := by
  induction calls with
  | nil => rfl
  | cons c rest ih =>
      by_cases h : s ∈ c.slots
      · rw [List.filter_cons_of_pos (by simpa using h), List.flatMap_cons, List.flatMap_cons, ih]
      · rw [List.filter_cons_of_neg (by simpa using h), List.flatMap_cons, items_eq_nil h, ih]
        rfl

theorem forall₂_items {calls : List Call} (h : ∀ c ∈ calls, s ∈ c.slots) (hfilter : s ≠ .filter)
    (hgroups : s ≠ .groups) :
    List.Forall₂ (fun c item => c.items t s = [item]) calls (calls.flatMap (items t s)) := by
  induction calls with
  | nil => exact .nil
  | cons c rest ih =>
      obtain ⟨item, hitem⟩ := exists_items_eq (t := t) (h c List.mem_cons_self) hfilter hgroups
      rw [List.flatMap_cons, hitem]
      exact .cons hitem (ih fun d hd => h d (List.mem_cons_of_mem _ hd))

end Call

namespace Builder

theorem content_run (b : Builder) (calls : List Call) (s : Slot) :
    (b.run calls).params.content s
      = (calls.flatMap (Call.items b.table s)).foldl s.shape.put (b.params.content s) := by
  rw [run_eq, content_foldl_write, List.filterMap_flatMap]
  rfl

theorem filterOrder_run (b : Builder) (calls : List Call) :
    (b.run calls).filterOrder
      = (calls.flatMap (Call.items b.table .filter)).foldl note b.filterOrder := by
  rw [run_eq, filterOrder_foldl_write, List.filterMap_flatMap]
  rfl

theorem ext_content {b c : Builder} (htable : b.table = c.table)
    (hcontent : ∀ s, b.params.content s = c.params.content s)
    (horder : b.filterOrder = c.filterOrder) : b = c := by
  have hparams := QueryParams.ext_content hcontent
  cases b
  cases c
  cases htable
  cases hparams
  cases horder
  rfl

theorem run_congr {b : Builder} {cs ds : List Call}
    (h : ∀ s, cs.flatMap (Call.items b.table s) = ds.flatMap (Call.items b.table s)) :
    b.run cs = b.run ds := by
  apply ext_content
  · rw [table_run, table_run]
  · intro s
    rw [content_run, content_run, h]
  · rw [filterOrder_run, filterOrder_run, h]

theorem run_swap (b : Builder) {c d : Call} (rest : List Call) (h : c.slots.Disjoint d.slots) :
    b.run (c :: d :: rest) = b.run (d :: c :: rest) := by
  apply run_congr
  intro s
  simp only [List.flatMap_cons]
  -- In each slot one of the two writes nothing.
  by_cases hc : s ∈ c.slots
  · rw [Call.items_eq_nil (h hc), List.nil_append, List.nil_append]
  · rw [Call.items_eq_nil hc, List.nil_append, List.nil_append]

end Builder

inductive Opens : (List Call → Call) → Prop
  | orWhere : Opens .orWhere
  | andWhere : Opens .andWhere
  | whereExists (table) : Opens (.whereExists table)
  | whereNotExists (table) : Opens (.whereNotExists table)
  | whereExistsJoin (table left right) : Opens (.whereExistsJoin table left right)
  | whereNotExistsJoin (table left right) : Opens (.whereNotExistsJoin table left right)
  | withQuery (name table columns) : Opens (.withQuery name table · columns)
  | withCte (name columns) : Opens (.withCte name · columns)
  | initial (name table recursiveTable recursive unionAll columns) :
      Opens (.withRecursive name table · recursiveTable recursive unionAll columns)
  | recursive (name initialTable initial table unionAll columns) :
      Opens (.withRecursive name initialTable initial table · unionAll columns)

inductive Swapped : List Call → List Call → Prop
  | here {c d : Call} (rest : List Call) (h : c.slots.Disjoint d.slots) :
      Swapped (c :: d :: rest) (d :: c :: rest)
  | later (c : Call) {cs ds : List Call} (h : Swapped cs ds) : Swapped (c :: cs) (c :: ds)
  | within {opening : List Call → Call} (ho : Opens opening) (rest : List Call)
      {cs ds : List Call} (h : Swapped cs ds) : Swapped (opening cs :: rest) (opening ds :: rest)

namespace Builder

theorem call_opening {opening : List Call → Call} (ho : Opens opening) {cs ds : List Call}
    (h : ∀ b : Builder, b.run cs = b.run ds) (b : Builder) :
    b.call (opening cs) = b.call (opening ds) := by
  cases ho <;> simp only [call, h]

theorem run_swapped {cs ds : List Call} (h : Swapped cs ds) (b : Builder) :
    b.run cs = b.run ds := by
  induction h generalizing b with
  | here rest h => exact run_swap b rest h
  | later c _ ih => exact ih (b.call c)
  | within ho rest _ ih => rw [run, run, call_opening ho ih]

theorem content_run_new (t : String) (calls : List Call) (s : Slot) :
    ((new t).run calls).params.content s
      = s.shape.collect (calls.flatMap (Call.items t s)) := by
  have hempty : (new t).params.content s = none := QueryParams.content_empty s
  rw [content_run, hempty, Shape.foldl_put]
  rfl

theorem get?_filter_run_new (t : String) (calls : List Call) (field : String) :
    (((new t).run calls).params.filter.getD []).get? field
      = (calls.flatMap (Call.items t .filter)).reverse.lookup field := by
  have hfilter : ((new t).run calls).params.filter
      = Slot.filter.shape.collect (calls.flatMap (Call.items t .filter)) :=
    content_run_new t calls .filter
  rw [hfilter, Shape.getD_collect_keyed, Fields.get?_ofPairs]

theorem run_slotwise (t : String) (calls : List Call) :
    ((new t).run calls).table = t ∧
    (∀ s : Slot,
      let addressing := calls.filter fun c => s ∈ c.slots
      let written := addressing.flatMap (Call.items t s)
      ((new t).run calls).params.content s = s.shape.collect written ∧
      (((new t).run calls).params.content s = none ↔ written = []) ∧
      (s ≠ .filter → s ≠ .groups →
        List.Forall₂ (fun c item => c.items t s = [item]) addressing written) ∧
      ((new t).run addressing).params.content s = ((new t).run calls).params.content s ∧
      ∀ b : Builder, b.table = t →
        (b.run calls).params.content s = written.foldl s.shape.put (b.params.content s)) ∧
    (∀ field, (((new t).run calls).params.filter.getD []).get? field
      = (calls.flatMap (Call.items t .filter)).reverse.lookup field) ∧
    (∀ swapped, Swapped calls swapped →
      ((new t).run swapped).params = ((new t).run calls).params ∧
      ((new t).run swapped).params.toStructure = ((new t).run calls).params.toStructure) := by
  refine ⟨table_run _ _, fun s => ?_, get?_filter_run_new t calls, fun swapped h => ?_⟩
  · intro addressing written
    have hwritten : written = calls.flatMap (Call.items t s) := Call.flatMap_items_filter t s calls
    have hcontent := content_run_new t calls s
    rw [← hwritten] at hcontent
    refine ⟨hcontent, ?_, ?_, ?_, ?_⟩
    · rw [hcontent, Shape.collect_eq_none]
    · intro hfilter hgroups
      have haddresses : ∀ c ∈ addressing, s ∈ c.slots := fun c hc =>
        of_decide_eq_true (List.mem_filter.1 hc).2
      exact Call.forall₂_items haddresses hfilter hgroups
    · rw [content_run_new, hcontent]
    · rintro b rfl
      rw [content_run, hwritten]
  · rw [run_swapped h]
    exact ⟨rfl, rfl⟩

theorem run_slotwise_scope :
    let orders := fun scope => Call.whereExists "orders" scope
    let rest := [Call.compute [("b", "x"), ("a", "y"), ("b", "z")], .paginate 3 20,
      .orWhereOp "deleted" .isNull (.bool true), .lag "price" "before" 1 ⟨"day", .ascending, none⟩]
    let calls := orders [.limit 1, .whereNull "paid"] :: rest
    let swapped := orders [.whereNull "paid", .limit 1] :: rest
    let params := ((new "users").run calls).params
    Swapped calls swapped ∧ ((new "users").run swapped).params = params ∧
      params.transform = some { compute := some [("a", "y"), ("b", "z")] } ∧
      params.limit = some 20 ∧ params.offset = some 40 ∧
      params.predicates = some [⟨"deleted", .isNull, none, some .any⟩] ∧
      params.windows = some [⟨.lag, some "price", "before", ⟨[], [⟨"day", .ascending, none⟩], none⟩,
        [.num (.unsigned 1)]⟩] := by
  intro orders rest calls swapped params
  have hswapped : Swapped calls swapped :=
    .within (.whereExists "orders") rest (.here [] (by simp [Call.slots]))
  obtain ⟨-, hslot, -, hswap⟩ := run_slotwise "users" calls
  exact ⟨hswapped, (hswap swapped hswapped).1, (hslot .transform).1, (hslot .limit).1,
    (hslot .offset).1, (hslot .predicates).1, (hslot .windows).1⟩

end Builder

end RemoteQuery
