import Mathlib.Data.List.Basic
import RemoteQuery.Builder.Scope
import RemoteQuery.Proofs.Builder.Writes

namespace RemoteQuery

/-- Each field once, where it first appears, with the value that it was last given. -/
def equalitiesOf (entries : List (String × Value)) : List Predicate :=
  (entries.map Prod.fst).eraseDups.filterMap fun field =>
    (entries.reverse.lookup field).map fun value => ⟨field, .equal, some value, none⟩

theorem isSome_lookup_reverse {entries : List (String × Value)} {field : String} :
    (entries.reverse.lookup field).isSome = true ↔ field ∈ entries.map Prod.fst := by
  rw [← List.mem_reverse, ← List.map_reverse]
  exact Fields.isSome_get?_iff

theorem field_equalitiesOf (entries : List (String × Value)) :
    (equalitiesOf entries).map Predicate.field = (entries.map Prod.fst).eraseDups := by
  have hgiven : ∀ field ∈ (entries.map Prod.fst).eraseDups,
      ((entries.reverse.lookup field).map fun value =>
        (⟨field, .equal, some value, none⟩ : Predicate)).map Predicate.field = some field := by
    intro field hfield
    have hsome := isSome_lookup_reverse.2 (List.mem_eraseDups.1 hfield)
    obtain ⟨value, hvalue⟩ := Option.isSome_iff_exists.1 hsome
    rw [hvalue]
    rfl
  rw [equalitiesOf, List.map_filterMap, List.filterMap_congr hgiven, List.filterMap_some]

theorem mem_equalitiesOf {entries : List (String × Value)} {p : Predicate} : p ∈ equalitiesOf entries ↔
    ∃ field value, entries.reverse.lookup field = some value ∧
      p = ⟨field, .equal, some value, none⟩ := by
  rw [equalitiesOf, List.mem_filterMap]
  constructor
  · rintro ⟨field, -, hp⟩
    obtain ⟨value, hvalue, rfl⟩ := Option.map_eq_some_iff.1 hp
    exact ⟨field, value, hvalue, rfl⟩
  · rintro ⟨field, value, hvalue, rfl⟩
    have hgiven := isSome_lookup_reverse.1 (Option.isSome_of_eq_some hvalue)
    exact ⟨field, List.mem_eraseDups.2 hgiven, Option.map_eq_some_iff.2 ⟨value, hvalue, rfl⟩⟩

namespace Builder

theorem foldl_note (entries : List (String × Value)) :
    entries.foldl note [] = (entries.map Prod.fst).eraseDups := by
  induction entries using List.reverseRecOn with
  | nil => rfl
  | append_singleton entries entry ih =>
      rw [List.foldl_append, ih, List.map_append, List.eraseDups_append]
      by_cases h : entry.1 ∈ entries.map Prod.fst
      · simp [note, List.removeAll, h]
      · simp [note, List.removeAll, h, List.eraseDups_cons]

theorem nodup_foldl_note {order : List String} (h : order.Nodup) (entries : List (String × Value)) :
    (entries.foldl note order).Nodup := by
  induction entries generalizing order with
  | nil => exact h
  | cons entry rest ih =>
      apply ih
      rw [note]
      split
      · exact h
      · rename_i hnew
        have hfresh : entry.1 ∉ order := by simpa using hnew
        refine List.nodup_append.2 ⟨h, List.pairwise_singleton _ _, ?_⟩
        intro field hfield last hlast
        rw [List.mem_singleton.1 hlast]
        exact ne_of_mem_of_not_mem hfield hfresh

theorem nodup_fields (entries : List (String × Value)) :
    (entries.map Prod.fst).eraseDups.Nodup := by
  rw [← foldl_note]
  exact nodup_foldl_note List.nodup_nil entries

theorem fst_drain {order : List String} (h : order.Nodup) (filter : Fields Value) :
    (drain order filter).1
      = order.filterMap fun field =>
        (filter.get? field).map fun value => ⟨field, .equal, some value, none⟩ := by
  induction order generalizing filter with
  | nil => rfl
  | cons field order ih =>
      obtain ⟨hfield, horder⟩ := List.nodup_cons.1 h
      cases hget : filter.get? field with
      | none =>
          simp only [drain, hget, List.filterMap_cons, Option.map_none]
          exact ih horder filter
      | some value =>
          -- The field comes once, so what is erased with it is not asked for again.
          have herased : ∀ other ∈ order, (filter.erase field).get? other = filter.get? other := by
            intro other hother
            rw [Fields.get?_erase, if_neg]
            rintro rfl
            exact hfield hother
          simp only [drain, hget, List.filterMap_cons, Option.map_some, ih horder]
          congr 1
          exact List.filterMap_congr fun other hother => by rw [herased other hother]

theorem snd_drain (order : List String) (filter : Fields Value) :
    (drain order filter).2 = filter.filter fun entry => entry.1 ∉ order := by
  induction order generalizing filter with
  | nil => exact (List.filter_true _).symm
  | cons field order ih =>
      cases hget : filter.get? field with
      | none =>
          -- A field without a value is the key of no entry, so it leaves them all.
          have habsent : ∀ entry ∈ filter, entry.1 ≠ field := by
            intro entry hentry
            have hne := List.lookup_eq_none_iff.1 hget entry hentry
            exact (bne_iff_ne.1 hne).symm
          simp only [drain, hget, ih]
          apply List.filter_congr
          intro entry hentry
          simp [habsent entry hentry]
      | some value =>
          simp only [drain, hget, ih, Fields.erase, List.filter_filter]
          apply List.filter_congr
          intro entry _
          simp [Bool.and_comm]

structure Keeps (b : Builder) (history : List (String × Value)) : Prop where
  filter : b.params.filter = (Shape.keyed Value).collect history
  order : b.filterOrder = (history.map Prod.fst).eraseDups

theorem keeps_new (t : String) : (new t).Keeps [] := ⟨rfl, rfl⟩

namespace Keeps

variable {b : Builder} {history : List (String × Value)}

theorem getD_filter (h : b.Keeps history) : b.params.filter.getD [] = Fields.ofPairs history := by
  rw [h.filter, Shape.getD_collect_keyed]

theorem get?_filter (h : b.Keeps history) (field : String) :
    (b.params.filter.getD []).get? field = history.reverse.lookup field := by
  rw [h.getD_filter, Fields.get?_ofPairs]

theorem nodup_order (h : b.Keeps history) : b.filterOrder.Nodup := by
  rw [h.order]
  exact nodup_fields history

theorem equalities_eq (h : b.Keeps history) : b.equalities = equalitiesOf history := by
  rw [equalities, fst_drain h.nodup_order, h.order, equalitiesOf]
  simp only [h.get?_filter]

theorem leftover_eq (h : b.Keeps history) : b.leftover = [] := by
  rw [leftover, snd_drain, h.order, List.filter_eq_nil_iff]
  intro entry hentry hleft
  have hheld : (history.reverse.lookup entry.1).isSome = true := by
    rw [← h.get?_filter]
    exact Fields.isSome_get?_iff.2 (List.mem_map_of_mem hentry)
  exact of_decide_eq_true hleft (List.mem_eraseDups.2 (isSome_lookup_reverse.1 hheld))

theorem conditions_eq (h : b.Keeps history) :
    b.conditions = (equalitiesOf history).map .predicate
      ++ (b.params.predicates.getD []).map .predicate
      ++ (b.params.groups.getD []).map BooleanGroup.toCondition := by
  rw [conditions, h.equalities_eq, h.leftover_eq, List.map_nil, List.append_nil]

end Keeps

end Builder

end RemoteQuery
