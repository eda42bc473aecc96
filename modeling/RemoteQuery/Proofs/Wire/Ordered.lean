import RemoteQuery.Proofs.Json.Basic
import RemoteQuery.Proofs.Wire.Reading

namespace RemoteQuery

namespace Json

def OrderedOption (o : Option Json) : Prop := ∀ j, o = some j → j.Ordered

@[simp] theorem ordered_str (s : String) : (str s).Ordered := by simp only [Ordered]

@[simp] theorem ordered_bool (b : Bool) : (bool b).Ordered := by simp only [Ordered]

@[simp] theorem ordered_unsigned (n : UInt64) : (unsigned n).Ordered := by
  simp only [unsigned, Ordered]

@[simp] theorem ordered_int64 (n : Int64) : (int64 n).Ordered := by simp only [int64, Ordered]

@[simp] theorem ordered_token {α : Type} [Token α] (a : α) : (Token.toStructure a).Ordered := by
  simp only [Token.toStructure, Ordered]

@[simp] theorem ordered_listOf {α : Type} {write : α → Json} {as : List α} :
    (listOf write as).Ordered ↔ ∀ a ∈ as, (write a).Ordered := by
  rw [listOf, ordered_list, List.forall_mem_map]

@[simp] theorem ordered_strings (items : List String) : (strings items).Ordered := by
  apply ordered_list.2
  intro j hj
  obtain ⟨s, _, rfl⟩ := List.mem_map.1 hj
  exact ordered_str s

@[simp] theorem orderedOption_some {j : Json} : OrderedOption (some j) ↔ j.Ordered := by
  simp only [OrderedOption, Option.some.injEq, forall_eq']

@[simp] theorem orderedOption_none : OrderedOption none := by
  rintro j ⟨⟩

@[simp] theorem orderedOption_map {α : Type} {write : α → Json} {o : Option α} :
    OrderedOption (o.map write) ↔ ∀ a, o = some a → (write a).Ordered := by
  cases o <;> simp

theorem orderedOption_unlessEmpty {α : Type} {write : List α → Json} {as : List α}
    (h : (write as).Ordered) : OrderedOption (unlessEmpty write as) := by
  rw [unlessEmpty]
  split
  · exact orderedOption_none
  · exact orderedOption_some.2 h

theorem sorted_members {entries : List (String × Option Json)} {keys : List String}
    (hkeys : keys.Pairwise (· < ·)) (hentries : entries.map Prod.fst = keys) :
    (members entries).Sorted := by
  rw [← hentries, List.pairwise_map] at hkeys
  refine List.Pairwise.filterMap _ ?_ hkeys
  rintro ⟨k, value?⟩ ⟨l, other?⟩ hlt ⟨_, j⟩ hj ⟨_, i⟩ hi
  simp only [Option.map_eq_some_iff, Prod.mk.injEq] at hj hi
  obtain ⟨_, _, rfl, _⟩ := hj
  obtain ⟨_, _, rfl, _⟩ := hi
  exact hlt

theorem ordered_record (keys : List String) (hkeys : keys.Pairwise (· < ·))
    {entries : List (String × Option Json)} (hentries : entries.map Prod.fst = keys)
    (h : ∀ entry ∈ entries, OrderedOption entry.2) : (record entries).Ordered := by
  refine ordered_object.2 ⟨sorted_members hkeys hentries, ?_⟩
  rintro ⟨key, j⟩ hmem
  exact h (key, some j) (mem_members.1 hmem) j rfl

end Json

end RemoteQuery
