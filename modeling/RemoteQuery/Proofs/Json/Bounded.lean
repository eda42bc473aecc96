import RemoteQuery.Proofs.Fields
import RemoteQuery.Proofs.Json.Basic
import RemoteQuery.Proofs.Json.Shape

namespace RemoteQuery.Json

theorem depthItems_le_iff {d : Nat} {js : List Json} :
    depthItems js ≤ d ↔ ∀ j ∈ js, j.depth ≤ d := by
  induction js with
  | nil => simp [depthItems]
  | cons j js ih => rw [depthItems, Nat.max_le, ih, List.forall_mem_cons]

theorem depthFields_le_iff {d : Nat} {fields : Fields Json} :
    depthFields fields ≤ d ↔ ∀ entry ∈ fields, entry.2.depth ≤ d := by
  induction fields with
  | nil => simp [depthFields]
  | cons entry fields ih => rw [depthFields, Nat.max_le, ih, List.forall_mem_cons]

structure Fits (d : Nat) (j : Json) : Prop where
  ordered : j.Ordered
  shallow : j.depth ≤ d

namespace Fits

variable {d : Nat}

theorem of_isScalar {j : Json} (h : j.isScalar = true) : Fits d j where
  ordered := by
    cases j with
    | list js => cases h
    | object fields => cases h
    | _ => simp only [Ordered]
  shallow := by
    rw [depth_of_isScalar h]
    exact Nat.zero_le d

theorem list {js : List Json} (h : ∀ j ∈ js, Fits d j) : Fits (d + 1) (list js) where
  ordered := ordered_list.2 fun j hj => (h j hj).ordered
  shallow := Nat.succ_le_succ (depthItems_le_iff.2 fun j hj => (h j hj).shallow)

theorem object {members : List (String × Json)} (h : ∀ entry ∈ members, Fits d entry.2) :
    Fits (d + 1) (object (Fields.ofPairs members)) := by
  have hfields : ∀ entry ∈ Fields.ofPairs members, Fits d entry.2 := fun entry hentry =>
    h entry (Fields.mem_of_mem_ofPairs hentry)
  exact ⟨ordered_object.2 ⟨Fields.sorted_ofPairs members, fun e he => (hfields e he).ordered⟩,
    Nat.succ_le_succ (depthFields_le_iff.2 fun e he => (hfields e he).shallow)⟩

end Fits

theorem readValue?_cases {fuel d : Nat} {cs rest : List Char} {j : Json}
    (h : readValue? (fuel + 1) d cs = some (j, rest)) : j.isScalar = true ∨
      ∃ n tail, d = n + 1 ∧
        (readList? fuel n tail = some (j, rest) ∨ readObject? fuel n tail = some (j, rest)) := by
  rw [readValue?] at h
  split at h
  · cases h
  · rename_i c tail _
    split at h
    · cases eq_of_readWord? h
      exact .inl rfl
    split at h
    · cases eq_of_readWord? h
      exact .inl rfl
    split at h
    · cases eq_of_readWord? h
      exact .inl rfl
    split at h
    · obtain ⟨⟨s, left⟩, _, heq⟩ := Option.map_eq_some_iff.1 h
      cases heq
      exact .inl rfl
    split at h
    · split at h
      · cases h
      · exact .inr ⟨_, tail, rfl, .inl h⟩
    split at h
    · split at h
      · cases h
      · exact .inr ⟨_, tail, rfl, .inr h⟩
    · obtain ⟨n, rfl⟩ := exists_num_of_readNumber? h
      exact .inl rfl

structure ReadersFit (fuel : Nat) : Prop where
  value : ∀ {d cs j rest}, readValue? fuel d cs = some (j, rest) → Fits d j
  list : ∀ {d cs j rest}, readList? fuel d cs = some (j, rest) → Fits (d + 1) j
  items : ∀ {d cs js rest}, readItems? fuel d cs = some (js, rest) → ∀ j ∈ js, Fits d j
  object : ∀ {d cs j rest}, readObject? fuel d cs = some (j, rest) → Fits (d + 1) j
  members : ∀ {d cs members rest}, readMembers? fuel d cs = some (members, rest) →
    ∀ entry ∈ members, Fits d entry.2

namespace ReadersFit

variable {fuel d : Nat} {cs rest : List Char} {j : Json}

theorem value_succ (h : ReadersFit fuel) (hread : readValue? (fuel + 1) d cs = some (j, rest)) :
    Fits d j := by
  rcases readValue?_cases hread with hscalar | ⟨n, tail, rfl, hlist | hobject⟩
  · exact .of_isScalar hscalar
  · exact h.list hlist
  · exact h.object hobject

theorem list_succ (h : ReadersFit fuel) (hread : readList? (fuel + 1) d cs = some (j, rest)) :
    Fits (d + 1) j := by
  rw [readList?] at hread
  split at hread
  · cases hread
    exact .list (List.forall_mem_nil _)
  · simp only [Option.bind_eq_bind, Option.bind_eq_some_iff, Prod.exists] at hread
    obtain ⟨k, left, hk, ks, last, hks, heq⟩ := hread
    cases heq
    exact .list (List.forall_mem_cons.2 ⟨h.value hk, h.items hks⟩)

theorem items_succ {js : List Json} (h : ReadersFit fuel)
    (hread : readItems? (fuel + 1) d cs = some (js, rest)) : ∀ j ∈ js, Fits d j := by
  rw [readItems?] at hread
  split at hread
  · cases hread
    exact List.forall_mem_nil _
  · simp only [Option.bind_eq_bind, Option.bind_eq_some_iff, Prod.exists] at hread
    obtain ⟨k, left, hk, ks, last, hks, heq⟩ := hread
    cases heq
    exact List.forall_mem_cons.2 ⟨h.value hk, h.items hks⟩
  · cases hread

theorem object_succ (h : ReadersFit fuel) (hread : readObject? (fuel + 1) d cs = some (j, rest)) :
    Fits (d + 1) j := by
  rw [readObject?] at hread
  split at hread
  · cases hread
    exact .object (List.forall_mem_nil _)
  · simp only [Option.bind_eq_bind, Option.bind_eq_some_iff, Prod.exists] at hread
    obtain ⟨key, left, _, k, last, hk, members, after, hmembers, heq⟩ := hread
    cases heq
    exact .object (List.forall_mem_cons.2 ⟨h.value hk, h.members hmembers⟩)

theorem members_succ {members : List (String × Json)} (h : ReadersFit fuel)
    (hread : readMembers? (fuel + 1) d cs = some (members, rest)) :
    ∀ entry ∈ members, Fits d entry.2 := by
  rw [readMembers?] at hread
  split at hread
  · cases hread
    exact List.forall_mem_nil _
  · simp only [Option.bind_eq_bind, Option.bind_eq_some_iff, Prod.exists] at hread
    obtain ⟨key, left, _, k, last, hk, others, after, hothers, heq⟩ := hread
    cases heq
    exact List.forall_mem_cons.2 ⟨h.value hk, h.members hothers⟩
  · cases hread

end ReadersFit

theorem readersFit (fuel : Nat) : ReadersFit fuel := by
  induction fuel with
  | zero =>
      constructor <;> intro d cs _ rest h <;>
        simp only [readValue?, readList?, readItems?, readObject?, readMembers?, reduceCtorEq] at h
  | succ fuel ih =>
      exact ⟨ih.value_succ, ih.list_succ, ih.items_succ, ih.object_succ, ih.members_succ⟩

theorem fits_of_parse? {s : String} {j : Json} (h : parse? s = some j) : Fits maxDepth j := by
  simp only [parse?, parseWithin?] at h
  split at h
  · rename_i k rest hread
    split at h
    · cases h
      exact (readersFit _).value hread
    · cases h
  · cases h

end RemoteQuery.Json
