import Mathlib.Data.List.Forall2
import RemoteQuery.Json.Descent
import RemoteQuery.Proofs.Wire.Reading

namespace RemoteQuery

theorem Json.descend_induction {α : Type} {layer : (Json → α) → Json → α} {bottom : α}
    {motive : Json → α → Prop} (hlocal : Local layer)
    (step : ∀ j, (∀ k : Json, k.depth < j.depth → motive k (descend layer bottom k)) →
      motive j (layer (descend layer bottom) j)) (j : Json) : motive j (descend layer bottom j) := by
  have aux : ∀ n, ∀ j : Json, j.depth < n → motive j (descend layer bottom j) := by
    intro n
    induction n with
    | zero => intro j hj; omega
    | succ n ih =>
        intro j hj
        rw [descend_eq hlocal]
        exact step j fun k hk => ih k (by omega)
  exact aux (j.depth + 1) j (by omega)

namespace Wire

variable {ι α : Type}

theorem object_eq_ok {context : String} {j : Json} {fields : Fields Json} :
    object context j = .ok fields ↔ j = .object fields := by
  cases j <;> simp [object]

theorem required_eq_ok {fields : Fields Json} {key context : String} {read : Json → Decoded α}
    {a : α} : required fields key context read = .ok a ↔
      ∃ j, fields.get? key = some j ∧ read j = .ok a := by
  simp only [required]
  cases fields.get? key <;> simp

theorem optional_eq_some {fields : Fields Json} {key : String} {read : Json → Decoded α} {a : α} :
    optional fields key read = .ok (some a) ↔ ∃ j, fields.get? key = some j ∧ read j = .ok a := by
  simp only [optional]
  cases fields.get? key with
  | none => simp
  | some j => simp [Decoded.map_eq_ok]

theorem orElse_eq_ok {fields : Fields Json} {key : String} {default a : α}
    {read : Json → Decoded α} : orElse fields key default read = .ok a ↔
      (fields.get? key = none ∧ default = a) ∨ ∃ j, fields.get? key = some j ∧ read j = .ok a := by
  simp only [orElse]
  cases fields.get? key <;> simp

section Members

variable {fields : Fields Json} {key context : String} {read : Json → Decoded α}

theorem isSome_of_required {a : α} (h : required fields key context read = .ok a) :
    (fields.get? key).isSome = true := by
  obtain ⟨j, hj, -⟩ := required_eq_ok.1 h
  rw [hj, Option.isSome_some]

def Readable (fields : Fields Json) (key : String) (read : Json → Decoded α) : Prop :=
  ∀ j, fields.get? key = some j → ∃ a, read j = .ok a

theorem readable_of_required {a : α} (h : required fields key context read = .ok a) :
    Readable fields key read := by
  intro j hj
  rw [required, hj] at h
  exact ⟨a, h⟩

theorem readable_of_optional {a? : Option α} (h : optional fields key read = .ok a?) :
    Readable fields key read := by
  intro j hj
  rw [optional, hj] at h
  obtain ⟨a, ha, -⟩ := Decoded.map_eq_ok.1 h
  exact ⟨a, ha⟩

theorem readable_of_orElse {default a : α} (h : orElse fields key default read = .ok a) :
    Readable fields key read := by
  intro j hj
  rw [orElse, hj] at h
  exact ⟨a, h⟩

end Members

theorem forall₂_of_readAll {read : ι → Decoded α} {is : List ι} {as : List α}
    (h : readAll read is = .ok as) : List.Forall₂ (fun i a => read i = .ok a) is as := by
  induction is generalizing as with
  | nil =>
      cases h
      exact .nil
  | cons i rest ih =>
      simp only [readAll, Decoded.bind_eq_ok, Decoded.pure_eq_ok, Except.ok.injEq] at h
      obtain ⟨a, ha, as, has, rfl⟩ := h
      exact .cons ha (ih has)

theorem exists_of_forall₂ {R : ι → α → Prop} {is : List ι} {as : List α} {i : ι}
    (h : List.Forall₂ R is as) (hi : i ∈ is) : ∃ a ∈ as, R i a := by
  induction h with
  | nil => cases hi
  | cons hR _ ih =>
      rcases List.mem_cons.1 hi with rfl | hi
      · exact ⟨_, List.mem_cons_self, hR⟩
      · obtain ⟨a, ha, hR⟩ := ih hi
        exact ⟨a, List.mem_cons_of_mem _ ha, hR⟩

theorem getElem?_of_forall₂ {R : ι → α → Prop} {is : List ι} {as : List α} {n : Nat} {i : ι}
    (h : List.Forall₂ R is as) (hi : is[n]? = some i) : ∃ a, as[n]? = some a ∧ R i a := by
  obtain ⟨hn, rfl⟩ := List.getElem?_eq_some_iff.1 hi
  have hn' : n < as.length := h.length_eq ▸ hn
  exact ⟨as[n], List.getElem?_eq_getElem hn', h.get hn hn'⟩

theorem exists_of_readAll {read : ι → Decoded α} {is : List ι} {as : List α} {a : α}
    (h : readAll read is = .ok as) (ha : a ∈ as) : ∃ i ∈ is, read i = .ok a :=
  exists_of_forall₂ (R := fun a i => read i = .ok a) (forall₂_of_readAll h).flip ha

theorem readAll_append (read : ι → Decoded α) (is js : List ι) :
    readAll read (is ++ js) = readAll read is >>= fun as => (readAll read js).map (as ++ ·) := by
  induction is with
  | nil =>
      rw [List.nil_append, readAll, Decoded.ok_bind]
      cases readAll read js <;> rfl
  | cons i is ih =>
      rw [List.cons_append, readAll, readAll, ih]
      cases read i with
      | error e => rfl
      | ok a =>
          cases readAll read is with
          | error e => rfl
          | ok as => cases readAll read js <;> rfl

theorem readAll_eq_error {read : ι → Decoded α} {is : List ι} {e : FormatError} :
    readAll read is = .error e ↔ ∃ before i after, is = before ++ i :: after ∧
      (∀ j ∈ before, ∃ a, read j = .ok a) ∧ read i = .error e := by
  constructor
  · intro h
    induction is with
    | nil => cases h
    | cons i is ih =>
        rw [readAll] at h
        cases hi : read i with
        | error e' =>
            rw [hi] at h
            cases h
            exact ⟨[], i, is, rfl, fun j hj => absurd hj List.not_mem_nil, hi⟩
        | ok a =>
            simp only [hi, Decoded.ok_bind, Decoded.pure_eq_ok, Decoded.bind_ok,
              Decoded.map_eq_error] at h
            obtain ⟨before, j, after, rfl, hbefore, hj⟩ := ih h
            exact ⟨i :: before, j, after, rfl, List.forall_mem_cons.2 ⟨⟨a, hi⟩, hbefore⟩, hj⟩
  · rintro ⟨before, i, after, rfl, hbefore, hi⟩
    induction before with
    | nil => rw [List.nil_append, readAll, hi, Decoded.error_bind]
    | cons j before ih =>
        obtain ⟨⟨a, ha⟩, hbefore⟩ := List.forall_mem_cons.1 hbefore
        rw [List.cons_append, readAll, ha, Decoded.ok_bind, ih hbefore, Decoded.error_bind]

theorem exists_list_of_listOf {context : String} {read : Json → Decoded α} {j : Json}
    {as : List α} (h : listOf context read j = .ok as) :
    ∃ js, j = .list js ∧ readAll read js = .ok as := by
  cases j with
  | list js => exact ⟨js, rfl, h⟩
  | _ => cases h

theorem exists_of_listOf {context : String} {read : Json → Decoded α} {j : Json} {as : List α}
    {a : α} (h : listOf context read j = .ok as) (ha : a ∈ as) :
    ∃ k : Json, k.depth < j.depth ∧ read k = .ok a := by
  obtain ⟨js, rfl, hread⟩ := exists_list_of_listOf h
  obtain ⟨k, hk, hread⟩ := exists_of_readAll hread ha
  exact ⟨k, Json.depth_lt_of_mem hk, hread⟩

end Wire

end RemoteQuery
