import RemoteQuery.Wire.Structural
/-!
Recursive decoding. A layer decodes one level of a value and hands the values within to a decoder of
its own kind; `descend` ties the knot through as many levels as the value is deep. A layer that asks
only about smaller values is then a fixed point: `descend_eq`.
-/

namespace RemoteQuery.Json

variable {α β : Type}

def byDepth (layer : (Json → α) → Json → α) (bottom : α) : Nat → Json → α
  | 0, _ => bottom
  | n + 1, j => layer (byDepth layer bottom n) j

def descend (layer : (Json → α) → Json → α) (bottom : α) (j : Json) : α :=
  byDepth layer bottom (j.depth + 1) j

def AgreeBelow (d : Nat) (f g : Json → α) : Prop := ∀ k : Json, k.depth < d → f k = g k

def Local (layer : (Json → α) → Json → α) : Prop :=
  ∀ f g j, AgreeBelow j.depth f g → layer f j = layer g j

theorem byDepth_eq {layer : (Json → α) → Json → α} (h : Local layer) (bottom : α) :
    ∀ n m j, j.depth < n → j.depth < m → byDepth layer bottom n j = byDepth layer bottom m j := by
  intro n
  induction n with
  | zero => intro m j hn; omega
  | succ n ih =>
      intro m j hn hm
      cases m with
      | zero => omega
      | succ m =>
          simp only [byDepth]
          exact h _ _ j fun k hk => ih m k (by omega) (by omega)

theorem descend_eq {layer : (Json → α) → Json → α} (h : Local layer) (bottom : α) (j : Json) :
    descend layer bottom j = layer (descend layer bottom) j := by
  simp only [descend, byDepth]
  exact h _ _ j fun k hk => byDepth_eq h bottom _ _ k (by omega) (by omega)

theorem depth_lt_of_mem {j : Json} {items : List Json} (h : j ∈ items) :
    j.depth < (Json.list items).depth := by
  have aux : ∀ items : List Json, j ∈ items → j.depth ≤ depthItems items := by
    intro items
    induction items with
    | nil => intro h; cases h
    | cons k rest ih =>
        intro h
        simp only [depthItems]
        cases h with
        | head => omega
        | tail _ h => have := ih h; omega
  have := aux items h
  simp only [depth]
  omega

theorem depth_lt_of_get? {fields : Fields Json} {key : String} {j : Json}
    (h : fields.get? key = some j) : j.depth < (Json.object fields).depth := by
  have aux : ∀ fields : Fields Json, fields.get? key = some j → j.depth ≤ depthFields fields := by
    intro fields
    induction fields with
    | nil => intro h; cases h
    | cons entry rest ih =>
        obtain ⟨k, v⟩ := entry
        intro h
        rw [Fields.get?_cons] at h
        simp only [depthFields]
        split at h
        · cases h; omega
        · have := ih h; omega
  have := aux fields h
  simp only [depth]
  omega

end RemoteQuery.Json

namespace RemoteQuery.Wire

open Json

variable {α β : Type}

theorem readAll_congr {f g : Json → Decoded α} {js : List Json} (h : ∀ j ∈ js, f j = g j) :
    readAll f js = readAll g js := by
  induction js with
  | nil => rfl
  | cons j rest ih =>
      simp only [readAll]
      rw [h j (List.mem_cons_self ..), ih fun k hk => h k (List.mem_cons_of_mem _ hk)]

theorem listOf_congr {f g : Json → Decoded α} {context : String} {j : Json}
    (h : AgreeBelow j.depth f g) : listOf context f j = listOf context g j := by
  cases j with
  | list js =>
      simp only [listOf, items, bind, Except.bind]
      exact readAll_congr fun k hk => h k (depth_lt_of_mem hk)
  | _ => rfl

theorem required_congr {f g : Json → Decoded α} {fields : Fields Json} {key context : String}
    (h : ∀ j, fields.get? key = some j → f j = g j) :
    required fields key context f = required fields key context g := by
  simp only [required]
  cases hj : fields.get? key with
  | none => rfl
  | some j => exact h j hj

theorem optional_congr {f g : Json → Decoded α} {fields : Fields Json} {key : String}
    (h : ∀ j, fields.get? key = some j → f j = g j) :
    optional fields key f = optional fields key g := by
  simp only [optional]
  cases hj : fields.get? key with
  | none => rfl
  | some j => simp only [h j hj]

theorem agreeBelow_of_get? {f g : Json → α} {fields : Fields Json} {key : String} {j : Json}
    (h : AgreeBelow (Json.object fields).depth f g) (hj : fields.get? key = some j) :
    AgreeBelow j.depth f g :=
  fun k hk => h k (Nat.lt_trans hk (depth_lt_of_get? hj))

end RemoteQuery.Wire
