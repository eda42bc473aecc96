import RemoteQuery.Json.Basic

namespace RemoteQuery.Json

@[elab_as_elim] theorem induct {motive : Json → Prop}
    (null : motive .null) (bool : ∀ b, motive (.bool b)) (num : ∀ n, motive (.num n))
    (str : ∀ s, motive (.str s)) (list : ∀ js, (∀ j ∈ js, motive j) → motive (.list js))
    (object : ∀ fields, (∀ entry ∈ fields, motive entry.2) → motive (.object fields))
    (j : Json) : motive j := by
  match j with
  | .null => exact null
  | .bool b => exact bool b
  | .num n => exact num n
  | .str s => exact str s
  | .list js => exact list js fun j hj => induct null bool num str list object j
  | .object fields =>
      exact object fields fun entry hentry => induct null bool num str list object entry.2
termination_by sizeOf j
decreasing_by
  · have := List.sizeOf_lt_of_mem hj
    simp only [Json.list.sizeOf_spec]
    omega
  · have := List.sizeOf_lt_of_mem hentry
    have : sizeOf entry.2 < sizeOf entry := by
      cases entry
      simp only [Prod.mk.sizeOf_spec]
      omega
    simp only [Json.object.sizeOf_spec]
    omega

theorem depth_of_isScalar {j : Json} (h : j.isScalar = true) : j.depth = 0 := by
  cases j with
  | list js => cases h
  | object fields => cases h
  | _ => simp only [depth]

theorem orderedItems_iff {js : List Json} : OrderedItems js ↔ ∀ j ∈ js, j.Ordered := by
  induction js with
  | nil => simp [OrderedItems]
  | cons j js ih => simp [OrderedItems, ih]

theorem orderedFields_iff {fields : Fields Json} :
    OrderedFields fields ↔ ∀ entry ∈ fields, entry.2.Ordered := by
  induction fields with
  | nil => simp [OrderedFields]
  | cons entry fields ih => simp [OrderedFields, ih]

theorem ordered_list {js : List Json} : (list js).Ordered ↔ ∀ j ∈ js, j.Ordered := by
  rw [Ordered, orderedItems_iff]

theorem ordered_object {fields : Fields Json} : (object fields).Ordered ↔
    fields.Sorted ∧ ∀ entry ∈ fields, entry.2.Ordered := by
  rw [Ordered, orderedFields_iff]

end RemoteQuery.Json
