namespace RemoteQuery

abbrev Fields (α : Type) := List (String × α)

namespace Fields

variable {α β : Type}

def get? (fields : Fields α) (key : String) : Option α := fields.lookup key

def has (fields : Fields α) (key : String) : Bool := (fields.get? key).isSome

def keys (fields : Fields α) : List String := fields.map Prod.fst

def insert : Fields α → String → α → Fields α
  | [], key, value => [(key, value)]
  | (k, v) :: rest, key, value =>
      if key = k then (key, value) :: rest
      else if key < k then (key, value) :: (k, v) :: rest
      else (k, v) :: insert rest key value

def erase (fields : Fields α) (key : String) : Fields α := fields.filter (fun entry => entry.1 ≠ key)

def ofPairs (pairs : List (String × α)) : Fields α :=
  pairs.foldl (fun fields entry => fields.insert entry.1 entry.2) []

def Sorted (fields : Fields α) : Prop := fields.Pairwise (fun a b => a.1 < b.1)

theorem get?_cons (fields : Fields α) (k key : String) (v : α) :
    Fields.get? ((k, v) :: fields) key = if key = k then some v else fields.get? key := by
  simp only [get?, List.lookup_cons]
  cases h : key == k with
  | true => simp [beq_iff_eq.1 h]
  | false => simp [beq_eq_false_iff_ne.1 h]

theorem get?_insert (fields : Fields α) (k key : String) (v : α) :
    (fields.insert k v).get? key = if key = k then some v else fields.get? key := by
  induction fields with
  | nil => simp only [insert, get?_cons]
  | cons entry rest ih =>
      obtain ⟨k', v'⟩ := entry
      simp only [insert]
      split
      · rename_i h
        subst h
        simp only [get?_cons]
        split <;> rfl
      · split
        · simp only [get?_cons]
        · rename_i hne _
          simp only [get?_cons, ih]
          by_cases hk : key = k'
          · have hkk : k' ≠ k := fun h => hne h.symm
            simp [hk, hkk]
          · simp [hk]

end Fields

end RemoteQuery
