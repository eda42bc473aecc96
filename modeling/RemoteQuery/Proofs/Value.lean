import RemoteQuery.Proofs.Wire.Reading

namespace RemoteQuery

namespace Value

mutual
theorem ofJson_toJson : ∀ v : Value, ofJson v.toJson = v
  | .null => rfl
  | .bool _ => rfl
  | .num _ => rfl
  | .str _ => rfl
  | .list items => by simp only [toJson, ofJson, ofJsonItems_toJsonItems items]
  | .map entries => by simp only [toJson, ofJson, ofJsonFields_toJsonEntries entries]
theorem ofJsonItems_toJsonItems : ∀ items : List Value, ofJsonItems (toJsonItems items) = items
  | [] => rfl
  | v :: rest => by simp only [toJsonItems, ofJsonItems, ofJson_toJson v, ofJsonItems_toJsonItems rest]
theorem ofJsonFields_toJsonEntries :
    ∀ entries : List (String × Value), ofJsonFields (toJsonEntries entries) = entries
  | [] => rfl
  | (key, v) :: rest => by
      simp only [toJsonEntries, ofJsonFields, ofJson_toJson v, ofJsonFields_toJsonEntries rest]
end

end Value

namespace Wire

@[simp] theorem values_values (context : String) (vs : List Value) :
    values context (.values vs) = .ok vs := by
  have hvs : (vs.map Value.toJson).map Value.ofJson = vs := by
    simp only [List.map_map]
    exact List.map_id'' Value.ofJson_toJson vs
  simp [values, items, Json.values, hvs]

@[simp] theorem valueMap_toJson (context : String) (fields : Fields Value) :
    valueMap context fields.toJson = .ok fields := by
  have hfields : Fields.ofJson (fields.map fun entry => (entry.1, entry.2.toJson)) = fields := by
    rw [Fields.ofJson, List.map_map]
    refine List.map_id'' ?_ fields
    rintro ⟨key, v⟩
    simp only [Function.comp_apply, Value.ofJson_toJson]
  simp only [valueMap, Fields.toJson, object_object, hfields, Decoded.ok_bind, Decoded.pure_eq_ok]

@[simp] theorem readOr_unlessEmpty {α : Type} {read : Json → Decoded (List α)}
    {write : List α → Json} {as : List α} (h : read (write as) = .ok as) :
    readOr [] read (Json.unlessEmpty write as) = .ok as := by
  cases as with
  | nil => rfl
  | cons a rest => exact h

end Wire

end RemoteQuery
