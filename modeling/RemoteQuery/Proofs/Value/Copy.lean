import RemoteQuery.Proofs.Fields
import RemoteQuery.Proofs.Query.Ordered
import RemoteQuery.Proofs.Value
import RemoteQuery.Proofs.Wire.Found

namespace RemoteQuery

namespace Value

theorem ofJson_list (js : List Json) : ofJson (.list js) = .list (js.map ofJson) := by
  rw [ofJson, ofJsonItems_eq_map]

theorem ofJson_object (fields : Fields Json) : ofJson (.object fields) = .map fields.ofJson := by
  rw [ofJson, ofJsonFields_eq_map]
  rfl

theorem toJson_list (vs : List Value) : (Value.list vs).toJson = .list (vs.map toJson) := by
  rw [toJson, toJsonItems_eq_map]

theorem toJson_map (entries : Fields Value) : (Value.map entries).toJson = entries.toJson := by
  rw [toJson, toJsonEntries_eq_map]
  rfl

theorem ordered_list {vs : List Value} : (Value.list vs).Ordered ↔ ∀ v ∈ vs, v.Ordered := by
  rw [Ordered, toJson_list, Json.ordered_list, List.forall_mem_map]
  rfl

theorem ordered_map {entries : Fields Value} : (Value.map entries).Ordered ↔ entries.Ordered := by
  rw [Ordered, toJson_map, Fields.toJson, Json.ordered_object, Fields.sorted_map, List.forall_mem_map]
  rfl

theorem toJson_ofJson (j : Json) : (ofJson j).toJson = j := by
  induction j using Json.induct with
  | null | bool | num | str => rfl
  | list js ih =>
      rw [ofJson_list, toJson_list, List.map_map]
      congr 1
      exact (List.map_congr_left ih).trans (List.map_id js)
  | object fields ih =>
      rw [ofJson_object, toJson_map, Fields.toJson, Fields.ofJson, List.map_map]
      congr 1
      refine (List.map_congr_left fun entry hentry => ?_).trans (List.map_id fields)
      exact Prod.ext rfl (ih entry hentry)

theorem ofJson_injective : Function.Injective ofJson := Function.LeftInverse.injective toJson_ofJson

theorem equal_ofJson (i j : Json) : (ofJson i).equal (ofJson j) = i.equal j := by
  rw [equal, toJson_ofJson, toJson_ofJson]

theorem ordered_ofJson {j : Json} : (ofJson j).Ordered ↔ j.Ordered := by
  rw [Ordered, toJson_ofJson]

inductive Copies : Value → Json → Prop
  | null : Copies .null .null
  | bool (b : Bool) : Copies (.bool b) (.bool b)
  | num (n : Number) : Copies (.num n) (.num n)
  | str (s : String) : Copies (.str s) (.str s)
  | list {vs : List Value} {js : List Json} : vs.length = js.length →
      (∀ (n : Nat) v j, vs[n]? = some v → js[n]? = some j → Copies v j) →
      Copies (.list vs) (.list js)
  | map {entries : Fields Value} {fields : Fields Json} :
      (∀ key, entries.has key = fields.has key) →
      (∀ key v j, entries.get? key = some v → fields.get? key = some j → Copies v j) →
      Copies (.map entries) (.object fields)

theorem copies_ofJson (j : Json) : (ofJson j).Copies j := by
  induction j using Json.induct with
  | null => exact .null
  | bool b => exact .bool b
  | num n => exact .num n
  | str s => exact .str s
  | list js ih =>
      rw [ofJson_list]
      refine .list (List.length_map ofJson) fun n v j hv hj => ?_
      rw [List.getElem?_map, hj] at hv
      cases hv
      exact ih j (List.mem_of_getElem? hj)
  | object fields ih =>
      rw [ofJson_object]
      refine .map (fun key => ?_) fun key v j hv hj => ?_
      · rw [Fields.has, Fields.ofJson, Fields.get?_map, Option.isSome_map, ← Fields.has]
      · rw [Fields.ofJson, Fields.get?_map, hj] at hv
        cases hv
        exact ih (key, j) (Fields.mem_of_get? hj)

theorem Copies.eq_ofJson {v : Value} {j : Json} (h : v.Copies j) (hv : v.Ordered) (hj : j.Ordered) :
    v = ofJson j := by
  induction h with
  | null | bool | num | str => rfl
  | @list vs js hlength _ ih =>
      rw [ordered_list] at hv
      rw [Json.ordered_list] at hj
      rw [ofJson_list]
      congr 1
      refine List.ext_getElem (hlength.trans (List.length_map ofJson).symm) fun n hn hn' => ?_
      have hjs : n < js.length := hlength ▸ hn
      rw [List.getElem_map]
      exact ih n _ _ (List.getElem?_eq_getElem hn) (List.getElem?_eq_getElem hjs)
        (hv _ (List.getElem_mem hn)) (hj _ (List.getElem_mem hjs))
  | @map entries fields hhas _ ih =>
      rw [ordered_map] at hv
      rw [Json.ordered_object] at hj
      rw [ofJson_object]
      congr 1
      -- Fields in key order are the same once they answer every look-up alike.
      refine Fields.ext_of_sorted hv.1 ((Fields.sorted_map ofJson).2 hj.1) fun key => ?_
      have hkey := hhas key
      rw [Fields.has, Fields.has] at hkey
      rw [Fields.ofJson, Fields.get?_map]
      cases hfield : Fields.get? fields key with
      | none => simpa [hfield] using hkey
      | some j =>
          rw [hfield, Option.isSome_some, Option.isSome_iff_exists] at hkey
          obtain ⟨v, hentry⟩ := hkey
          have hmem := Fields.mem_of_get? hentry
          rw [hentry, ih key v j hentry hfield (hv.2 _ hmem) (hj.2 _ (Fields.mem_of_get? hfield)),
            Option.map_some]

theorem copies_iff {v : Value} {j : Json} (hv : v.Ordered) (hj : j.Ordered) :
    v.Copies j ↔ v = ofJson j := by
  constructor
  · intro h
    exact h.eq_ofJson hv hj
  · rintro rfl
    exact copies_ofJson j

end Value

namespace Fields

theorem toJson_ofJson (fields : Fields Json) : fields.ofJson.toJson = .object fields := by
  rw [← Value.toJson_map, ← Value.ofJson_object, Value.toJson_ofJson]

end Fields

namespace Wire

variable {context : String} {j : Json}

theorem items_eq_ok {js : List Json} : items context j = .ok js ↔ j = .list js := by
  cases j <;> simp [items]

theorem values_eq_ok {vs : List Value} : values context j = .ok vs ↔ j = .values vs := by
  constructor
  · intro h
    simp only [values, Decoded.bind_eq_ok, Decoded.pure_eq_ok, Except.ok.injEq] at h
    obtain ⟨js, hjs, rfl⟩ := h
    rw [items_eq_ok.1 hjs, Json.values, ← Value.toJson_list, ← Value.ofJson_list, Value.toJson_ofJson]
  · rintro rfl
    exact values_values context vs

theorem valueMap_eq_ok {fields : Fields Value} :
    valueMap context j = .ok fields ↔ j = fields.toJson := by
  constructor
  · intro h
    simp only [valueMap, Decoded.bind_eq_ok, Decoded.pure_eq_ok, Except.ok.injEq] at h
    obtain ⟨found, hfound, rfl⟩ := h
    rw [object_eq_ok.1 hfound, Fields.toJson_ofJson]
  · rintro rfl
    exact valueMap_toJson context fields

end Wire

end RemoteQuery
