import Mathlib.Data.List.Induction
import Mathlib.Data.List.Nodup
import RemoteQuery.Fields

namespace RemoteQuery.Fields

variable {α β : Type}

instance (fields : Fields α) : Decidable fields.Sorted :=
  inferInstanceAs (Decidable (fields.Pairwise fun a b => a.1 < b.1))

theorem insert_of_lt {fields : Fields α} {key : String} (value : α)
    (h : ∀ entry ∈ fields, entry.1 < key) : fields.insert key value = fields ++ [(key, value)] := by
  induction fields with
  | nil => rfl
  | cons entry rest ih =>
      obtain ⟨k, v⟩ := entry
      have hk : k < key := h (k, v) (List.mem_cons_self ..)
      have hrest := ih fun e he => h e (List.mem_cons_of_mem _ he)
      have hne : key ≠ k := by
        rintro rfl
        exact String.lt_irrefl _ hk
      simp only [insert, hne, String.lt_asymm hk, if_false, hrest, List.cons_append]

theorem mem_insert {fields : Fields α} {key : String} {value : α} {entry : String × α}
    (h : entry ∈ fields.insert key value) : entry = (key, value) ∨ entry ∈ fields := by
  induction fields with
  | nil => exact .inl (List.mem_singleton.1 h)
  | cons first rest ih =>
      obtain ⟨k, v⟩ := first
      rw [insert] at h
      split at h
      · exact (List.mem_cons.1 h).imp_right (List.mem_cons_of_mem _)
      · split at h
        · exact List.mem_cons.1 h
        · rcases List.mem_cons.1 h with rfl | h
          · exact .inr List.mem_cons_self
          · exact (ih h).imp_right (List.mem_cons_of_mem _)

theorem sorted_insert {fields : Fields α} (h : fields.Sorted) (key : String) (value : α) :
    (fields.insert key value).Sorted := by
  induction fields with
  | nil => exact List.pairwise_singleton _ _
  | cons first rest ih =>
      obtain ⟨k, v⟩ := first
      obtain ⟨hfirst, hrest⟩ := List.pairwise_cons.1 h
      rw [insert]
      split
      · rename_i heq
        subst heq
        exact List.pairwise_cons.2 ⟨hfirst, hrest⟩
      · rename_i hne
        split
        · rename_i hlt
          refine List.pairwise_cons.2 ⟨fun entry hentry => ?_, h⟩
          rcases List.mem_cons.1 hentry with rfl | hentry
          · exact hlt
          · exact String.lt_trans hlt (hfirst entry hentry)
        · rename_i hlt
          have hk : k < key := by
            refine Decidable.byContradiction fun hge => hne ?_
            exact String.le_antisymm (String.not_lt.1 hge) (String.not_lt.1 hlt)
          refine List.pairwise_cons.2 ⟨fun entry hentry => ?_, ih hrest⟩
          rcases mem_insert hentry with rfl | hentry
          · exact hk
          · exact hfirst entry hentry

theorem nodup_keys_of_sorted {fields : Fields α} (h : fields.Sorted) : fields.keys.Nodup := by
  refine List.pairwise_map.2 (h.imp ?_)
  intro first second hlt heq
  rw [heq] at hlt
  exact String.lt_irrefl _ hlt

theorem mem_of_get? {fields : Fields α} {key : String} {value : α}
    (h : fields.get? key = some value) : (key, value) ∈ fields := by
  obtain ⟨before, after, hfields, -⟩ := List.lookup_eq_some_iff.1 h
  rw [hfields]
  exact List.mem_append_right _ List.mem_cons_self

theorem isSome_get?_iff {fields : Fields α} {key : String} :
    (fields.get? key).isSome = true ↔ key ∈ fields.keys := by
  rw [get?, List.lookup_isSome_iff, keys, List.mem_map]
  constructor
  · rintro ⟨entry, hentry, hkey⟩
    exact ⟨entry, hentry, (beq_iff_eq.1 hkey).symm⟩
  · rintro ⟨entry, hentry, rfl⟩
    exact ⟨entry, hentry, beq_self_eq_true _⟩

theorem mem_iff_get?_of_sorted {fields : Fields α} (h : fields.Sorted) {key : String} {value : α} :
    (key, value) ∈ fields ↔ fields.get? key = some value := by
  refine ⟨fun hmem => ?_, mem_of_get?⟩
  have hsome := isSome_get?_iff.2 (List.mem_map_of_mem hmem)
  obtain ⟨other, hother⟩ := Option.isSome_iff_exists.1 hsome
  -- The keys differ, so there is one entry for this one.
  cases List.inj_on_of_nodup_map (nodup_keys_of_sorted h) hmem (mem_of_get? hother) rfl
  exact hother

theorem ext_of_sorted {fields others : Fields α} (h : fields.Sorted) (ho : others.Sorted)
    (hget : ∀ key, fields.get? key = others.get? key) : fields = others := by
  have hmem : ∀ entry : String × α, entry ∈ fields ↔ entry ∈ others := by
    rintro ⟨key, value⟩
    rw [mem_iff_get?_of_sorted h, hget, ← mem_iff_get?_of_sorted ho]
  have hnodup : ∀ {fs : Fields α}, fs.Sorted → fs.Nodup := fun hs =>
    List.Nodup.of_map Prod.fst (nodup_keys_of_sorted hs)
  have hperm := (List.perm_ext_iff_of_nodup (hnodup h) (hnodup ho)).2 hmem
  refine hperm.eq_of_pairwise (fun a b _ _ hab hba => ?_) h ho
  exact absurd hba (String.lt_asymm hab)

theorem get?_map (f : α → β) (fields : Fields α) (key : String) :
    Fields.get? (fields.map fun (k, a) => (k, f a)) key = (fields.get? key).map f := by
  induction fields with
  | nil => rfl
  | cons entry rest ih =>
      obtain ⟨k, a⟩ := entry
      rw [List.map_cons, get?_cons, get?_cons, ih]
      split <;> rfl

theorem sorted_map (f : α → β) {fields : Fields α} :
    Fields.Sorted (fields.map fun (k, a) => (k, f a)) ↔ fields.Sorted := List.pairwise_map

theorem get?_erase (fields : Fields α) (k key : String) :
    (fields.erase k).get? key = if key = k then none else fields.get? key := by
  induction fields with
  | nil => exact (ite_self none).symm
  | cons entry rest ih =>
      obtain ⟨k', v⟩ := entry
      by_cases hk : k' = k
      · subst hk
        rw [erase, List.filter_cons_of_neg (by simp), ← erase, ih, get?_cons]
        split <;> rfl
      · rw [erase, List.filter_cons_of_pos (by simpa using hk), ← erase, get?_cons, ih, get?_cons]
        by_cases hkey : key = k'
        · rw [if_pos hkey, if_pos hkey, if_neg fun h => hk (hkey.symm.trans h)]
        · rw [if_neg hkey, if_neg hkey]

theorem ofPairs_append_singleton (pairs : List (String × α)) (key : String) (value : α) :
    ofPairs (pairs ++ [(key, value)]) = (ofPairs pairs).insert key value := by
  simp only [ofPairs, List.foldl_append, List.foldl_cons, List.foldl_nil]

theorem sorted_ofPairs (pairs : List (String × α)) : (ofPairs pairs).Sorted := by
  induction pairs using List.reverseRecOn with
  | nil => exact .nil
  | append_singleton pairs entry ih =>
      rw [ofPairs_append_singleton]
      exact sorted_insert ih entry.1 entry.2

theorem mem_of_mem_ofPairs {pairs : List (String × α)} {entry : String × α}
    (h : entry ∈ ofPairs pairs) : entry ∈ pairs := by
  induction pairs using List.reverseRecOn with
  | nil => cases h
  | append_singleton pairs last ih =>
      rw [ofPairs_append_singleton] at h
      rcases mem_insert h with rfl | h
      · exact List.mem_append_right _ List.mem_cons_self
      · exact List.mem_append_left _ (ih h)

theorem get?_ofPairs (pairs : List (String × α)) (field : String) :
    (ofPairs pairs).get? field = pairs.reverse.lookup field := by
  induction pairs using List.reverseRecOn with
  | nil => rfl
  | append_singleton pairs entry ih =>
      rw [ofPairs_append_singleton, get?_insert, List.reverse_concat, ih]
      exact (get?_cons pairs.reverse entry.1 field entry.2).symm

theorem foldl_insert_of_sorted {pairs : List (String × α)} :
    ∀ fields : Fields α, Sorted (fields ++ pairs) →
      pairs.foldl (fun fields entry => fields.insert entry.1 entry.2) fields = fields ++ pairs := by
  induction pairs with
  | nil =>
      intro fields _
      rw [List.append_nil]
      rfl
  | cons entry rest ih =>
      obtain ⟨key, value⟩ := entry
      intro fields h
      have hlt : ∀ e ∈ fields, e.1 < key := fun e he =>
        (List.pairwise_append.1 h).2.2 e he (key, value) (List.mem_cons_self ..)
      rw [List.append_cons] at h
      rw [List.foldl_cons, insert_of_lt value hlt, ih _ h, ← List.append_cons]

theorem ofPairs_of_sorted {pairs : List (String × α)} (h : Sorted pairs) : ofPairs pairs = pairs :=
  foldl_insert_of_sorted [] h

end RemoteQuery.Fields
