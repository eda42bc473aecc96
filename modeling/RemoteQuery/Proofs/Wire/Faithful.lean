import RemoteQuery.Proofs.Value.Copy

namespace RemoteQuery

namespace Wire

variable {ι α : Type}

def Faithful (read : ι → Decoded α) : Prop := Relator.LeftUnique fun i a => read i = .ok a

namespace Faithful

theorem ofJson : Faithful fun j => .ok (Value.ofJson j) := by
  intro i j v hi hj
  exact Value.ofJson_injective (Except.ok.inj (hi.trans hj.symm))

theorem values (context : String) : Faithful (values context) := by
  intro i j vs hi hj
  rw [values_eq_ok.1 hi, values_eq_ok.1 hj]

theorem valueMap (context : String) : Faithful (valueMap context) := by
  intro i j fields hi hj
  rw [valueMap_eq_ok.1 hi, valueMap_eq_ok.1 hj]

theorem readBounds : Faithful RangeClause.readBounds := by
  have hbounds : ∀ {j bounds}, RangeClause.readBounds j = .ok bounds →
      j = .values [bounds.1, bounds.2] := by
    intro j bounds h
    obtain ⟨vs, hvs, hpair⟩ := Decoded.bind_eq_ok.1 h
    split at hpair
    · cases hpair
      exact values_eq_ok.1 hvs
    · cases hpair
  intro i j bounds hi hj
  rw [hbounds hi, hbounds hj]

theorem readAll {read : ι → Decoded α} (h : Faithful read) : Faithful (readAll read) := by
  intro is js as hi hj
  exact List.left_unique_forall₂' h (forall₂_of_readAll hi) (forall₂_of_readAll hj)

end Faithful

def ReadSame (fields others : Fields Json) (key : String) (read : Json → Decoded α) : Prop :=
  ∀ i j, fields.get? key = some i → others.get? key = some j → ∃ a, read i = .ok a ∧ read j = .ok a

section Members

variable {fields others : Fields Json} {key context : String} {read : Json → Decoded α}

theorem readSame_of_required {a : α} (h : required fields key context read = .ok a)
    (ho : required others key context read = .ok a) : ReadSame fields others key read := by
  intro i j hi hj
  rw [required, hi] at h
  rw [required, hj] at ho
  exact ⟨a, h, ho⟩

theorem readSame_of_optional {a? : Option α} (h : optional fields key read = .ok a?)
    (ho : optional others key read = .ok a?) : ReadSame fields others key read := by
  intro i j hi hj
  rw [optional, hi] at h
  rw [optional, hj] at ho
  obtain ⟨a, ha, rfl⟩ := Decoded.map_eq_ok.1 h
  obtain ⟨b, hb, heq⟩ := Decoded.map_eq_ok.1 ho
  cases heq
  exact ⟨a, ha, hb⟩

theorem readSame_of_orElse {default a : α} (h : orElse fields key default read = .ok a)
    (ho : orElse others key default read = .ok a) : ReadSame fields others key read := by
  intro i j hi hj
  rw [orElse, hi] at h
  rw [orElse, hj] at ho
  exact ⟨a, h, ho⟩

theorem ReadSame.eq (h : ReadSame fields others key read) (hread : Faithful read) :
    ∀ i j, fields.get? key = some i → others.get? key = some j → i = j := by
  intro i j hi hj
  obtain ⟨a, ha, hb⟩ := h i j hi hj
  exact hread ha hb

end Members

end Wire

end RemoteQuery
