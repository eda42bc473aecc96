import RemoteQuery.Number.Decimal

namespace RemoteQuery.Decimal

theorem ofDigits_digits (n : Nat) : ofDigits (digits n) = n :=
  Nat.ofDigitChars_toDigits (by decide) (by decide)

theorem isDigit_of_mem_digits {n : Nat} {c : Char} (h : c ∈ digits n) : c.isDigit = true :=
  Nat.isDigit_of_mem_toDigits (by decide) (by decide) h

theorem digits_eq_cons (n : Nat) : ∃ c cs, digits n = c :: cs ∧ c.isDigit = true := by
  cases h : digits n with
  | nil => exact absurd h Nat.toDigits_ne_nil
  | cons c cs =>
      have hc : c ∈ digits n := by rw [h]; exact List.mem_cons_self ..
      exact ⟨c, cs, rfl, isDigit_of_mem_digits hc⟩

theorem head_digits_ne_zero {n : Nat} (hn : 0 < n) {c : Char} {cs : List Char}
    (h : digits n = c :: cs) : c ≠ '0' := by
  induction n using Nat.strongRecOn generalizing cs with
  | ind n ih =>
      by_cases hsmall : n < 10
      · rw [digits, Nat.toDigits_of_lt_base hsmall] at h
        rintro rfl
        have hzero : n.digitChar = '0' := (List.cons.inj h).1
        rw [Nat.digitChar_eq_zero] at hzero
        omega
      · have hsplit := Nat.toDigits_of_base_le (b := 10) (by decide) (Nat.not_lt.1 hsmall)
        obtain ⟨d, ds, hds, _⟩ := digits_eq_cons (n / 10)
        rw [digits, hsplit, ← digits, hds] at h
        have hd : d = c := (List.cons.inj h).1
        exact ih (n / 10) (by omega) (by omega) (hd ▸ hds)

theorem eq_nil_of_digits_eq_zero_cons {n : Nat} {cs : List Char} (h : digits n = '0' :: cs) :
    cs = [] := by
  rcases Nat.eq_zero_or_pos n with rfl | hn
  · rw [digits, Nat.toDigits_zero] at h
    exact (List.cons.inj h).2.symm
  · exact absurd rfl (head_digits_ne_zero hn h)

theorem unsigned?_eq_some {limit n : Nat} {cs : List Char} : unsigned? limit cs = some n ↔
    (cs ≠ [] ∧ (∀ d ∈ cs, d.isDigit = true) ∧ ofDigits cs = n) ∧ n < limit := by
  rw [unsigned?]
  split
  · rename_i hbad
    simp only [reduceCtorEq, false_iff]
    rintro ⟨⟨hne, hdigits, _⟩, _⟩
    rw [Bool.or_eq_true, List.isEmpty_iff, Bool.not_eq_true', ← Bool.not_eq_true,
      List.all_eq_true] at hbad
    exact hbad.elim hne fun hnot => hnot hdigits
  · rename_i hgood
    simp only [Bool.or_eq_true, List.isEmpty_iff, Bool.not_eq_true', ← Bool.not_eq_true,
      List.all_eq_true, not_or, Decidable.not_not] at hgood
    split
    · rename_i hlt
      simp only [Option.some.injEq]
      constructor
      · rintro rfl
        exact ⟨⟨hgood.1, hgood.2, rfl⟩, hlt⟩
      · exact fun h => h.1.2.2
    · rename_i hge
      simp only [reduceCtorEq, false_iff]
      rintro ⟨⟨_, _, rfl⟩, hlt⟩
      exact hge hlt

theorem parse?_eq_some {limit n : Nat} {cs : List Char} : parse? limit cs = some n ↔
    (∃ ds, (cs = ds ∨ cs = '+' :: ds) ∧
      ds ≠ [] ∧ (∀ d ∈ ds, d.isDigit = true) ∧ ofDigits ds = n) ∧ n < limit := by
  rw [parse?.eq_def]
  split
  · rename_i rest
    rw [unsigned?_eq_some]
    constructor
    · rintro ⟨hrest, hlt⟩
      exact ⟨⟨rest, .inr rfl, hrest⟩, hlt⟩
    · rintro ⟨⟨ds, rfl | heq, hds⟩, hlt⟩
      · cases hds.2.1 '+' List.mem_cons_self
      · cases heq
        exact ⟨hds, hlt⟩
  · rename_i hplus
    rw [unsigned?_eq_some]
    constructor
    · rintro ⟨hcs, hlt⟩
      exact ⟨⟨_, .inl rfl, hcs⟩, hlt⟩
    · rintro ⟨⟨ds, rfl | heq, hds⟩, hlt⟩
      · exact ⟨hds, hlt⟩
      · exact absurd heq (hplus ds)

theorem parse?_digits {limit n : Nat} (h : n < limit) : parse? limit (digits n) = some n :=
  parse?_eq_some.2 ⟨⟨_, .inl rfl, Nat.toDigits_ne_nil, fun _ => isDigit_of_mem_digits,
    ofDigits_digits n⟩, h⟩

end RemoteQuery.Decimal
