import RemoteQuery.Text.Blank
import RemoteQuery.Text.Lower
import RemoteQuery.Proofs.Text.Utf8

namespace RemoteQuery.Text

def lowerChar (c : Char) : Char :=
  if 65 ≤ c.toNat ∧ c.toNat ≤ 90 then Char.ofNat (c.toNat + 32)
  else if c.toNat = 0x212A then 'k'
  else c

variable {c : Char} {cs t : List Char} {isFinal : List Char → List Char → Bool}

theorem CapitalRun.lowered_bounds {run : CapitalRun} {n : Nat} (h : run.has n = true) :
    run.first ≤ n ∧ n ≤ run.last ∧ run.lower ≤ run.lowered n ∧
      run.lowered n ≤ run.lower + (run.last - run.first) := by
  simp only [CapitalRun.has, Bool.and_eq_true, decide_eq_true_eq] at h
  simp only [CapitalRun.lowered]
  omega

/-- The lower case of every run is made of characters, and that of two runs alone begins in ASCII. -/
theorem capitalRuns_sound : ∀ run ∈ capitalRuns,
    (run.lower + (run.last - run.first) < 0xD800 ∨
      0xDFFF < run.lower ∧ run.lower + (run.last - run.first) < 0x110000) ∧
    (0x80 ≤ run.lower ∨ run.last < 0x80 ∨ run.first = 0x212A ∧ run.last = 0x212A) := by
  decide +kernel

theorem lowerCode_cases (n : Nat) :
    lowerCode n = n ∨ ∃ run ∈ capitalRuns, run.has n = true ∧ lowerCode n = run.lowered n := by
  rw [lowerCode]
  cases hfind : capitalRuns.find? (fun run => run.has n) with
  | none => exact .inl rfl
  | some run =>
      have hhas : run.has n = true := List.find?_some (p := fun run : CapitalRun => run.has n) hfind
      exact .inr ⟨run, List.mem_of_find?_eq_some hfind, hhas, rfl⟩

theorem le_toNat_lowerCode (hascii : 0x80 ≤ c.toNat) (hkelvin : c.toNat ≠ 0x212A) :
    0x80 ≤ (Char.ofNat (lowerCode c.toNat)).toNat := by
  rcases lowerCode_cases c.toNat with hself | ⟨run, hmem, hhas, hrun⟩
  · rw [hself, Char.ofNat_toNat]
    exact hascii
  · have hbounds := CapitalRun.lowered_bounds hhas
    obtain ⟨hscalar, hlower⟩ := capitalRuns_sound run hmem
    rw [hrun, Utf8.toNat_ofNat_of_scalar (by omega)]
    omega

theorem lowerCode_ascii : ∀ n < 0x80, lowerCode n = if 65 ≤ n ∧ n ≤ 90 then n + 32 else n := by
  decide +kernel

theorem lowerCode_kelvin : lowerCode 0x212A = 0x6B := by decide +kernel

def LowersToAscii (c : Char) : Prop := c.toNat < 0x80 ∨ c.toNat = 0x212A

theorem lowerOf_eq (h : LowersToAscii c) (final : Bool) : lowerOf final c = [lowerChar c] := by
  have hne : ∀ d : Char, ¬LowersToAscii d → c ≠ d := by
    rintro d hd rfl
    exact hd h
  have hdotted : c ≠ '\u0130' := hne _ (by simp [LowersToAscii])
  have hsigma : c ≠ '\u03A3' := hne _ (by simp [LowersToAscii])
  rw [lowerOf, if_neg hdotted, if_neg hsigma, lowerChar]
  congr 1
  rcases h with h | h
  · rw [lowerCode_ascii _ h]
    split
    · rfl
    · rw [if_neg (by omega), Char.ofNat_toNat]
  · rw [h, lowerCode_kelvin]
    rfl

theorem exists_mem_lowerOf (h : ¬LowersToAscii c) (final : Bool) :
    ∃ d ∈ lowerOf final c, 0x80 ≤ d.toNat := by
  rw [lowerOf]
  split
  · exact ⟨'\u0307', by decide, by decide⟩
  · split
    · cases final with
      | true => exact ⟨'\u03C2', by decide, by decide⟩
      | false => exact ⟨'\u03C3', by decide, by decide⟩
    · simp only [LowersToAscii, not_or, Nat.not_lt] at h
      exact ⟨_, List.mem_singleton_self _, le_toNat_lowerCode h.1 h.2⟩

theorem lowerChar_of_not (h : ¬LowersToAscii c) : lowerChar c = c := by
  simp only [LowersToAscii, not_or, Nat.not_lt] at h
  rw [lowerChar, if_neg (by omega), if_neg h.2]

theorem lowersToAscii_of_lowerChar (h : (lowerChar c).toNat < 0x80) : LowersToAscii c := by
  by_cases hc : LowersToAscii c
  · exact hc
  · rw [lowerChar_of_not hc] at h
    exact .inl h

theorem lowerFrom_eq_map (h : ∀ c ∈ cs, LowersToAscii c) (before : List Char) :
    lowerFrom isFinal before cs = cs.map lowerChar := by
  induction cs generalizing before with
  | nil => rfl
  | cons c cs ih =>
      obtain ⟨hc, hcs⟩ := List.forall_mem_cons.1 h
      rw [lowerFrom, lowerOf_eq hc, ih hcs]
      rfl

theorem lowersToAscii_of_lowerFrom {before : List Char}
    (h : ∀ d ∈ lowerFrom isFinal before cs, d.toNat < 0x80) : ∀ c ∈ cs, LowersToAscii c := by
  induction cs generalizing before with
  | nil => nofun
  | cons c cs ih =>
      rw [lowerFrom, List.forall_mem_append] at h
      refine List.forall_mem_cons.2 ⟨?_, ih h.2⟩
      by_cases hc : LowersToAscii c
      · exact hc
      · obtain ⟨d, hd, hle⟩ := exists_mem_lowerOf hc (isFinal before cs)
        exact absurd (h.1 d hd) (Nat.not_lt.2 hle)

theorem lower_eq_iff (ht : ∀ d ∈ t, d.toNat < 0x80) :
    lower isFinal cs = t ↔ cs.map lowerChar = t := by
  constructor
  · rintro rfl
    exact (lowerFrom_eq_map (lowersToAscii_of_lowerFrom ht) []).symm
  · rintro rfl
    refine lowerFrom_eq_map (fun c hc => ?_) []
    exact lowersToAscii_of_lowerChar (ht _ (List.mem_map_of_mem hc))

theorem toNat_lowerChar (c : Char) : (lowerChar c).toNat =
    if 65 ≤ c.toNat ∧ c.toNat ≤ 90 then c.toNat + 32
    else if c.toNat = 0x212A then 0x6B else c.toNat := by
  rw [lowerChar]
  split
  · exact Utf8.toNat_ofNat_of_scalar (by omega)
  · split <;> rfl

theorem isBlank_eq_false (h : 65 ≤ c.toNat ∧ c.toNat ≤ 122 ∨ c.toNat = 0x212A) :
    isBlank c = false := by
  simp only [isBlank, Bool.or_eq_false_iff, Bool.and_eq_false_iff, decide_eq_false_iff_not,
    beq_eq_false_iff_ne]
  omega

theorem isBlank_lowerChar (c : Char) : isBlank (lowerChar c) = isBlank c := by
  have hlower := toNat_lowerChar c
  split at hlower
  · rw [isBlank_eq_false (.inl (by omega)), isBlank_eq_false (.inl (by omega))]
  · split at hlower
    · rw [isBlank_eq_false (.inl (by omega)), isBlank_eq_false (.inr (by omega))]
    · rw [isBlank, isBlank, hlower]

theorem lowerChar_toLower_ascii :
    ∀ n < 0x80, lowerChar (Char.ofNat n).toLower = lowerChar (Char.ofNat n) := by
  decide

theorem lowerChar_toLower (c : Char) : lowerChar c.toLower = lowerChar c := by
  by_cases hc : c.toNat < 0x80
  · have hlower := lowerChar_toLower_ascii c.toNat hc
    rwa [Char.ofNat_toNat] at hlower
  · have hself : c.toLower = c := by
      refine dif_neg ?_
      rw [UInt32.le_iff_toNat_le, Char.toNat_val]
      simp
      omega
    rw [hself]

end RemoteQuery.Text
