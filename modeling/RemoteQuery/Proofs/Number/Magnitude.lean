import Mathlib.Algebra.Order.Field.Power
import Mathlib.Algebra.Order.Ring.Rat
import Mathlib.Tactic.FieldSimp
import RemoteQuery.Proofs.Number.Text
/-!
How large a number is, read off its decimals. Dropping digits keeps the place of the point, but
where the digits that are left carry over to a power of ten; a power of ten that is itself a double
is read as that double, so the shortest decimal of a smaller number never carries over to it. So the
numbers from `10¹⁶` on, and no others, are written with a plus sign.
-/

namespace RemoteQuery

namespace Decimal

def magnitude (d : Decimal) : ℚ := d.coefficient * 10 ^ d.exponent

theorem lt_length_digits_iff {n k : Nat} (hn : 0 < n) : k < (digits n).length ↔ 10 ^ k ≤ n := by
  rcases Nat.eq_zero_or_pos k with rfl | hk
  · simpa [digits, Nat.length_toDigits_pos] using Nat.succ_le_of_lt hn
  · rw [← Nat.not_le, digits, Nat.length_toDigits_le_iff (by decide) hk, Nat.not_lt]

theorem lt_point_iff {d : Decimal} (hd : 0 < d.coefficient) (p : Int) :
    p < d.point ↔ 10 ^ p ≤ d.magnitude := by
  have hpower : (0 : ℚ) < 10 ^ d.exponent := zpow_pos (by decide) _
  have hscale : (10 : ℚ) ^ p = 10 ^ (p - d.exponent) * 10 ^ d.exponent := by
    rw [← zpow_add₀ (by decide), Int.sub_add_cancel]
  have hpoint : p < d.point ↔ p - d.exponent < (digits d.coefficient).length := by
    rw [point]
    omega
  rw [magnitude, hscale, mul_le_mul_iff_left₀ hpower, hpoint]
  cases hk : p - d.exponent with
  | ofNat k =>
      have hlength := lt_length_digits_iff (k := k) hd
      rw [Int.ofNat_eq_natCast, zpow_natCast, Int.ofNat_lt, hlength]
      exact_mod_cast Iff.rfl
  | negSucc k =>
      have hone : (1 : ℚ) ≤ d.coefficient := by exact_mod_cast hd
      have hsmall : (10 : ℚ) ^ Int.negSucc k ≤ 1 :=
        zpow_le_one_of_nonpos₀ (by decide) (Int.le_of_lt (Int.negSucc_lt_zero k))
      exact iff_of_true (by omega) (hsmall.trans hone)

theorem length_digits_of_bounds {n k : Nat} (hlow : 10 ^ k ≤ n) (hhigh : n < 10 ^ (k + 1)) :
    (digits n).length = k + 1 := by
  have hn : 0 < n := Nat.lt_of_lt_of_le (Nat.pow_pos (by decide)) hlow
  have hk := (lt_length_digits_iff hn).2 hlow
  have hnext := mt (lt_length_digits_iff hn).1 (Nat.not_le.2 hhigh)
  omega

theorem length_digits_pow (k : Nat) : (digits (10 ^ k)).length = k + 1 :=
  length_digits_of_bounds (Nat.le_refl _) (Nat.pow_lt_pow_right (by decide) (Nat.lt_succ_self k))

theorem length_digits_div_pow {n k : Nat} (hk : k < (digits n).length) (hn : 0 < n) :
    (digits (n / 10 ^ k)).length = (digits n).length - k := by
  obtain ⟨j, hj⟩ : ∃ j, (digits n).length = j + k + 1 := ⟨(digits n).length - k - 1, by omega⟩
  have hpow : 0 < 10 ^ k := Nat.pow_pos (by decide)
  have hlow : 10 ^ (j + k) ≤ n := (lt_length_digits_iff hn).1 (by omega)
  have hhigh : n < 10 ^ (j + k + 1) :=
    Nat.not_le.1 (mt (lt_length_digits_iff hn).2 (by omega))
  rw [length_digits_of_bounds (k := j)]
  · omega
  · rwa [Nat.le_div_iff_mul_le hpow, ← Nat.pow_add]
  · rwa [Nat.div_lt_iff_lt_mul hpow, ← Nat.pow_add, Nat.add_right_comm]

theorem length_digits_succ {n : Nat} (hn : 0 < n) :
    (digits (n + 1)).length = (digits n).length ∨ n + 1 = 10 ^ (digits n).length := by
  obtain ⟨k, hk⟩ : ∃ k, (digits n).length = k + 1 :=
    ⟨(digits n).length - 1, by have := @Nat.length_toDigits_pos 10 n; rw [digits]; omega⟩
  have hlow : 10 ^ k ≤ n := (lt_length_digits_iff hn).1 (by omega)
  have hhigh : n < 10 ^ (k + 1) := Nat.not_le.1 (mt (lt_length_digits_iff hn).2 (by omega))
  rcases Nat.lt_or_eq_of_le (Nat.succ_le_of_lt hhigh) with hlt | heq
  · rw [hk, length_digits_of_bounds (Nat.le_succ_of_le hlow) hlt]
    exact .inl rfl
  · rw [hk]
    exact .inr heq

end Decimal

namespace BinaryFormat

theorem round_mul_right (f : BinaryFormat) (num den : Nat) {k : Nat} (hk : 0 < k) :
    f.round (num * k) (den * k) = f.round num den := by
  have hunits : num * k * Nat.pow 2 f.scale = num * Nat.pow 2 f.scale * k := Nat.mul_right_comm ..
  have hdiv : ∀ a b : Nat, roundDiv (a * k) (b * k) = roundDiv a b := by
    intro a b
    have hscale : 2 * (a % b * k) = 2 * (a % b) * k := (Nat.mul_assoc ..).symm
    simp only [roundDiv, Nat.mul_div_mul_right _ _ hk, Nat.mul_mod_mul_right, hscale,
      Nat.mul_lt_mul_right hk]
  have hden : ∀ e, den * k * Nat.pow 2 e = den * Nat.pow 2 e * k := fun _ => Nat.mul_right_comm ..
  simp only [round, hunits, hden, hdiv, Nat.mul_div_mul_right _ _ hk]

end BinaryFormat

namespace Binary64

def magnitude (x : Binary64) : ℚ := x.mantissa * 2 ^ ((x.exponent : Int) - 1074)

theorem magnitude_exactDecimal (x : Binary64) : x.exactDecimal.magnitude = x.magnitude := by
  rw [exactDecimal]
  split
  · rename_i hlt
    obtain ⟨k, hk⟩ : ∃ k, 1074 = x.exponent + k := ⟨1074 - x.exponent, by omega⟩
    have hpower : (x.exponent : Int) - 1074 = -(k : Int) := by omega
    have hfive : (5 : ℚ) ^ k * 2 ^ k = 10 ^ k := by rw [← mul_pow]; norm_num
    have hsub : 1074 - x.exponent = k := by omega
    simp only [Decimal.magnitude, magnitude, hpower, hsub, Nat.pow_eq, Nat.cast_mul, Nat.cast_pow,
      Nat.cast_ofNat, zpow_neg, zpow_natCast]
    rw [← hfive]
    field_simp
  · obtain ⟨k, hk⟩ : ∃ k, x.exponent = 1074 + k := ⟨x.exponent - 1074, by omega⟩
    have hpower : (x.exponent : Int) - 1074 = k := by omega
    have hsub : x.exponent - 1074 = k := by omega
    simp only [Decimal.magnitude, magnitude, hpower, hsub, Nat.pow_eq, Nat.cast_mul, Nat.cast_pow,
      Nat.cast_ofNat, zpow_natCast, zpow_zero, mul_one]

theorem magnitude_of_isZero {x : Binary64} (h : x.isZero = true) : x.magnitude = 0 := by
  rw [magnitude, beq_iff_eq.1 h, Nat.cast_zero, zero_mul]

theorem coefficient_exactDecimal_pos {x : Binary64} (hx : x.isZero = false) :
    0 < x.exactDecimal.coefficient := by
  have hmantissa : 0 < x.mantissa := Nat.pos_of_ne_zero (beq_eq_false_iff_ne.1 hx)
  rw [exactDecimal]
  split
  · exact Nat.mul_pos hmantissa (Nat.pow_pos (by decide))
  · exact Nat.mul_pos hmantissa (Nat.pow_pos (by decide))

/-- What is left of a decimal without its last digits, or the next one where that reads as the
number. -/
structure Cut (x : Binary64) (exact : Decimal) (dropped : Nat) (d : Decimal) : Prop where
  exponent : d.exponent = exact.exponent + dropped
  coefficient : d.coefficient = exact.coefficient / 10 ^ dropped ∨
    d.coefficient = exact.coefficient / 10 ^ dropped + 1 ∧ ofDecimal? d = some x

theorem cut_of_dropDigits {x : Binary64} {exact d : Decimal} {dropped : Nat}
    (h : x.dropDigits? exact dropped = some d) : Cut x exact dropped d := by
  simp only [dropDigits?, pickNearest, Nat.pow_eq] at h
  split at h
  · cases h
    exact ⟨rfl, .inl rfl⟩
  · rename_i habove
    cases h
    exact ⟨rfl, .inr ⟨rfl, beq_iff_eq.1 (Bool.and_eq_true_iff.1 habove).2⟩⟩
  · cases h
  · rename_i habove
    have hreads := beq_iff_eq.1 (Bool.and_eq_true_iff.1 habove).2
    split at h
    · cases h
      exact ⟨rfl, .inl rfl⟩
    · split at h
      · cases h
        exact ⟨rfl, .inr ⟨rfl, hreads⟩⟩
      · split at h
        · cases h
          exact ⟨rfl, .inl rfl⟩
        · cases h
          exact ⟨rfl, .inr ⟨rfl, hreads⟩⟩

theorem exists_cut_shortestFrom (x : Binary64) (exact : Decimal) (most : Nat) :
    ∃ dropped ≤ most, Cut x exact dropped (x.shortestFrom exact most) := by
  induction most with
  | zero =>
      refine ⟨0, Nat.le_refl 0, (Int.add_zero _).symm, .inl ?_⟩
      rw [Nat.pow_zero, Nat.div_one]
      rfl
  | succ most ih =>
      rw [shortestFrom]
      cases h : x.dropDigits? exact (most + 1) with
      | some d => exact ⟨most + 1, Nat.le_refl _, cut_of_dropDigits h⟩
      | none =>
          obtain ⟨dropped, hle, hcut⟩ := ih
          exact ⟨dropped, Nat.le_succ_of_le hle, hcut⟩

def tenQuadrillion (negative : Bool) : Binary64 := ⟨negative, 5000000000000000, 1075, by decide⟩

theorem point_exactDecimal_tenQuadrillion (negative : Bool) :
    (tenQuadrillion negative).exactDecimal.point = 17 := by
  cases negative <;> decide +kernel

-- Of the function, not of its value: a match on an open `round` is best never reduced.
theorem ofRatio?_def : @ofRatio? = fun negative num den =>
    match BinaryFormat.double.round num den with
    | (m, e) => ofParts? negative m e := rfl

theorem ofRatio?_of_round {num den m e : Nat} (negative : Bool)
    (h : BinaryFormat.double.round num den = (m, e)) :
    ofRatio? negative num den = ofParts? negative m e :=
  calc
    ofRatio? negative num den
    _ = (match BinaryFormat.double.round num den with
        | (m, e) => ofParts? negative m e) :=
      congrFun (congrFun (congrFun ofRatio?_def negative) num) den
    _ = ofParts? negative m e := by rw [h]

theorem ofRatio?_tenQuadrillion (negative : Bool) {k : Nat} (hk : 0 < k) :
    ofRatio? negative (10 ^ 16 * k) k = some (tenQuadrillion negative) := by
  have hround : BinaryFormat.double.round (10 ^ 16 * k) k = (5000000000000000, 1075) := by
    have hten : 10 ^ 16 = 10000000000000000 := rfl
    have hcommon := BinaryFormat.double.round_mul_right 10000000000000000 1 hk
    rw [Nat.one_mul] at hcommon
    rw [hten, hcommon]
    decide +kernel
  rw [ofRatio?_of_round negative hround]
  exact dif_pos (tenQuadrillion negative).canonical

theorem ofDecimal?_tenQuadrillion {d : Decimal} {j : Nat} (hcoefficient : d.coefficient = 10 ^ j)
    (hpoint : d.point = 17) : ofDecimal? d = some (tenQuadrillion d.negative) := by
  have hexponent : d.exponent = 16 - j := by
    rw [Decimal.point, hcoefficient, Decimal.length_digits_pow] at hpoint
    omega
  have hnonzero : d.coefficient ≠ 0 := by
    rw [hcoefficient]
    exact Nat.pos_iff_ne_zero.1 (Nat.pow_pos (by decide))
  rw [ofDecimal?, if_neg hnonzero, hpoint, if_neg (by decide), if_neg (by decide), hcoefficient,
    hexponent]
  split
  · obtain ⟨k, rfl⟩ : ∃ k, j = 16 + k := ⟨j - 16, by omega⟩
    have hpower : (-(16 - ((16 + k : Nat) : Int))).toNat = k := by omega
    rw [hpower, Nat.pow_eq, Nat.pow_add]
    exact ofRatio?_tenQuadrillion _ (Nat.pow_pos (by decide))
  · obtain ⟨k, hk⟩ : ∃ k, 16 = j + k := ⟨16 - j, by omega⟩
    have hpower : (16 - (j : Int)).toNat = k := by omega
    have hratio := ofRatio?_tenQuadrillion d.negative Nat.one_pos
    rw [Nat.mul_one] at hratio
    rw [hpower, Nat.pow_eq, ← Nat.pow_add, ← hk, hratio]

theorem lt_point_cut_iff {x : Binary64} {dropped : Nat} {d : Decimal} (hx : x.isZero = false)
    (hdropped : dropped < (Decimal.digits x.exactDecimal.coefficient).length)
    (hcut : Cut x x.exactDecimal dropped d) : 16 < d.point ↔ 16 < x.exactDecimal.point := by
  have hpositive := coefficient_exactDecimal_pos hx
  have hlength := Decimal.length_digits_div_pow hdropped hpositive
  rcases hcut.coefficient with hfloor | ⟨hnext, hreads⟩
  · simp only [Decimal.point, hcut.exponent, hfloor, hlength]
    omega
  · have hpos : 0 < x.exactDecimal.coefficient / 10 ^ dropped :=
      Nat.div_pos ((Decimal.lt_length_digits_iff hpositive).1 hdropped) (Nat.pow_pos (by decide))
    rcases Decimal.length_digits_succ hpos with hsame | hcarry
    · simp only [Decimal.point, hcut.exponent, hnext, hsame, hlength]
      omega
    · have hpoint : d.point = x.exactDecimal.point + 1 := by
        simp only [Decimal.point, hcut.exponent, hnext, hcarry, Decimal.length_digits_pow, hlength]
        omega
      -- the power of ten that the digits carry over to would be the number itself
      have hne : x.exactDecimal.point ≠ 16 := by
        intro hsixteen
        rw [hsixteen] at hpoint
        rw [ofDecimal?_tenQuadrillion (hnext.trans hcarry) hpoint, Option.some.injEq] at hreads
        rw [← hreads, point_exactDecimal_tenQuadrillion] at hsixteen
        cases hsixteen
      rw [hpoint]
      omega

theorem lt_point_shortest_iff {x : Binary64} (hx : x.isZero = false) :
    16 < x.shortest.point ↔ 10 ^ 16 ≤ x.magnitude := by
  obtain ⟨dropped, hle, hcut⟩ := exists_cut_shortestFrom x x.exactDecimal
    ((Decimal.digits x.exactDecimal.coefficient).length - 1)
  have hlength : 0 < (Decimal.digits x.exactDecimal.coefficient).length :=
    Nat.length_toDigits_pos
  have hmagnitude := Decimal.lt_point_iff (coefficient_exactDecimal_pos hx) 16
  rw [magnitude_exactDecimal] at hmagnitude
  have hpoint : 16 < x.shortest.point ↔ 16 < x.exactDecimal.point :=
    lt_point_cut_iff hx (by omega) hcut
  rw [hpoint, hmagnitude]
  norm_cast

end Binary64

namespace Decimal

theorem plus_not_mem_digits (n : Nat) : '+' ∉ digits n := by
  intro h
  cases isDigit_of_mem_digits h

theorem plus_not_mem_sign (negative : Bool) : '+' ∉ sign negative := by
  cases negative <;> decide

theorem plus_not_mem_positional {ds : List Char} (h : '+' ∉ ds) (point : Int) :
    '+' ∉ positional ds point := by
  have hzeros : ∀ n, '+' ∉ zeros n := fun _ hmem => by cases List.eq_of_mem_replicate hmem
  have htake : ∀ n, '+' ∉ ds.take n := fun _ hmem => h (List.mem_of_mem_take hmem)
  have hdrop : ∀ n, '+' ∉ ds.drop n := fun _ hmem => h (List.mem_of_mem_drop hmem)
  rw [positional]
  split
  · simp [hzeros, h]
  · split
    · simp [hzeros, h]
    · simp [htake, hdrop]

theorem exists_scientific_eq {ds : List Char} (h : '+' ∉ ds) (point : Int) :
    ∃ front, '+' ∉ front ∧ scientific ds point = front ++
      (if point - 1 < 0 then '-' else '+') :: digits (point - 1).natAbs := by
  have htake : '+' ∉ ds.take 1 := fun hmem => h (List.mem_of_mem_take hmem)
  cases hdrop : ds.drop 1 with
  | nil => exact ⟨ds.take 1 ++ ['e'], by simp [htake], by simp [scientific, hdrop]⟩
  | cons c rest =>
      have hrest : '+' ∉ c :: rest := fun hmem => h (List.mem_of_mem_drop (hdrop ▸ hmem))
      refine ⟨ds.take 1 ++ '.' :: c :: rest ++ ['e'], ?_, ?_⟩
      · rw [List.mem_cons, not_or] at hrest
        simp [htake, hrest]
      · simp only [scientific, hdrop, List.append_assoc, List.cons_append, List.nil_append]

end Decimal

namespace Binary64

variable {x : Binary64}

theorem plus_not_mem_shortestDigits (d : Decimal) : '+' ∉ shortestDigits d := by
  intro h
  rw [shortestDigits, Decimal.dropZeros, List.mem_reverse] at h
  exact Decimal.plus_not_mem_digits _ (List.mem_reverse.1 ((List.dropWhile_sublist _).subset h))

theorem isZero_of_le_magnitude (h : 10 ^ 16 ≤ x.magnitude) : x.isZero = false := by
  rw [← Bool.not_eq_true]
  intro hzero
  rw [magnitude_of_isZero hzero] at h
  exact absurd h (by norm_num)

theorem exists_plus_of_le_magnitude (h : 10 ^ 16 ≤ x.magnitude) :
    ∃ front back, x.render = front ++ '+' :: back ∧ '+' ∉ front ∧ '+' ∉ back := by
  have hx := isZero_of_le_magnitude h
  have hpoint := (lt_point_shortest_iff hx).2 h
  obtain ⟨front, hfront, heq⟩ :=
    Decimal.exists_scientific_eq (plus_not_mem_shortestDigits x.shortest) x.shortest.point
  rw [if_neg (by omega)] at heq
  refine ⟨Decimal.sign x.negative ++ front, Decimal.digits (x.shortest.point - 1).natAbs, ?_, ?_,
    Decimal.plus_not_mem_digits _⟩
  · have hposition : (-5 < x.shortest.point && x.shortest.point ≤ 16) = false := by
      simp only [Bool.and_eq_false_iff, decide_eq_false_iff_not]
      omega
    simp only [render, hx, hposition, heq, Bool.false_eq_true, if_false, List.append_assoc]
  · rw [List.mem_append, not_or]
    exact ⟨Decimal.plus_not_mem_sign _, hfront⟩

theorem plus_not_mem_render (h : ¬10 ^ 16 ≤ x.magnitude) : '+' ∉ x.render := by
  rw [render]
  split
  · cases x.negative <;> decide
  · rename_i hzero
    have hpoint := mt (lt_point_shortest_iff (Bool.eq_false_iff.2 hzero)).1 h
    have hdigits := plus_not_mem_shortestDigits x.shortest
    rw [List.mem_append, not_or]
    refine ⟨Decimal.plus_not_mem_sign _, ?_⟩
    split
    · exact Decimal.plus_not_mem_positional hdigits _
    · rename_i hposition
      obtain ⟨front, hfront, heq⟩ := Decimal.exists_scientific_eq hdigits x.shortest.point
      have hbelow : x.shortest.point - 1 < 0 := by
        simp only [Bool.and_eq_true, decide_eq_true_eq] at hposition
        omega
      rw [heq, if_pos hbelow, List.mem_append, List.mem_cons, not_or, not_or]
      exact ⟨hfront, by decide, Decimal.plus_not_mem_digits _⟩

end Binary64

namespace Number

def isLarge : Number → Bool
  | .float x => 10 ^ 16 ≤ x.magnitude
  | _ => false

theorem isLarge_float (x : Binary64) : (float x).isLarge = true ↔ 10 ^ 16 ≤ x.magnitude :=
  decide_eq_true_iff

theorem exists_plus_of_isLarge {n : Number} (h : n.isLarge = true) :
    ∃ front back, n.render = front ++ '+' :: back ∧ '+' ∉ front ∧ '+' ∉ back := by
  cases n with
  | unsigned n => cases h
  | negative n below => cases h
  | float x => exact Binary64.exists_plus_of_le_magnitude ((isLarge_float x).1 h)

theorem plus_not_mem_render {n : Number} (h : n.isLarge = false) : '+' ∉ n.render := by
  cases n with
  | unsigned n => exact Decimal.plus_not_mem_digits _
  | negative n below =>
      rw [render, List.mem_cons, not_or]
      exact ⟨by decide, Decimal.plus_not_mem_digits _⟩
  | float x =>
      rw [← Bool.not_eq_true, isLarge_float] at h
      exact Binary64.plus_not_mem_render h

end Number

end RemoteQuery
