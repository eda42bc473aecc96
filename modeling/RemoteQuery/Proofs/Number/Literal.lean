import RemoteQuery.Number.Literal
import RemoteQuery.Proofs.Number.Text

namespace RemoteQuery

namespace Literal

theorem readDigits_append {rest : List Char} (hrest : Stops rest) (cs : List Char) :
    readDigits (cs ++ rest) = ((readDigits cs).1, (readDigits cs).2 ++ rest) := by
  induction cs with
  | nil =>
      cases rest with
      | nil => rfl
      | cons c rest =>
          have hc : c.isDigit = false := by
            have hnumeric := hrest c rfl
            simp only [isNumeric, Bool.or_eq_false_iff] at hnumeric
            exact hnumeric.1.1.1.1.1
          simp [readDigits, hc]
  | cons c cs ih =>
      simp only [readDigits, Prod.mk.injEq] at ih
      cases hc : c.isDigit with
      | true => simp [readDigits, hc, ih]
      | false => simp [readDigits, hc]

variable {cs ds r rest : List Char}

theorem readDigits1?_eq_some :
    readDigits1? cs = some (ds, r) ↔ readDigits cs = (ds, r) ∧ ds ≠ [] := by
  rw [readDigits1?]
  split
  · rename_i heq
    rw [heq]
    constructor
    · rintro ⟨⟩
    · rintro ⟨h, hds⟩
      exact absurd (Prod.mk.inj h).1.symm hds
  · rename_i hnil
    constructor
    · intro h
      have hread : readDigits cs = (ds, r) := Option.some.inj h
      refine ⟨hread, ?_⟩
      rintro rfl
      exact hnil r hread
    · rintro ⟨h, _⟩
      rw [h]

theorem readWhole?_eq_some : readWhole? cs = some (ds, r) ↔
    readDigits cs = (ds, r) ∧ ds ≠ [] ∧ ∀ d tail, ds ≠ '0' :: d :: tail := by
  rw [readWhole?]
  split
  · rename_i heq
    rw [heq]
    constructor
    · rintro ⟨⟩
    · rintro ⟨h, hds, _⟩
      exact absurd (Prod.mk.inj h).1.symm hds
  · rename_i heq
    rw [heq]
    constructor
    · rintro ⟨⟩
    · rintro ⟨h, _, hzero⟩
      exact absurd (Prod.mk.inj h).1.symm (hzero _ _)
  · rename_i hnil hzero
    constructor
    · intro h
      have hread : readDigits cs = (ds, r) := Option.some.inj h
      refine ⟨hread, ?_, ?_⟩
      · rintro rfl
        exact hnil r hread
      · rintro d tail rfl
        exact hzero d tail r hread
    · rintro ⟨h, _⟩
      rw [h]

theorem readDigits1?_append (hrest : Stops rest) (h : readDigits1? cs = some (ds, r)) :
    readDigits1? (cs ++ rest) = some (ds, r ++ rest) := by
  obtain ⟨hread, hds⟩ := readDigits1?_eq_some.1 h
  rw [readDigits1?_eq_some, readDigits_append hrest, hread]
  exact ⟨rfl, hds⟩

theorem readWhole?_append (hrest : Stops rest) (h : readWhole? cs = some (ds, r)) :
    readWhole? (cs ++ rest) = some (ds, r ++ rest) := by
  obtain ⟨hread, hds⟩ := readWhole?_eq_some.1 h
  rw [readWhole?_eq_some, readDigits_append hrest, hread]
  exact ⟨rfl, hds⟩

theorem readFraction?_of_ne {c : Char} (hc : c ≠ '.') (cs : List Char) :
    readFraction? (c :: cs) = some (none, c :: cs) := by
  rw [readFraction?.eq_def]
  split
  · rename_i heq
    exact absurd (List.cons.inj heq).1 hc
  · rfl

theorem readFraction?_append {fraction : Option (List Char)} (hrest : Stops rest)
    (h : readFraction? cs = some (fraction, r)) :
    readFraction? (cs ++ rest) = some (fraction, r ++ rest) := by
  cases cs with
  | nil =>
      cases h
      cases rest with
      | nil => rfl
      | cons c rest => exact readFraction?_of_ne (hrest.ne (by decide)) rest
  | cons c cs =>
      by_cases hc : c = '.'
      · subst hc
        simp only [readFraction?, Option.map_eq_some_iff] at h
        obtain ⟨⟨found, left⟩, hfound, heq⟩ := h
        cases heq
        simp only [List.cons_append, readFraction?, readDigits1?_append hrest hfound,
          Option.map_some]
      · rw [readFraction?_of_ne hc] at h
        cases h
        exact readFraction?_of_ne hc _

theorem readPower?_append {negative : Bool} {exponent : Option Int} (hrest : Stops rest)
    (h : readPower? negative cs = some (exponent, r)) :
    readPower? negative (cs ++ rest) = some (exponent, r ++ rest) := by
  simp only [readPower?, Option.map_eq_some_iff] at h
  obtain ⟨⟨found, left⟩, hfound, heq⟩ := h
  cases heq
  simp only [readPower?, readDigits1?_append hrest hfound, Option.map_some]

def readSignedPower? : List Char → Option (Option Int × List Char)
  | '+' :: rest => readPower? false rest
  | '-' :: rest => readPower? true rest
  | rest => readPower? false rest

theorem readExponent?_cons (c : Char) (cs : List Char) : readExponent? (c :: cs)
    = if c = 'e' ∨ c = 'E' then readSignedPower? cs else some (none, c :: cs) := rfl

theorem readSignedPower?_of_ne {c : Char} (hplus : c ≠ '+') (hminus : c ≠ '-') (cs : List Char) :
    readSignedPower? (c :: cs) = readPower? false (c :: cs) := by
  rw [readSignedPower?.eq_def]
  split
  · rename_i heq
    exact absurd (List.cons.inj heq).1 hplus
  · rename_i heq
    exact absurd (List.cons.inj heq).1 hminus
  · rfl

theorem readSignedPower?_append {exponent : Option Int} (hrest : Stops rest)
    (h : readSignedPower? cs = some (exponent, r)) :
    readSignedPower? (cs ++ rest) = some (exponent, r ++ rest) := by
  cases cs with
  | nil => cases h
  | cons c cs =>
      by_cases hplus : c = '+'
      · subst hplus
        exact readPower?_append hrest h
      by_cases hminus : c = '-'
      · subst hminus
        exact readPower?_append hrest h
      · rw [readSignedPower?_of_ne hplus hminus] at h
        rw [List.cons_append, readSignedPower?_of_ne hplus hminus]
        exact readPower?_append hrest h

theorem readExponent?_append {exponent : Option Int} (hrest : Stops rest)
    (h : readExponent? cs = some (exponent, r)) :
    readExponent? (cs ++ rest) = some (exponent, r ++ rest) := by
  cases cs with
  | nil =>
      cases h
      cases rest with
      | nil => rfl
      | cons c rest =>
          have he : ¬(c = 'e' ∨ c = 'E') := by
            rintro (he | he)
            · exact hrest.ne (by decide) he
            · exact hrest.ne (by decide) he
          rw [List.nil_append, readExponent?_cons, if_neg he]
  | cons c cs =>
      rw [readExponent?_cons] at h
      rw [List.cons_append, readExponent?_cons]
      split at h
      · rename_i hc
        rw [if_pos hc]
        exact readSignedPower?_append hrest h
      · rename_i hc
        rw [if_neg hc]
        cases h
        rfl

theorem readUnsigned?_append {negative : Bool} {l : Literal} (hrest : Stops rest)
    (h : readUnsigned? negative cs = some (l, r)) :
    readUnsigned? negative (cs ++ rest) = some (l, r ++ rest) := by
  simp only [readUnsigned?, Option.bind_eq_bind, Option.bind_eq_some_iff, Prod.exists] at h
  obtain ⟨whole, afterWhole, hwhole, fraction, afterFraction, hfraction, exponent, left, hexponent,
    heq⟩ := h
  cases heq
  simp only [readUnsigned?, readWhole?_append hrest hwhole, readFraction?_append hrest hfraction,
    readExponent?_append hrest hexponent, Option.bind_eq_bind, Option.bind_some]
  rfl

theorem read?_of_ne {c : Char} (hc : c ≠ '-') (cs : List Char) :
    read? (c :: cs) = readUnsigned? false (c :: cs) := by
  rw [read?.eq_def]
  split
  · rename_i heq
    exact absurd (List.cons.inj heq).1 hc
  · rfl

theorem read?_append {l : Literal} (hrest : Stops rest) (h : read? cs = some (l, r)) :
    read? (cs ++ rest) = some (l, r ++ rest) := by
  cases cs with
  | nil => cases h
  | cons c cs =>
      by_cases hc : c = '-'
      · subst hc
        exact readUnsigned?_append hrest h
      · rw [read?_of_ne hc] at h
        rw [List.cons_append, read?_of_ne hc]
        exact readUnsigned?_append hrest h

theorem readDigits_of_all {cs : List Char} (h : ∀ c ∈ cs, c.isDigit = true) :
    readDigits cs = (cs, []) := by
  induction cs with
  | nil => rfl
  | cons c cs ih =>
      have hc := h c (List.mem_cons_self ..)
      have hcs := ih fun d hd => h d (List.mem_cons_of_mem _ hd)
      simp only [readDigits, Prod.mk.injEq] at hcs
      simp [readDigits, hc, hcs]

theorem readUnsigned?_digits (negative : Bool) (n : Nat) :
    readUnsigned? negative (Decimal.digits n) = some (⟨negative, Decimal.digits n, none, none⟩, []) := by
  have hdigits : readDigits (Decimal.digits n) = (Decimal.digits n, []) :=
    readDigits_of_all fun _ => Decimal.isDigit_of_mem_digits
  have hwhole : readWhole? (Decimal.digits n) = some (Decimal.digits n, []) := by
    refine readWhole?_eq_some.2 ⟨hdigits, Nat.toDigits_ne_nil, ?_⟩
    intro d tail h
    cases Decimal.eq_nil_of_digits_eq_zero_cons h
  simp only [readUnsigned?, hwhole]
  rfl

end Literal

def Binary64.half : Binary64 := ⟨false, Nat.pow 2 52, 1021, by decide⟩

namespace Number

def IsLiteral (n : Number) : Prop :=
  ∃ l, Literal.read? n.render = some (l, []) ∧ l.number? = some n

theorem isLiteral_unsigned (n : UInt64) : (unsigned n).IsLiteral := by
  refine ⟨⟨false, Decimal.digits n.toNat, none, none⟩, ?_, ?_⟩
  · obtain ⟨c, cs, hds, hc⟩ := Decimal.digits_eq_cons n.toNat
    have hminus : c ≠ '-' := by
      rintro rfl
      cases hc
    rw [render, hds, Literal.read?_of_ne hminus, ← hds, Literal.readUnsigned?_digits]
  · simp [Literal.number?, Literal.wholeNumber?, Decimal.ofDigits_digits, n.toNat_lt_size]

theorem isLiteral_negative (n : Int64) (below : n < 0) : (negative n below).IsLiteral := by
  refine ⟨⟨true, Decimal.digits n.toInt.natAbs, none, none⟩, ?_, ?_⟩
  · exact Literal.readUnsigned?_digits true n.toInt.natAbs
  · have hbelow : n.toInt < 0 := Int64.lt_iff_toInt_lt.1 below
    have hleast := Int64.le_toInt n
    have hvalue : Int64.ofInt (-(n.toInt.natAbs : Int)) = n := by
      rw [show -(n.toInt.natAbs : Int) = n.toInt by omega, Int64.ofInt_toInt]
    have hrange : 0 < n.toInt.natAbs ∧ n.toInt.natAbs ≤ UInt64.size / 2 := by
      simp only [UInt64.size]
      omega
    have hwhole : Literal.wholeNumber? true n.toInt.natAbs = some (negative n below) := by
      simp only [Literal.wholeNumber?, if_true, hvalue, hrange, below, and_self, dif_pos]
    simp only [Literal.number?, Decimal.ofDigits_digits, hwhole]

theorem isLiteral_half : (float .half).IsLiteral :=
  ⟨⟨false, ['0'], some ['5'], none⟩, by decide +kernel, by decide +kernel⟩

end Number

end RemoteQuery
