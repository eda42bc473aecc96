import RemoteQuery.Text.Percent
import RemoteQuery.Proofs.Text.Utf8

namespace RemoteQuery.Text.Percent

theorem octets_cons_of_ne {c : Char} (h : c ≠ '%') (rest : List Char) :
    octets (c :: rest) = Utf8.encodeChar c ++ octets rest := by
  rw [octets.eq_def]
  split
  · rename_i heq
    exact absurd (List.cons.inj heq).1 h
  · rename_i heq
    rw [(List.cons.inj heq).1, (List.cons.inj heq).2]
  · rename_i heq
    cases heq

theorem octets_escapeOctet {b : Nat} (h : b < 256) (rest : List Char) :
    octets (escapeOctet b ++ rest) = b :: octets rest := by
  have hhigh := hexValue?_upperHex (show b / 16 < 16 by omega)
  have hlow := hexValue?_upperHex (show b % 16 < 16 by omega)
  have hb : b / 16 * 16 + b % 16 = b := by omega
  simp only [escapeOctet, List.cons_append, List.nil_append, octets, hhigh, hlow, hb]

theorem octets_escape (bs : List Nat) (h : ∀ b ∈ bs, b < 256) (rest : List Char) :
    octets (bs.flatMap escapeOctet ++ rest) = bs ++ octets rest := by
  induction bs with
  | nil => rfl
  | cons b bs ih =>
      have hb := h b (List.mem_cons_self ..)
      have hbs := ih fun x hx => h x (List.mem_cons_of_mem _ hx)
      rw [List.flatMap_cons, List.append_assoc, octets_escapeOctet hb, hbs, List.cons_append]

theorem ne_percent_of_isUnreserved {c : Char} (h : isUnreserved c = true) : c ≠ '%' := by
  rintro rfl
  revert h
  decide

theorem toNat_lt_of_isUnreserved {c : Char} (h : isUnreserved c = true) : c.toNat < 128 := by
  simp only [isUnreserved, Bool.or_eq_true, decide_eq_true_eq] at h
  rcases h with (((h | rfl) | rfl) | rfl) | rfl
  · delta Char.isAlphanum Char.isAlpha Char.isUpper Char.isLower Char.isDigit at h
    simp only [Bool.or_eq_true, Bool.and_eq_true, decide_eq_true_eq, ge_iff_le,
      UInt32.le_iff_toNat_le, Char.toNat_val] at h
    simp at h
    omega
  all_goals decide

theorem octets_encodeChar (c : Char) (rest : List Char) :
    octets (encodeChar c ++ rest) = Utf8.encodeChar c ++ octets rest := by
  rw [encodeChar]
  split
  · rename_i hc
    exact octets_cons_of_ne (ne_percent_of_isUnreserved hc) rest
  · exact octets_escape _ (fun _ => Utf8.lt_of_mem_encodeChar) rest

theorem octets_encode (cs : List Char) : octets (encode cs) = Utf8.encode cs := by
  induction cs with
  | nil => rfl
  | cons c rest ih =>
      have hencode : encode (c :: rest) = encodeChar c ++ encode rest := rfl
      rw [hencode, octets_encodeChar, ih]
      rfl

theorem decode_encode (cs : List Char) : decode (encode cs) = .ok cs := by
  rw [decode, octets_encode, Utf8.decode_encode]

theorem octets_of_not_mem {cs : List Char} (h : '%' ∉ cs) : octets cs = Utf8.encode cs := by
  induction cs with
  | nil => rfl
  | cons c rest ih =>
      rw [List.mem_cons, not_or] at h
      rw [octets_cons_of_ne (Ne.symm h.1), ih h.2]
      rfl

theorem decode_of_not_mem {cs : List Char} (h : '%' ∉ cs) : decode cs = .ok cs := by
  rw [decode, octets_of_not_mem h, Utf8.decode_encode]

inductive Coded : List Char → Prop
  | nil : Coded []
  | unreserved {c : Char} {cs : List Char} : isUnreserved c = true → Coded cs → Coded (c :: cs)
  | escape {a b : Char} {cs : List Char} :
      (hexValue? a).isSome = true → (hexValue? b).isSome = true → Coded cs → Coded ('%' :: a :: b :: cs)

namespace Coded

theorem append {as bs : List Char} (ha : Coded as) (hb : Coded bs) : Coded (as ++ bs) := by
  induction ha with
  | nil => exact hb
  | unreserved hc _ ih => exact .unreserved hc ih
  | escape hx hy _ ih => exact .escape hx hy ih

theorem of_unreserved {cs : List Char} (h : ∀ c ∈ cs, isUnreserved c = true) :
    Coded cs := by
  induction cs with
  | nil => exact .nil
  | cons c cs ih =>
      exact .unreserved (h c List.mem_cons_self) (ih fun d hd => h d (List.mem_cons_of_mem _ hd))

theorem escapeOctets {bs : List Nat} (h : ∀ b ∈ bs, b < 256) : Coded (bs.flatMap escapeOctet) := by
  induction bs with
  | nil => exact .nil
  | cons b bs ih =>
      have hb := h b (List.mem_cons_self ..)
      have hhigh := hexValue?_upperHex (show b / 16 < 16 by omega)
      have hlow := hexValue?_upperHex (show b % 16 < 16 by omega)
      refine .escape (by rw [hhigh]; rfl) (by rw [hlow]; rfl) (ih fun x hx => ?_)
      exact h x (List.mem_cons_of_mem _ hx)

theorem encode (cs : List Char) : Coded (Percent.encode cs) := by
  induction cs with
  | nil => exact .nil
  | cons c rest ih =>
      have hencode : Percent.encode (c :: rest) = encodeChar c ++ Percent.encode rest := rfl
      rw [hencode, encodeChar]
      split
      · rename_i hc
        exact .unreserved hc ih
      · exact append (escapeOctets fun _ => Utf8.lt_of_mem_encodeChar) ih

theorem isUnreserved_of_hex {c : Char} (h : (hexValue? c).isSome = true) :
    isUnreserved c = true := by
  have hlt : c.toNat < 128 := by
    simp only [hexValue?] at h
    split at h
    · omega
    · split at h
      · omega
      · split at h
        · omega
        · cases h
  have hall : ∀ n < 128, (hexValue? (Char.ofNat n)).isSome = true →
      isUnreserved (Char.ofNat n) = true := by decide
  have hc := hall c.toNat hlt
  rw [Char.ofNat_toNat] at hc
  exact hc h

theorem of_mem {c : Char} {cs : List Char} (h : Coded cs) (hc : c ∈ cs) :
    isUnreserved c = true ∨ c = '%' := by
  induction h with
  | nil => cases hc
  | unreserved hd _ ih =>
      rcases List.mem_cons.1 hc with rfl | hc
      · exact .inl hd
      · exact ih hc
  | escape hx hy _ ih =>
      simp only [List.mem_cons] at hc
      rcases hc with rfl | rfl | rfl | hc
      · exact .inr rfl
      · exact .inl (isUnreserved_of_hex hx)
      · exact .inl (isUnreserved_of_hex hy)
      · exact ih hc

theorem ne_of_mem {c sep : Char} {cs : List Char} (h : Coded cs) (hsep : isUnreserved sep = false)
    (hpercent : sep ≠ '%') (hc : c ∈ cs) : c ≠ sep := by
  rintro rfl
  rcases h.of_mem hc with hu | hp
  · rw [hsep] at hu
    cases hu
  · exact hpercent hp

theorem count_eq_zero {cs : List Char} (h : Coded cs) {c : Char}
    (hunreserved : isUnreserved c = false) (hpercent : c ≠ '%') : cs.count c = 0 :=
  List.count_eq_zero.2 fun hc => h.ne_of_mem hunreserved hpercent hc rfl

end Coded

end RemoteQuery.Text.Percent
