import RemoteQuery.Text.Utf8

namespace RemoteQuery.Text.Utf8

theorem scalar_lt (c : Char) : c.toNat < 0xD800 ∨ (0xDFFF < c.toNat ∧ c.toNat < 0x110000) := by
  have h := c.valid
  simpa [UInt32.isValidChar, Nat.isValidChar] using h

theorem lt_of_mem_encodeChar {c : Char} {b : Nat} (h : b ∈ encodeChar c) : b < 256 := by
  have hc := scalar_lt c
  simp only [encodeChar] at h
  split at h
  · simp only [List.mem_cons, List.not_mem_nil, or_false] at h
    omega
  · split at h
    · simp only [List.mem_cons, List.not_mem_nil, or_false] at h
      omega
    · split at h
      · simp only [List.mem_cons, List.not_mem_nil, or_false] at h
        omega
      · simp only [List.mem_cons, List.not_mem_nil, or_false] at h
        omega

variable {n : Nat}

theorem isTail_tail (n : Nat) : isTail (0x80 + n % 64) = true := by
  have hn : n % 64 < 64 := Nat.mod_lt _ (by decide)
  simp only [isTail, Bool.and_eq_true, decide_eq_true_eq]
  omega

theorem lead?_two (hlow : 0x80 ≤ n) (hhigh : n < 0x800) :
    lead? (0xC0 + n / 64) = some (1, 0x80, 0xBF) := by
  rw [lead?, if_neg (by omega), if_pos (by omega)]

theorem lead?_three (hlow : 0x800 ≤ n) (hhigh : n < 0x10000) (hn : n < 0xD800 ∨ 0xDFFF < n) :
    ∃ low high, lead? (0xE0 + n / 4096) = some (2, low, high) ∧
      ¬(0x80 + n / 64 % 64 < low ∨ high < 0x80 + n / 64 % 64) := by
  rw [lead?, if_neg (by omega), if_neg (by omega)]
  -- The first two exclude the second octets of shorter sequences and of surrogates.
  by_cases h0 : 0xE0 + n / 4096 = 0xE0
  · exact ⟨0xA0, 0xBF, by rw [if_pos h0], by omega⟩
  · rw [if_neg h0]
    by_cases hD : 0xE0 + n / 4096 = 0xED
    · exact ⟨0x80, 0x9F, by rw [if_pos hD], by omega⟩
    · exact ⟨0x80, 0xBF, by rw [if_neg hD, if_pos (by omega)], by omega⟩

theorem lead?_four (hlow : 0x10000 ≤ n) (hhigh : n < 0x110000) :
    ∃ low high, lead? (0xF0 + n / 262144) = some (3, low, high) ∧
      ¬(0x80 + n / 4096 % 64 < low ∨ high < 0x80 + n / 4096 % 64) := by
  rw [lead?, if_neg (by omega), if_neg (by omega), if_neg (by omega), if_neg (by omega),
    if_neg (by omega)]
  by_cases h0 : 0xF0 + n / 262144 = 0xF0
  · exact ⟨0x90, 0xBF, by rw [if_pos h0], by omega⟩
  · rw [if_neg h0]
    by_cases h4 : 0xF0 + n / 262144 < 0xF4
    · exact ⟨0x80, 0xBF, by rw [if_pos h4], by omega⟩
    · exact ⟨0x80, 0x8F, by rw [if_neg h4, if_pos (by omega)], by omega⟩

theorem decodeAt_encodeChar (c : Char) (index : Nat) (rest : List Nat) :
    decodeAt index (encodeChar c ++ rest)
      = (decodeAt (index + (encodeChar c).length) rest).map (c :: ·) := by
  have hc := scalar_lt c
  have hchar : ∀ n, n = c.toNat → Char.ofNat n = c := by
    rintro n rfl
    exact Char.ofNat_toNat c
  by_cases h1 : c.toNat < 0x80
  · simp only [encodeChar, h1, if_true, List.cons_append, List.nil_append, decodeAt,
      Char.ofNat_toNat, List.length_cons, List.length_nil]
  by_cases h2 : c.toNat < 0x800
  · have hlead := lead?_two (Nat.not_lt.1 h1) h2
    have hascii : ¬0xC0 + c.toNat / 64 < 0x80 := by omega
    have hsecond : ¬(0x80 + c.toNat % 64 < 0x80 ∨ 0xBF < 0x80 + c.toNat % 64) := by omega
    have hvalue : (0xC0 + c.toNat / 64) % 32 * 64 + (0x80 + c.toNat % 64) % 64 = c.toNat := by
      omega
    simp only [encodeChar, h1, h2, if_false, if_true, List.cons_append, List.nil_append,
      decodeAt.eq_2, hascii, hlead, hsecond, hchar _ hvalue, List.length_cons, List.length_nil]
  by_cases h3 : c.toNat < 0x10000
  · obtain ⟨low, high, hlead, hsecond⟩ := lead?_three (Nat.not_lt.1 h2) h3 (by omega)
    have hascii : ¬0xE0 + c.toNat / 4096 < 0x80 := by omega
    have hvalue : (0xE0 + c.toNat / 4096) % 16 * 4096 + (0x80 + c.toNat / 64 % 64) % 64 * 64
        + (0x80 + c.toNat % 64) % 64 = c.toNat := by
      omega
    simp only [encodeChar, h1, h2, h3, if_false, if_true, List.cons_append, List.nil_append]
    rw [decodeAt.eq_2, if_neg hascii, hlead]
    simp only [hsecond, isTail_tail, Bool.not_true, Bool.false_eq_true, if_false, hchar _ hvalue]
    rfl
  · obtain ⟨low, high, hlead, hsecond⟩ := lead?_four (Nat.not_lt.1 h3) (by omega)
    have hascii : ¬0xF0 + c.toNat / 262144 < 0x80 := by omega
    have hvalue : (0xF0 + c.toNat / 262144) % 8 * 262144 + (0x80 + c.toNat / 4096 % 64) % 64 * 4096
        + (0x80 + c.toNat / 64 % 64) % 64 * 64 + (0x80 + c.toNat % 64) % 64 = c.toNat := by
      omega
    simp only [encodeChar, h1, h2, h3, if_false, List.cons_append, List.nil_append]
    rw [decodeAt.eq_2, if_neg hascii, hlead]
    simp only [hsecond, isTail_tail, Bool.not_true, Bool.false_eq_true, if_false, hchar _ hvalue]
    rfl

theorem decodeAt_encode (cs : List Char) (index : Nat) : decodeAt index (encode cs) = .ok cs := by
  induction cs generalizing index with
  | nil => rfl
  | cons c rest ih =>
      have hencode : encode (c :: rest) = encodeChar c ++ encode rest := rfl
      rw [hencode, decodeAt_encodeChar, ih]
      rfl

theorem decode_encode (cs : List Char) : decode (encode cs) = .ok cs := decodeAt_encode cs 0

theorem isTail_iff {b : Nat} : isTail b = true ↔ 0x80 ≤ b ∧ b < 0xC0 := by
  simp [isTail]

/-- The bounds of a second octet leave out what has a shorter form, the surrogates, and what lies
beyond the last character. -/
theorem lead?_eq_some {a more low high : Nat} (h : lead? a = some (more, low, high)) :
    (more = 1 ∧ 0xC2 ≤ a ∧ a < 0xE0 ∧ 0x80 ≤ low ∧ high ≤ 0xBF) ∨
      (more = 2 ∧ 0xE0 ≤ a ∧ a < 0xF0 ∧ 0x80 ≤ low ∧ high ≤ 0xBF ∧
        (a = 0xE0 → 0xA0 ≤ low) ∧ (a = 0xED → high ≤ 0x9F)) ∨
      (more = 3 ∧ 0xF0 ≤ a ∧ a ≤ 0xF4 ∧ 0x80 ≤ low ∧ high ≤ 0xBF ∧
        (a = 0xF0 → 0x90 ≤ low) ∧ (a = 0xF4 → high ≤ 0x8F)) := by
  simp only [lead?] at h
  repeat' split at h
  all_goals cases h
  all_goals omega

theorem more_eq_three {a more low high : Nat} (h : lead? a = some (more, low, high))
    (hone : more ≠ 1) (htwo : more ≠ 2) : more = 3 := by
  have hcases := lead?_eq_some h
  omega

theorem toNat_ofNat_of_scalar (h : n < 0xD800 ∨ (0xDFFF < n ∧ n < 0x110000)) :
    (Char.ofNat n).toNat = n := by
  have hvalid : n.isValidChar := h
  have hofNat : Char.ofNat n = Char.ofNatAux n hvalid := dif_pos hvalid
  rw [hofNat]
  rfl

section Characters

variable {a b c d low high : Nat}

theorem encodeChar_one (ha : a < 0x80) : encodeChar (Char.ofNat a) = [a] := by
  rw [encodeChar, toNat_ofNat_of_scalar (by omega)]
  exact if_pos ha

theorem encodeChar_two (hlead : lead? a = some (1, low, high)) (hb : ¬(b < low ∨ high < b)) :
    encodeChar (Char.ofNat (a % 32 * 64 + b % 64)) = [a, b] := by
  have ha := lead?_eq_some hlead
  have hn : (Char.ofNat (a % 32 * 64 + b % 64)).toNat = a % 32 * 64 + b % 64 :=
    toNat_ofNat_of_scalar (by omega)
  rw [encodeChar, hn, if_neg (by omega), if_pos (by omega)]
  simp only [List.cons.injEq, and_true]
  omega

theorem encodeChar_three (hlead : lead? a = some (2, low, high)) (hb : ¬(b < low ∨ high < b))
    (hc : isTail c = true) :
    encodeChar (Char.ofNat (a % 16 * 4096 + b % 64 * 64 + c % 64)) = [a, b, c] := by
  have ha := lead?_eq_some hlead
  have hc := isTail_iff.1 hc
  have hn : (Char.ofNat (a % 16 * 4096 + b % 64 * 64 + c % 64)).toNat
      = a % 16 * 4096 + b % 64 * 64 + c % 64 := toNat_ofNat_of_scalar (by omega)
  rw [encodeChar, hn, if_neg (by omega), if_neg (by omega), if_pos (by omega)]
  simp only [List.cons.injEq, and_true]
  omega

theorem encodeChar_four (hlead : lead? a = some (3, low, high)) (hb : ¬(b < low ∨ high < b))
    (hc : isTail c = true) (hd : isTail d = true) :
    encodeChar (Char.ofNat (a % 8 * 262144 + b % 64 * 4096 + c % 64 * 64 + d % 64))
      = [a, b, c, d] := by
  have ha := lead?_eq_some hlead
  have hc := isTail_iff.1 hc
  have hd := isTail_iff.1 hd
  have hn : (Char.ofNat (a % 8 * 262144 + b % 64 * 4096 + c % 64 * 64 + d % 64)).toNat
      = a % 8 * 262144 + b % 64 * 4096 + c % 64 * 64 + d % 64 := toNat_ofNat_of_scalar (by omega)
  rw [encodeChar, hn, if_neg (by omega), if_neg (by omega), if_neg (by omega)]
  simp only [List.cons.injEq, and_true]
  omega

end Characters

theorem encode_of_map_cons {decoded : Except Fault (List Char)} {c : Char} {cs : List Char}
    {front rest : List Nat} (hc : encodeChar c = front)
    (hrest : ∀ ds, decoded = .ok ds → encode ds = rest)
    (h : decoded.map (c :: ·) = .ok cs) : encode cs = front ++ rest := by
  cases decoded with
  | error fault => cases h
  | ok ds =>
      cases h
      rw [encode, List.flatMap_cons, ← encode, hrest ds rfl, hc]

theorem encode_of_decodeAt {index : Nat} {octets : List Nat} {cs : List Char}
    (h : decodeAt index octets = .ok cs) : encode cs = octets := by
  -- The cases are the ways through the decoder; all but five of them end in a fault.
  fun_induction decodeAt index octets generalizing cs with
  | case1 =>
      cases h
      rfl
  | case2 index a rest ha ih => exact encode_of_map_cons (encodeChar_one ha) (fun _ => ih) h
  | case6 index a ha low high b rest hb hlead ih =>
      exact encode_of_map_cons (encodeChar_two hlead hb) (fun _ => ih) h
  | case9 index a ha low high b hb c rest hc hlead _ ih =>
      exact encode_of_map_cons (encodeChar_three hlead hb (by simpa using hc)) (fun _ => ih) h
  | case12 index a ha more low high hlead b hb hone c hc htwo d rest hd ih =>
      cases more_eq_three hlead hone htwo
      exact encode_of_map_cons (encodeChar_four hlead hb (by simpa using hc) (by simpa using hd))
        (fun _ => ih) h
  | _ => cases h

def Valid (octets : List Nat) : Prop := ∃ cs, encode cs = octets

theorem valid_iff {octets : List Nat} : Valid octets ↔ ∃ cs, decode octets = .ok cs := by
  constructor
  · rintro ⟨cs, rfl⟩
    exact ⟨cs, decode_encode cs⟩
  · rintro ⟨cs, hcs⟩
    exact ⟨cs, encode_of_decodeAt hcs⟩

theorem not_valid_iff {octets : List Nat} :
    ¬Valid octets ↔ ∃ fault, decode octets = .error fault := by
  rw [valid_iff]
  cases decode octets <;> simp

end RemoteQuery.Text.Utf8
