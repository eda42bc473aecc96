import RemoteQuery.Json.Parser
import RemoteQuery.Json.Printer

namespace RemoteQuery.Json

theorem readChars?_plain {c : Char} (hquote : c ≠ '"') (hescape : c ≠ '\\') (hcontrol : ¬c.toNat < 32)
    (fuel : Nat) (rest : List Char) :
    readChars? (fuel + 1) (c :: rest) = (readChars? fuel rest).map fun (ds, rest) => (c :: ds, rest) := by
  simp only [readChars?, hquote, hescape, hcontrol, if_false]
  cases readChars? fuel rest <;> rfl

theorem readChars?_escape {cs rest : List Char} {c : Char} (h : readEscape? cs = some (c, rest))
    (fuel : Nat) :
    readChars? (fuel + 1) ('\\' :: cs) = (readChars? fuel rest).map fun (ds, rest) => (c :: ds, rest) := by
  have hquote : ('\\' : Char) ≠ '"' := by decide
  simp only [readChars?, hquote, if_false, if_true, h, Option.bind_eq_bind, Option.bind_some]
  cases readChars? fuel rest <;> rfl

theorem readEscape?_control {c : Char} (h : c.toNat < 32) (rest : List Char) :
    readEscape? ('u' :: '0' :: '0' :: Text.lowerHex (c.toNat / 16) :: Text.lowerHex (c.toNat % 16)
      :: rest) = some (c, rest) := by
  have hzero : Text.hexValue? '0' = some 0 := by decide
  have hhigh := Text.hexValue?_lowerHex (show c.toNat / 16 < 16 by omega)
  have hlow := Text.hexValue?_lowerHex (show c.toNat % 16 < 16 by omega)
  have hvalue : ((0 * 16 + 0) * 16 + c.toNat / 16) * 16 + c.toNat % 16 = c.toNat := by omega
  have hhex : readHex4? ('0' :: '0' :: Text.lowerHex (c.toNat / 16) :: Text.lowerHex (c.toNat % 16)
      :: rest) = some (c.toNat, rest) := by
    simp only [readHex4?, hzero, hhigh, hlow, Option.bind_eq_bind, Option.bind_some, hvalue]
    rfl
  have hnotHigh : isHighSurrogate c.toNat = false := by
    simp only [isHighSurrogate, Bool.and_eq_false_iff, decide_eq_false_iff_not]
    omega
  have hnotLow : isLowSurrogate c.toNat = false := by
    simp only [isLowSurrogate, Bool.and_eq_false_iff, decide_eq_false_iff_not]
    omega
  simp only [readEscape?, readUnicode?, hhex, Option.bind_eq_bind, Option.bind_some, hnotHigh,
    hnotLow, Bool.false_eq_true, if_false, Char.ofNat_toNat]
  rfl

theorem readChars?_escapeChar (c : Char) (fuel : Nat) (rest : List Char) :
    readChars? (fuel + 1) (escapeChar c ++ rest)
      = (readChars? fuel rest).map fun (ds, rest) => (c :: ds, rest) := by
  have hchar : ∀ n, c.toNat = n → c = Char.ofNat n := by
    rintro n rfl
    exact (Char.ofNat_toNat c).symm
  by_cases hquote : c = '"'
  · subst hquote
    exact readChars?_escape rfl fuel
  by_cases hescape : c = '\\'
  · subst hescape
    exact readChars?_escape rfl fuel
  by_cases hbackspace : c.toNat = 8
  · rw [hchar 8 hbackspace]
    exact readChars?_escape rfl fuel
  by_cases hformFeed : c.toNat = 12
  · rw [hchar 12 hformFeed]
    exact readChars?_escape rfl fuel
  by_cases hnewline : c = '\n'
  · subst hnewline
    exact readChars?_escape rfl fuel
  by_cases hreturn : c = '\r'
  · subst hreturn
    exact readChars?_escape rfl fuel
  by_cases htab : c = '\t'
  · subst htab
    exact readChars?_escape rfl fuel
  by_cases hcontrol : c.toNat < 32
  · rw [escapeChar, if_neg hquote, if_neg hescape, if_neg hbackspace, if_neg hformFeed,
      if_neg hnewline, if_neg hreturn, if_neg htab, if_pos hcontrol]
    exact readChars?_escape (readEscape?_control hcontrol rest) fuel
  · rw [escapeChar, if_neg hquote, if_neg hescape, if_neg hbackspace, if_neg hformFeed,
      if_neg hnewline, if_neg hreturn, if_neg htab, if_neg hcontrol]
    exact readChars?_plain hquote hescape hcontrol fuel rest

theorem readChars?_quoted (cs rest : List Char) :
    ∀ fuel, cs.length < fuel →
      readChars? fuel (cs.flatMap escapeChar ++ '"' :: rest) = some (cs, rest) := by
  induction cs with
  | nil =>
      intro fuel h
      obtain ⟨fuel, rfl⟩ := Nat.exists_eq_add_one.2 h
      rfl
  | cons c cs ih =>
      intro fuel h
      obtain ⟨fuel, rfl⟩ := Nat.exists_eq_add_one.2 (Nat.zero_lt_of_lt h)
      have hcs := ih fuel (Nat.lt_of_succ_lt_succ h)
      rw [List.flatMap_cons, List.append_assoc, readChars?_escapeChar, hcs]
      rfl

theorem escapeChar_ne_nil (c : Char) : escapeChar c ≠ [] := by
  simp only [escapeChar]
  repeat' split
  all_goals exact List.cons_ne_nil _ _

theorem length_le_flatMap_escapeChar (cs : List Char) :
    cs.length ≤ (cs.flatMap escapeChar).length := by
  induction cs with
  | nil => exact Nat.le_refl _
  | cons c cs ih =>
      have hc : 0 < (escapeChar c).length := List.length_pos_iff.2 (escapeChar_ne_nil c)
      rw [List.flatMap_cons, List.length_append, List.length_cons]
      omega

theorem readString?_quoted (s : String) (rest : List Char) :
    readString? (s.toList.flatMap escapeChar ++ '"' :: rest) = some (s, rest) := by
  have hlength := length_le_flatMap_escapeChar s.toList
  have hfuel : s.toList.length < (s.toList.flatMap escapeChar ++ '"' :: rest).length + 1 := by
    rw [List.length_append]
    omega
  simp only [readString?, readChars?_quoted _ _ _ hfuel, Option.map_some, String.ofList_toList]

theorem readKey?_quote (key : String) (rest : List Char) :
    readKey? (quote key ++ ':' :: rest) = some (key, rest) := by
  have hskip : skipSpace (quote key ++ ':' :: rest)
      = '"' :: (key.toList.flatMap escapeChar ++ '"' :: ':' :: rest) := by
    rw [quote, List.cons_append, List.append_assoc]
    rfl
  rw [readKey?, hskip]
  simp only [readString?_quoted, Option.bind_eq_bind, Option.bind_some]
  rfl

theorem length_of_readHex4? {cs rest : List Char} {n : Nat} (h : readHex4? cs = some (n, rest)) :
    rest.length < cs.length := by
  rw [readHex4?.eq_def] at h
  split at h
  · simp only [Option.bind_eq_bind, Option.bind_eq_some_iff] at h
    obtain ⟨a, _, b, _, c, _, d, _, h⟩ := h
    cases h
    simp only [List.length_cons]
    omega
  · cases h

theorem length_of_readUnicode? {cs rest : List Char} {c : Char}
    (h : readUnicode? cs = some (c, rest)) : rest.length < cs.length := by
  simp only [readUnicode?, Option.bind_eq_bind, Option.bind_eq_some_iff, Prod.exists] at h
  obtain ⟨n, afterHigh, hhigh, h⟩ := h
  have hlength := length_of_readHex4? hhigh
  split at h
  · split at h
    · simp only [Option.bind_eq_some_iff, Prod.exists] at h
      obtain ⟨low, afterLow, hlow, h⟩ := h
      have hlower := length_of_readHex4? hlow
      split at h
      · obtain ⟨_, rfl⟩ := Prod.mk.inj (Option.some.inj h)
        simp only [List.length_cons] at hlength
        omega
      · cases h
    · cases h
  · split at h
    · cases h
    · obtain ⟨_, rfl⟩ := Prod.mk.inj (Option.some.inj h)
      exact hlength

theorem length_of_readEscape? {cs rest : List Char} {c : Char}
    (h : readEscape? cs = some (c, rest)) : rest.length < cs.length := by
  rw [readEscape?.eq_def] at h
  split at h
  case h_9 => exact Nat.lt_succ_of_lt (length_of_readUnicode? h)
  case h_10 => cases h
  all_goals
    cases h
    exact Nat.lt_succ_self _

theorem length_of_readChars? :
    ∀ (fuel : Nat) {cs ds rest : List Char}, readChars? fuel cs = some (ds, rest) →
      ds.length + rest.length < cs.length := by
  intro fuel
  induction fuel with
  | zero =>
      intro cs ds rest h
      cases h
  | succ fuel ih =>
      intro cs ds rest h
      cases cs with
      | nil => cases h
      | cons c cs =>
          simp only [readChars?] at h
          split at h
          · cases h
            simp only [List.length_nil, List.length_cons]
            omega
          · split at h
            · simp only [Option.bind_eq_bind, Option.bind_eq_some_iff, Prod.exists] at h
              obtain ⟨d, afterEscape, hescape, tail, left, htail, h⟩ := h
              cases h
              have hlength := length_of_readEscape? hescape
              have hrest := ih htail
              simp only [List.length_cons]
              omega
            · split at h
              · cases h
              · simp only [Option.bind_eq_bind, Option.bind_eq_some_iff, Prod.exists] at h
                obtain ⟨tail, left, htail, h⟩ := h
                cases h
                have hrest := ih htail
                simp only [List.length_cons]
                omega

theorem length_of_readString? {cs rest : List Char} {s : String}
    (h : readString? cs = some (s, rest)) : s.toList.length < cs.length := by
  simp only [readString?, Option.map_eq_some_iff, Prod.exists] at h
  obtain ⟨ds, left, hread, heq⟩ := h
  cases heq
  have hlength := length_of_readChars? _ hread
  rw [String.toList_ofList]
  omega

end RemoteQuery.Json
