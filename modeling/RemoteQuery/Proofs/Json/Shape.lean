import RemoteQuery.Proofs.Json.Quoted
import RemoteQuery.Text.Blank

namespace RemoteQuery.Json

theorem eq_of_readWord? {word cs rest : List Char} {j k : Json}
    (h : readWord? word j cs = some (k, rest)) : k = j := by
  rw [readWord?] at h
  split at h
  · cases h
    rfl
  · cases h

theorem exists_num_of_readNumber? {cs rest : List Char} {j : Json}
    (h : readNumber? cs = some (j, rest)) : ∃ n, j = .num n := by
  simp only [readNumber?, Option.bind_eq_bind, Option.bind_eq_some_iff, Prod.exists] at h
  obtain ⟨l, left, _, n, _, h⟩ := h
  cases h
  exact ⟨n, rfl⟩

theorem exists_list_of_readList? {fuel d : Nat} {cs rest : List Char} {j : Json}
    (h : readList? fuel d cs = some (j, rest)) : ∃ js, j = .list js := by
  cases fuel with
  | zero => simp only [readList?, reduceCtorEq] at h
  | succ fuel =>
      rw [readList?] at h
      split at h
      · cases h
        exact ⟨[], rfl⟩
      · simp only [Option.bind_eq_bind, Option.bind_eq_some_iff, Prod.exists] at h
        obtain ⟨k, _, _, ks, _, _, h⟩ := h
        cases h
        exact ⟨k :: ks, rfl⟩

theorem exists_object_of_readObject? {fuel d : Nat} {cs rest : List Char} {j : Json}
    (h : readObject? fuel d cs = some (j, rest)) : ∃ fields, j = .object fields := by
  cases fuel with
  | zero => simp only [readObject?, reduceCtorEq] at h
  | succ fuel =>
      rw [readObject?] at h
      split at h
      · cases h
        exact ⟨[], rfl⟩
      · simp only [Option.bind_eq_bind, Option.bind_eq_some_iff, Prod.exists] at h
        obtain ⟨_, _, _, _, _, _, _, _, _, h⟩ := h
        cases h
        exact ⟨_, rfl⟩

theorem readString?_of_readValue? {fuel d : Nat} {cs rest : List Char} {s : String}
    (h : readValue? fuel d cs = some (.str s, rest)) :
    ∃ tail, skipSpace cs = '"' :: tail ∧ readString? tail = some (s, rest) := by
  cases fuel with
  | zero => simp only [readValue?, reduceCtorEq] at h
  | succ fuel =>
      rw [readValue?] at h
      split at h
      · cases h
      · rename_i c tail hskip
        by_cases hn : c = 'n'
        · rw [if_pos hn] at h
          cases eq_of_readWord? h
        rw [if_neg hn] at h
        by_cases ht : c = 't'
        · rw [if_pos ht] at h
          cases eq_of_readWord? h
        rw [if_neg ht] at h
        by_cases hf : c = 'f'
        · rw [if_pos hf] at h
          cases eq_of_readWord? h
        rw [if_neg hf] at h
        by_cases hquote : c = '"'
        · rw [if_pos hquote, Option.map_eq_some_iff] at h
          obtain ⟨⟨t, left⟩, hread, heq⟩ := h
          cases heq
          exact ⟨tail, hquote ▸ hskip, hread⟩
        rw [if_neg hquote] at h
        by_cases hbracket : c = '['
        · rw [if_pos hbracket] at h
          split at h
          · cases h
          · obtain ⟨js, hjs⟩ := exists_list_of_readList? h
            cases hjs
        rw [if_neg hbracket] at h
        by_cases hbrace : c = '{'
        · rw [if_pos hbrace] at h
          split at h
          · cases h
          · obtain ⟨fields, hfields⟩ := exists_object_of_readObject? h
            cases hfields
        rw [if_neg hbrace] at h
        obtain ⟨n, hn⟩ := exists_num_of_readNumber? h
        cases hn

theorem parse?_ne_str (s : String) : parse? s ≠ some (.str s) := by
  intro h
  simp only [parse?, parseWithin?] at h
  split at h
  · rename_i j rest hread
    split at h
    · cases h
      obtain ⟨tail, hskip, hstring⟩ := readString?_of_readValue? hread
      -- What is quoted is shorter than the text that quotes it.
      have hlength := length_of_readString? hstring
      have hshort : (skipSpace s.toList).length ≤ s.toList.length :=
        (List.dropWhile_sublist _).length_le
      rw [hskip, List.length_cons] at hshort
      omega
    · cases h
  · cases h

theorem readNumber?_of_isBlank {c : Char} (h : Text.isBlank c = true) (cs : List Char) :
    readNumber? (c :: cs) = none := by
  have hdigit : c.isDigit = false := by
    rw [Bool.eq_false_iff]
    intro hdigit
    simp only [Char.isDigit, Bool.and_eq_true, decide_eq_true_eq, UInt32.le_iff_toNat_le] at hdigit
    simp only [Text.isBlank, Char.toNat, Bool.or_eq_true, Bool.and_eq_true, decide_eq_true_eq,
      beq_iff_eq] at h
    have hzero : '0'.val.toNat = 48 := rfl
    have hnine : '9'.val.toNat = 57 := rfl
    omega
  have hread : Literal.read? (c :: cs) = none := by
    rw [Literal.read?]
    · simp [Literal.readUnsigned?, Literal.readWhole?, Literal.readDigits, hdigit]
    · rintro rest ⟨⟩
      exact absurd h (by decide)
  rw [readNumber?, hread]
  rfl

theorem readValue?_of_blank {cs : List Char} (h : ∀ c ∈ cs, Text.isBlank c = true) (fuel d : Nat) :
    readValue? fuel d cs = none := by
  cases fuel with
  | zero => rw [readValue?]
  | succ fuel =>
      rw [readValue?]
      cases hskip : skipSpace cs with
      | nil => rfl
      | cons c rest =>
          have hblank : Text.isBlank c = true := by
            apply h
            apply (List.dropWhile_sublist isSpace).subset
            rw [← skipSpace, hskip]
            exact List.mem_cons_self
          have hne : ∀ d, Text.isBlank d = false → c ≠ d := by
            rintro d hd rfl
            exact Bool.false_ne_true (hd.symm.trans hblank)
          simp only [hne 'n' (by decide), hne 't' (by decide), hne 'f' (by decide),
            hne '"' (by decide), hne '[' (by decide), hne '{' (by decide), if_false,
            readNumber?_of_isBlank hblank]

theorem parse?_of_blank {s : String} (h : ∀ c ∈ s.toList, Text.isBlank c = true) :
    parse? s = none := by
  rw [parse?, parseWithin?, readFront?, readValue?_of_blank h]

end RemoteQuery.Json
