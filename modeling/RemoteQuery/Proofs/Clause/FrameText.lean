import RemoteQuery.Proofs.Clause.Frame

namespace RemoteQuery.FrameBound

theorem stripSuffix?_eq_some {suffix cs front : List Char} :
    stripSuffix? suffix cs = some front ↔ cs = front ++ suffix := by
  constructor
  · intro h
    rw [stripSuffix?] at h
    split at h
    · rename_i hsuffix
      obtain ⟨before, rfl⟩ := List.isSuffixOf_iff_suffix.1 hsuffix
      have hfront : before = front := by simpa using h
      rw [hfront]
    · cases h
  · rintro rfl
    exact stripSuffix?_append front suffix

theorem offset?_eq_some {cs : List Char} {n : UInt64} :
    offset? cs = some n ↔ cs = Decimal.digits n.toNat := by
  constructor
  · intro h
    rw [offset?] at h
    split at h
    · rename_i m hparse
      have hlt : m < UInt64.size := (Decimal.parse?_eq_some.1 hparse).2
      obtain ⟨hdigits, heq⟩ := Option.ite_none_right_eq_some.1 h
      cases heq
      rw [UInt64.toNat_ofNat_of_lt' hlt, hdigits]
    · cases h
  · rintro rfl
    exact offset?_digits n

theorem ofChars?_eq_some {cs : List Char} {b : FrameBound} (h : ofChars? cs = some b) :
    cs = b.text.toList := by
  rw [ofChars?] at h
  split at h
  · rename_i front hfront
    obtain ⟨n, hn, rfl⟩ := Option.map_eq_some_iff.1 h
    rw [stripSuffix?_eq_some.1 hfront, offset?_eq_some.1 hn, text, String.toList_ofList]
  · split at h
    · rename_i front hfront
      obtain ⟨n, hn, rfl⟩ := Option.map_eq_some_iff.1 h
      rw [stripSuffix?_eq_some.1 hfront, offset?_eq_some.1 hn, text, String.toList_ofList]
    · cases h

theorem ofText?_eq_some {s : String} {b : FrameBound} : ofText? s = some b ↔ s = b.text := by
  constructor
  · intro h
    rw [ofText?] at h
    split at h
    · rename_i hs
      cases h
      exact hs
    · split at h
      · rename_i hs
        cases h
        exact hs
      · split at h
        · rename_i hs
          cases h
          exact hs
        · exact String.toList_injective (ofChars?_eq_some h)
  · rintro rfl
    exact ofText?_text b

theorem parse_eq_ok {s : String} {b : FrameBound} : parse s = .ok b ↔ s = b.text := by
  rw [← ofText?_eq_some, parse]
  cases ofText? s <;> simp

theorem parse_of_ne {s : String} (h : ∀ b : FrameBound, s ≠ b.text) :
    parse s = .error (.unknownToken "frame bound" s) := by
  rw [parse]
  cases hs : ofText? s with
  | none => rfl
  | some b => exact absurd (ofText?_eq_some.1 hs) (h b)

theorem text_injective {a b : FrameBound} (h : a.text = b.text) : a = b := by
  have ha : ofText? a.text = some b := ofText?_eq_some.2 h
  rw [ofText?_text, Option.some.injEq] at ha
  exact ha

inductive Miswritten : List Char → Prop
  | empty : Miswritten []
  | notDigit {cs : List Char} {c : Char} : c ∈ cs → c.isDigit = false → Miswritten cs
  | leadingZero {cs : List Char} : cs ≠ [] → Miswritten ('0' :: cs)
  | outOfRange {cs : List Char} : UInt64.size ≤ Decimal.ofDigits cs → Miswritten cs

theorem not_miswritten_digits (n : UInt64) : ¬Miswritten (Decimal.digits n.toNat) := by
  intro h
  generalize hcs : Decimal.digits n.toNat = cs at h
  cases h with
  | empty => exact absurd hcs Nat.toDigits_ne_nil
  | notDigit hmem hc =>
      rw [← hcs] at hmem
      rw [Decimal.isDigit_of_mem_digits hmem] at hc
      cases hc
  | leadingZero hne => exact hne (Decimal.eq_nil_of_digits_eq_zero_cons hcs)
  | outOfRange hsize =>
      rw [← hcs, Decimal.ofDigits_digits] at hsize
      exact absurd n.toNat_lt_size (Nat.not_lt.2 hsize)

def offsetSuffixes : List (List Char) := [precedingSuffix, followingSuffix]

theorem ofText?_append {front suffix : List Char} (hsuffix : suffix ∈ offsetSuffixes)
    (hfront : front ≠ "UNBOUNDED".toList) :
    ofText? (String.ofList (front ++ suffix)) = ofChars? (front ++ suffix) := by
  have hwords : ∀ word ∈ ["UNBOUNDED PRECEDING", "CURRENT ROW", "UNBOUNDED FOLLOWING"],
      ∀ suffix ∈ offsetSuffixes,
        stripSuffix? suffix word.toList ∈ [none, some "UNBOUNDED".toList] := by
    decide
  have hne : ∀ word ∈ ["UNBOUNDED PRECEDING", "CURRENT ROW", "UNBOUNDED FOLLOWING"],
      String.ofList (front ++ suffix) ≠ word := by
    rintro word hword rfl
    have hchars : (String.ofList (front ++ suffix)).toList = front ++ suffix :=
      String.toList_ofList
    have hstrip := hwords _ hword suffix hsuffix
    rw [hchars, stripSuffix?_append, List.mem_cons, List.mem_singleton] at hstrip
    rcases hstrip with hstrip | hstrip
    · cases hstrip
    · exact hfront (Option.some.inj hstrip)
  simp only [List.forall_mem_cons] at hne
  rw [ofText?, if_neg hne.1, if_neg hne.2.1, if_neg hne.2.2.1, String.toList_ofList]

theorem offset?_of_miswritten {cs : List Char} (h : Miswritten cs) : offset? cs = none := by
  cases hoffset : offset? cs with
  | none => rfl
  | some n =>
      rw [offset?_eq_some] at hoffset
      exact absurd (hoffset ▸ h) (not_miswritten_digits n)

theorem ofChars?_of_miswritten {front suffix : List Char} (hsuffix : suffix ∈ offsetSuffixes)
    (hfront : Miswritten front) : ofChars? (front ++ suffix) = none := by
  simp only [offsetSuffixes, List.mem_cons, List.not_mem_nil, or_false] at hsuffix
  rcases hsuffix with rfl | rfl
  · rw [ofChars?, stripSuffix?_append]
    simp only [offset?_of_miswritten hfront, Option.map_none]
  · rw [ofChars?, stripSuffix?_preceding_following, stripSuffix?_append]
    simp only [offset?_of_miswritten hfront, Option.map_none]

theorem parse_canonical (s : String) :
    (∀ b : FrameBound, parse s = .ok b ↔ s = b.text) ∧
      ((∀ b : FrameBound, s ≠ b.text) → parse s = .error (.unknownToken "frame bound" s)) ∧
      (∀ b : FrameBound, parse b.text = .ok b) ∧
      (∀ a b : FrameBound, a.text = b.text → a = b) ∧
      ∀ front, ∀ suffix ∈ offsetSuffixes, Miswritten front → front ≠ "UNBOUNDED".toList →
        s = String.ofList (front ++ suffix) → parse s = .error (.unknownToken "frame bound" s) := by
  refine ⟨fun b => parse_eq_ok, parse_of_ne, fun b => parse_eq_ok.2 rfl,
    fun a b => text_injective, ?_⟩
  rintro front suffix hsuffix hfront hne rfl
  rw [parse, ofText?_append hsuffix hne, ofChars?_of_miswritten hsuffix hfront]

theorem parse_canonical_tooFar : Miswritten "18446744073709551616".toList ∧
    parse "18446744073709551616 PRECEDING"
      = .error (.unknownToken "frame bound" "18446744073709551616 PRECEDING") := by
  have hfront : Miswritten "18446744073709551616".toList := .outOfRange (by decide)
  exact ⟨hfront, (parse_canonical _).2.2.2.2 _ precedingSuffix List.mem_cons_self hfront
    (by decide) (by decide)⟩

end RemoteQuery.FrameBound
