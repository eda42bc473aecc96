import RemoteQuery.Clause.Frame
import RemoteQuery.Proofs.Number.Digits
import RemoteQuery.Proofs.Wire.Reading

namespace RemoteQuery

open Wire

namespace FrameBound

theorem stripSuffix?_append (front suffix : List Char) :
    stripSuffix? suffix (front ++ suffix) = some front := by
  have hsuffix : suffix.isSuffixOf (front ++ suffix) = true := by
    rw [List.isSuffixOf_iff_suffix]
    exact List.suffix_append front suffix
  simp [stripSuffix?, hsuffix]

theorem stripSuffix?_preceding_following (front : List Char) :
    stripSuffix? precedingSuffix (front ++ followingSuffix) = none := by
  have hsuffix : precedingSuffix.isSuffixOf (front ++ followingSuffix) = false := by
    have hp : precedingSuffix.reverse = ['G', 'N', 'I', 'D', 'E', 'C', 'E', 'R', 'P', ' '] := by
      decide
    have hf : followingSuffix.reverse = ['G', 'N', 'I', 'W', 'O', 'L', 'L', 'O', 'F', ' '] := by
      decide
    simp [List.isSuffixOf, List.isPrefixOf, hp, hf]
  simp [stripSuffix?, hsuffix]

theorem offset?_digits (n : UInt64) : offset? (Decimal.digits n.toNat) = some n := by
  simp [offset?, Decimal.parse?_digits n.toNat_lt_size]

theorem ofChars?_preceding (n : UInt64) :
    ofChars? (Decimal.digits n.toNat ++ precedingSuffix) = some (.preceding n) := by
  simp [ofChars?, stripSuffix?_append, offset?_digits]

theorem ofChars?_following (n : UInt64) :
    ofChars? (Decimal.digits n.toNat ++ followingSuffix) = some (.following n) := by
  simp [ofChars?, stripSuffix?_preceding_following, stripSuffix?_append, offset?_digits]

theorem ofText?_digits (n : Nat) (rest : List Char) :
    ofText? (String.ofList (Decimal.digits n ++ rest)) = ofChars? (Decimal.digits n ++ rest) := by
  obtain ⟨c, cs, hds, hc⟩ := Decimal.digits_eq_cons n
  -- No word begins with a digit.
  have hne : ∀ s : String, (s.toList.head?.all Char.isDigit) = false →
      String.ofList (Decimal.digits n ++ rest) ≠ s := by
    rintro s hs rfl
    simp [hds, hc] at hs
  simp only [ofText?, hne "UNBOUNDED PRECEDING" (by decide), hne "CURRENT ROW" (by decide),
    hne "UNBOUNDED FOLLOWING" (by decide), if_false, String.toList_ofList]

theorem ofText?_text (b : FrameBound) : ofText? b.text = some b := by
  cases b with
  | unboundedPreceding => rfl
  | preceding n => rw [text, ofText?_digits, ofChars?_preceding]
  | currentRow => rfl
  | following n => rw [text, ofText?_digits, ofChars?_following]
  | unboundedFollowing => rfl

@[simp] theorem ofStructure_toStructure (b : FrameBound) : ofStructure b.toStructure = .ok b := by
  simp [ofStructure, toStructure, parse, ofText?_text]

end FrameBound

namespace FrameSpec

@[simp] theorem ofStructure_toStructure (f : FrameSpec) : ofStructure f.toStructure = .ok f := by
  simp [ofStructure, toStructure, Json.record_eq, required, optional_eq]

end FrameSpec

end RemoteQuery
