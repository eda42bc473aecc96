import Mathlib.Data.List.Forall2
import RemoteQuery.Proofs.Number.Magnitude
import RemoteQuery.Proofs.Query.QueryString
/-!
Which characters a query string is made of. Keys and values are unreserved characters and escapes,
with one exception: a large number is written as it is, with the plus sign of its exponent. So the
equals signs and the ampersands are those that mark out the pairs, and no other reserved character
but these plus signs occurs.
-/

namespace RemoteQuery

open Text

theorem isUnreserved_of_isNumeric {c : Char} (h : isNumeric c = true) (hplus : c ≠ '+') :
    Percent.isUnreserved c = true := by
  simp only [isNumeric, Bool.or_eq_true, decide_eq_true_eq] at h
  rcases h with ((((h | rfl) | rfl) | rfl) | rfl) | rfl
  · simp [Percent.isUnreserved, Char.isAlphanum, h]
  · decide
  · exact absurd rfl hplus
  · decide
  · decide
  · decide

theorem Numeric.coded {cs : List Char} (h : Numeric cs) (hplus : '+' ∉ cs) : Percent.Coded cs :=
  .of_unreserved fun c hc => isUnreserved_of_isNumeric (h c hc) fun heq => hplus (heq ▸ hc)

def Json.isLarge : Json → Bool
  | .num n => n.isLarge
  | _ => false

namespace QueryString

def Spelled (j : Json) (text : List Char) : Prop :=
  if j.isLarge then
    ∃ front back, text = front ++ '+' :: back ∧ Percent.Coded front ∧ Percent.Coded back
  else Percent.Coded text

theorem spelled_num (n : Number) : Spelled (.num n) n.render := by
  have hnumeric := Numeric.render n
  cases hlarge : n.isLarge with
  | false =>
      rw [Spelled, Json.isLarge, hlarge]
      exact hnumeric.coded (Number.plus_not_mem_render hlarge)
  | true =>
      obtain ⟨front, back, heq, hfront, hback⟩ := Number.exists_plus_of_isLarge hlarge
      rw [Spelled, Json.isLarge, hlarge, if_pos rfl]
      rw [heq] at hnumeric
      refine ⟨front, back, heq, ?_, ?_⟩
      · exact (hnumeric.of_subset (List.subset_append_left _ _)).coded hfront
      · exact (hnumeric.of_subset fun c hc =>
          List.mem_append_right _ (List.mem_cons_of_mem _ hc)).coded hback

theorem spelled_component (j : Json) : Spelled j (component j) := by
  have hword : ∀ word : List Char, word.all Percent.isUnreserved = true → Percent.Coded word :=
    fun _ hall => .of_unreserved (List.all_eq_true.1 hall)
  cases j with
  | null => exact hword ['n', 'u', 'l', 'l'] rfl
  | bool b =>
      cases b with
      | true => exact hword ['t', 'r', 'u', 'e'] rfl
      | false => exact hword ['f', 'a', 'l', 's', 'e'] rfl
  | num n => exact spelled_num n
  | str s => exact Percent.Coded.encode s.toList
  | list js => exact Percent.Coded.encode _
  | object fields => exact Percent.Coded.encode _

section Reserved

variable {c : Char} (hunreserved : Percent.isUnreserved c = false) (hpercent : c ≠ '%')
include hunreserved hpercent

theorem Spelled.count_reserved {j : Json} {text : List Char} (h : Spelled j text) :
    text.count c = if c = '+' ∧ j.isLarge = true then 1 else 0 := by
  rw [Spelled] at h
  cases hlarge : j.isLarge with
  | false =>
      rw [hlarge, if_neg Bool.false_ne_true] at h
      simp [h.count_eq_zero hunreserved hpercent]
  | true =>
      rw [hlarge, if_pos rfl] at h
      obtain ⟨front, back, rfl, hfront, hback⟩ := h
      rw [List.count_append, List.count_cons, hfront.count_eq_zero hunreserved hpercent,
        hback.count_eq_zero hunreserved hpercent]
      simp only [Nat.zero_add, beq_iff_eq, and_true, eq_comm (a := '+')]

theorem count_reserved_entryText (entry : String × Json) :
    (entryText entry).count c
      = (if c = '=' then 1 else 0) + if c = '+' ∧ entry.2.isLarge = true then 1 else 0 := by
  have hkey := (Percent.Coded.encode entry.1.toList).count_eq_zero hunreserved hpercent
  have hvalue := (spelled_component entry.2).count_reserved hunreserved hpercent
  rw [entryText_eq, List.count_append, List.count_cons, hkey, hvalue]
  simp only [Nat.zero_add, beq_iff_eq, eq_comm (a := '=')]
  omega

theorem count_reserved_flatten (fields : Fields Json) :
    (fields.map entryText).flatten.count c = (if c = '=' then fields.length else 0)
      + if c = '+' then fields.countP fun entry => entry.2.isLarge else 0 := by
  induction fields with
  | nil => simp
  | cons entry fields ih =>
      rw [List.map_cons, List.flatten_cons, List.count_append, ih,
        count_reserved_entryText hunreserved hpercent, List.countP_cons, List.length_cons]
      by_cases hequals : c = '='
      · simp [hequals, Nat.add_comm]
      · by_cases hplus : c = '+'
        · simp [hplus, Nat.add_comm]
        · simp [hequals, hplus]

theorem count_reserved_encode (fields : Fields Json) :
    (encode (.object fields)).toList.count c = (if c = '=' then fields.length else 0)
      + (if c = '+' then fields.countP fun entry => entry.2.isLarge else 0)
      + if c = '&' then fields.length - 1 else 0 := by
  rw [encode, join_pairs, String.toList_ofList, count_joinWith, List.length_map,
    count_reserved_flatten hunreserved hpercent]

end Reserved

theorem forall₂_pairs (fields : Fields Json) :
    List.Forall₂ (fun entry pair => pair.1 = entry.1 ∧ Spelled entry.2 pair.2.toList)
      fields (pairs (.object fields)) := by
  rw [pairs, List.forall₂_map_right_iff, List.forall₂_same]
  intro entry _
  refine ⟨rfl, ?_⟩
  rw [String.toList_ofList]
  exact spelled_component entry.2

theorem encode_safe_but_plus (fields : Fields Json) :
    List.Forall₂ (fun entry pair => pair.1 = entry.1 ∧ Spelled entry.2 pair.2.toList)
        fields (pairs (.object fields)) ∧
      (encode (.object fields)).toList = joinWith '&' ((pairs (.object fields)).map fun pair =>
        Percent.encode pair.1.toList ++ '=' :: pair.2.toList) ∧
      (encode (.object fields)).toList.count '=' = fields.length ∧
      (encode (.object fields)).toList.count '&' = fields.length - 1 ∧
      (encode (.object fields)).toList.count '+' = fields.countP (fun entry => entry.2.isLarge) ∧
      ∀ c ∈ (encode (.object fields)).toList,
        Percent.isUnreserved c = true ∨ c = '%' ∨ c = '=' ∨ c = '&' ∨ c = '+' := by
  refine ⟨forall₂_pairs fields, String.toList_ofList, ?_, ?_, ?_, ?_⟩
  · rw [count_reserved_encode (by decide) (by decide)]
    rfl
  · rw [count_reserved_encode (by decide) (by decide)]
    exact Nat.zero_add _
  · rw [count_reserved_encode (by decide) (by decide)]
    exact Nat.zero_add _
  · intro c hc
    by_contra hnone
    obtain ⟨hunreserved, hpercent, hequals, hampersand, hplus⟩ := by
      simpa only [not_or, Bool.not_eq_true] using hnone
    have hcount := count_reserved_encode hunreserved hpercent fields
    rw [if_neg hequals, if_neg hampersand, if_neg hplus] at hcount
    exact List.count_eq_zero.1 hcount hc

theorem not_coded_tenQuadrillion :
    pairs (.object [("a", .num (.float (.tenQuadrillion false)))]) = [("a", "1e+16")] ∧
      ¬Percent.Coded "1e+16".toList := by
  refine ⟨by decide +kernel, fun h => ?_⟩
  rcases h.of_mem (show '+' ∈ "1e+16".toList by decide) with hplus | hplus
  · cases hplus
  · cases hplus

end QueryString

end RemoteQuery
