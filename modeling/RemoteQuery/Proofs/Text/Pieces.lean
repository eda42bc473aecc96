import Mathlib.Data.List.TakeWhile
import RemoteQuery.Text.Pieces

namespace RemoteQuery.Text

theorem pieces_joinWith {sep : Char} {p : List Char} {ps : List (List Char)}
    (h : ∀ q ∈ p :: ps, ∀ c ∈ q, c ≠ sep) : pieces (· = sep) (joinWith sep (p :: ps)) = p :: ps := by
  induction ps generalizing p with
  | nil => exact pieces_of_none fun c hc => decide_eq_false (h p (List.mem_singleton_self p) c hc)
  | cons q ps ih =>
      have hp : ∀ c ∈ p, decide (c = sep) = false := fun c hc =>
        decide_eq_false (h p (List.mem_cons_self ..) c hc)
      have htail := ih fun r hr => h r (List.mem_cons_of_mem _ hr)
      rw [joinWith, pieces_append_cons _ hp (decide_eq_true rfl), htail]

theorem pieces_append_sep {sep : Char → Bool} {s : Char} (hs : sep s = true) (as bs : List Char) :
    pieces sep (as ++ s :: bs) = pieces sep as ++ pieces sep bs := by
  induction as with
  | nil => simp [pieces, hs]
  | cons a as ih =>
      rw [List.cons_append, pieces, pieces, ih]
      cases hsep : sep a with
      | true => rfl
      | false =>
          cases hpieces : pieces sep as with
          | nil => exact absurd hpieces (pieces_ne_nil sep as)
          | cons p ps => rfl

theorem eq_false_of_mem_pieces {sep : Char → Bool} {cs p : List Char} (hp : p ∈ pieces sep cs) :
    ∀ c ∈ p, sep c = false := by
  induction cs generalizing p with
  | nil =>
      rw [pieces, List.mem_singleton] at hp
      subst hp
      rintro c ⟨⟩
  | cons c cs ih =>
      rw [pieces] at hp
      split at hp
      · rcases List.mem_cons.1 hp with rfl | hp
        · rintro d ⟨⟩
        · exact ih hp
      · rename_i hc
        rw [Bool.not_eq_true] at hc
        split at hp
        · rw [List.mem_singleton.1 hp, List.forall_mem_singleton]
          exact hc
        · rename_i first rest heq
          rw [heq] at ih
          rcases List.mem_cons.1 hp with rfl | hp
          · exact List.forall_mem_cons.2 ⟨hc, ih List.mem_cons_self⟩
          · exact ih (List.mem_cons_of_mem _ hp)

theorem count_joinWith (sep c : Char) (ps : List (List Char)) :
    (joinWith sep ps).count c = ps.flatten.count c + if c = sep then ps.length - 1 else 0 := by
  induction ps with
  | nil => simp [joinWith]
  | cons p ps ih =>
      cases ps with
      | nil => simp [joinWith]
      | cons q ps =>
          simp only [joinWith, List.count_append, List.count_cons, ih, List.flatten_cons,
            List.length_cons, beq_iff_eq]
          by_cases hc : c = sep
          · simp only [hc, if_true, Nat.add_sub_cancel]
            omega
          · simp [hc, Ne.symm hc]

theorem cutAt_eq_none {sep : Char} {cs : List Char} (h : ∀ c ∈ cs, c ≠ sep) :
    cutAt sep cs = none := by
  induction cs with
  | nil => rfl
  | cons c cs ih =>
      have hc := h c (List.mem_cons_self ..)
      have hcs := ih fun d hd => h d (List.mem_cons_of_mem _ hd)
      rw [cutAt, if_neg hc, hcs]
      rfl

section Front

variable {p : Char → Bool} {as bs : List Char} {b : Char}

theorem dropWhile_append_of_exists (h : ∃ a ∈ as, p a = false) :
    (as ++ bs).dropWhile p = as.dropWhile p ++ bs := by
  obtain ⟨a, ha, hp⟩ := h
  rw [List.dropWhile_append, if_neg]
  rw [List.isEmpty_iff, List.dropWhile_eq_nil_iff]
  intro hall
  rw [hall a ha] at hp
  cases hp

theorem dropWhile_append_cons (h : p b = false) :
    (as ++ b :: bs).dropWhile p = as.dropWhile p ++ b :: bs := by
  rw [List.dropWhile_append]
  split
  · rename_i hnil
    rw [List.isEmpty_iff.1 hnil, List.dropWhile_cons_of_neg (by simp [h]), List.nil_append]
  · rfl

theorem takeWhile_append_cons (h : p b = false) :
    (as ++ b :: bs).takeWhile p = as.takeWhile p := by
  rw [List.takeWhile_append]
  split
  · rename_i hall
    rw [List.takeWhile_cons_of_neg (by simp [h]), List.append_nil]
    exact ((List.takeWhile_prefix p).eq_of_length hall).symm
  · rfl

end Front

end RemoteQuery.Text
