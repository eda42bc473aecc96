import RemoteQuery.Text.Blank
import RemoteQuery.Proofs.Text.Pieces

namespace RemoteQuery.Text

variable {sep : Char → Bool} {as bs blanks : List Char}

theorem words_append_cons {c : Char} (hc : isBlank c = true) (as bs : List Char) :
    words (as ++ c :: bs) = words as ++ words bs := by
  rw [words, pieces_append_sep hc, List.filter_append, words, words]

theorem words_blanks_append (hblanks : ∀ c ∈ blanks, isBlank c = true) :
    words (blanks ++ bs) = words bs := by
  induction blanks with
  | nil => rfl
  | cons c blanks ih =>
      obtain ⟨hc, hblanks⟩ := List.forall_mem_cons.1 hblanks
      exact (words_append_cons hc [] (blanks ++ bs)).trans (ih hblanks)

theorem words_append_blanks_append (hne : blanks ≠ [])
    (hblanks : ∀ c ∈ blanks, isBlank c = true) :
    words (as ++ blanks ++ bs) = words as ++ words bs := by
  cases blanks with
  | nil => exact absurd rfl hne
  | cons c blanks =>
      obtain ⟨hc, hblanks⟩ := List.forall_mem_cons.1 hblanks
      rw [List.append_assoc, List.cons_append, words_append_cons hc,
        words_blanks_append hblanks]

theorem words_append_blanks (hblanks : ∀ c ∈ blanks, isBlank c = true) :
    words (as ++ blanks) = words as := by
  by_cases hne : blanks = []
  · rw [hne, List.append_nil]
  · have hwords : words (as ++ blanks ++ []) = words as ++ words [] :=
      words_append_blanks_append hne hblanks
    rwa [List.append_nil, show words [] = [] from rfl, List.append_nil] at hwords

theorem pieces_map {f : Char → Char} (hf : ∀ c, sep (f c) = sep c) (cs : List Char) :
    pieces sep (cs.map f) = (pieces sep cs).map (List.map f) := by
  induction cs with
  | nil => rfl
  | cons c cs ih =>
      rw [List.map_cons, pieces, pieces, hf, ih]
      cases sep c with
      | true => rfl
      | false => cases pieces sep cs <;> rfl

theorem words_map {f : Char → Char} (hf : ∀ c, isBlank (f c) = isBlank c) (cs : List Char) :
    words (cs.map f) = (words cs).map (List.map f) := by
  rw [words, pieces_map hf, List.filter_map, words]
  congr 1
  refine List.filter_congr fun p _ => ?_
  cases p <;> rfl

theorem flatten_pieces (sep : Char → Bool) (cs : List Char) :
    (pieces sep cs).flatten = cs.filter (fun c => !sep c) := by
  induction cs with
  | nil => rfl
  | cons c cs ih =>
      rw [pieces]
      cases hc : sep c with
      | true =>
          rw [List.filter_cons_of_neg (by simp [hc]), ← ih]
          rfl
      | false =>
          rw [List.filter_cons_of_pos (by simp [hc]), ← ih]
          cases pieces sep cs <;> rfl

theorem flatten_words (cs : List Char) : (words cs).flatten = cs.filter (fun c => !isBlank c) := by
  rw [words, List.flatten_filter_not_isEmpty, flatten_pieces]

theorem joinWith_map {f : Char → Char} {s : Char} (hs : f s = s) (ps : List (List Char)) :
    (joinWith s ps).map f = joinWith s (ps.map (List.map f)) := by
  induction ps with
  | nil => rfl
  | cons p ps ih =>
      cases ps with
      | nil => rfl
      | cons q ps =>
          rw [joinWith, List.map_append, List.map_cons, ih, hs]
          rfl

theorem mem_joinWith {s c : Char} {ps : List (List Char)} (h : c ∈ ps.flatten) :
    c ∈ joinWith s ps := by
  have hcount : 0 < ps.flatten.count c := List.count_pos_iff.2 h
  rw [← List.count_pos_iff, count_joinWith]
  exact Nat.add_pos_left hcount _

end RemoteQuery.Text
