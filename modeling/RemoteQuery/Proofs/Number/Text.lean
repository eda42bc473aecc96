import RemoteQuery.Number.Basic
import RemoteQuery.Proofs.Number.Digits

namespace RemoteQuery

def isNumeric (c : Char) : Bool :=
  c.isDigit || c = '-' || c = '+' || c = '.' || c = 'e' || c = 'E'

def Stops (rest : List Char) : Prop := ∀ c ∈ rest.head?, isNumeric c = false

namespace Stops

theorem nil : Stops [] := by
  rintro c ⟨⟩

theorem cons {c : Char} {rest : List Char} (h : isNumeric c = false) : Stops (c :: rest) := by
  rintro d ⟨⟩
  exact h

theorem ne {c d : Char} {rest : List Char} (hrest : Stops (c :: rest)) (hd : isNumeric d = true) :
    c ≠ d := by
  rintro rfl
  rw [hrest c rfl] at hd
  cases hd

end Stops

def Numeric (cs : List Char) : Prop := ∀ c ∈ cs, isNumeric c = true

namespace Numeric

theorem nil : Numeric [] := by
  rintro c ⟨⟩

theorem cons {c : Char} {cs : List Char} (hc : isNumeric c = true) (hcs : Numeric cs) :
    Numeric (c :: cs) := by
  intro d hd
  rcases List.mem_cons.1 hd with rfl | hd
  · exact hc
  · exact hcs d hd

theorem append {as bs : List Char} (ha : Numeric as) (hb : Numeric bs) : Numeric (as ++ bs) := by
  intro c hc
  rcases List.mem_append.1 hc with hc | hc
  · exact ha c hc
  · exact hb c hc

theorem of_subset {as bs : List Char} (hb : Numeric bs) (h : as ⊆ bs) : Numeric as :=
  fun c hc => hb c (h hc)

theorem digits (n : Nat) : Numeric (Decimal.digits n) := by
  intro c hc
  simp only [isNumeric, Decimal.isDigit_of_mem_digits hc, Bool.true_or]

theorem sign (negative : Bool) : Numeric (Decimal.sign negative) := by
  cases negative with
  | true => exact cons (by decide) nil
  | false => exact nil

theorem zeros (n : Nat) : Numeric (Decimal.zeros n) := by
  intro c hc
  rw [List.eq_of_mem_replicate hc]
  decide

theorem positional {ds : List Char} (h : Numeric ds) (point : Int) :
    Numeric (Decimal.positional ds point) := by
  rw [Decimal.positional]
  split
  · exact cons (by decide) (cons (by decide) (append (zeros _) h))
  · split
    · exact append (append h (zeros _)) (cons (by decide) (cons (by decide) nil))
    · refine append (h.of_subset (List.take_subset _ _)) (cons (by decide) ?_)
      exact h.of_subset (List.drop_subset _ _)

theorem scientific {ds : List Char} (h : Numeric ds) (point : Int) :
    Numeric (Decimal.scientific ds point) := by
  refine append (append (h.of_subset (List.take_subset _ _)) ?_) (cons (by decide) ?_)
  · split
    · exact nil
    · exact cons (by decide) (h.of_subset (List.drop_subset _ _))
  · refine cons ?_ (digits _)
    split <;> decide

theorem shortestDigits (d : Decimal) : Numeric (Binary64.shortestDigits d) := by
  apply (digits d.coefficient).of_subset
  intro c hc
  rw [Binary64.shortestDigits, Decimal.dropZeros, List.mem_reverse] at hc
  exact List.mem_reverse.1 ((List.dropWhile_sublist _).subset hc)

theorem render (n : Number) : Numeric n.render := by
  cases n with
  | unsigned n => exact digits _
  | negative n below => exact cons (by decide) (digits _)
  | float x =>
      rw [Number.render, Binary64.render]
      split
      · exact append (sign _) (cons (by decide) (cons (by decide) (cons (by decide) nil)))
      · apply append (sign _)
        split
        · exact (shortestDigits _).positional _
        · exact (shortestDigits _).scientific _

theorem not_mem {cs : List Char} (h : Numeric cs) {c : Char} (hc : isNumeric c = false) :
    c ∉ cs := by
  intro hmem
  rw [h c hmem] at hc
  cases hc

end Numeric

end RemoteQuery
