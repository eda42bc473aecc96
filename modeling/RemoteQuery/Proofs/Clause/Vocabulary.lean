import RemoteQuery.Query.Slot
import RemoteQuery.Text.Word
import RemoteQuery.Proofs.Clause.FrameText
import RemoteQuery.Proofs.Json.Says
import RemoteQuery.Proofs.Text.Pieces

namespace RemoteQuery

namespace Format

open Text

def recordKeys : List String :=
  ["aggregate", "alias", "analyze", "args", "bindings", "buffers", "column", "columns",
    "combinator", "compute", "conditions", "costs", "direction", "end", "expression", "field",
    "filter", "flatten", "format", "frame", "groupBy", "initial", "initialTable", "isNull",
    "leftField", "mode", "name", "negated", "nulls", "on", "operator", "orderBy", "over",
    "partitionBy", "pivot", "query", "recursive", "recursiveTable", "rightField", "select", "start",
    "table", "type", "unionAll", "value", "values", "verbose"]

def tokens (α : Type) [Token α] : List String := (Token.all : List α).map Token.token

def vocabularies : List (List String) :=
  [tokens Operator, tokens Combinator, tokens Direction, tokens NullsPlacement,
    tokens AggregateFunction, tokens WindowFunction, tokens FrameMode, tokens ExplainFormat]

def fixedBounds : List FrameBound := [.unboundedPreceding, .currentRow, .unboundedFollowing]

def fixedTexts : List String :=
  fixedBounds.map FrameBound.text ++ Slot.all.map Slot.key ++ recordKeys ++ vocabularies.flatten

/-- A text of the format itself and of no caller. -/
def IsText (t : String) : Prop := t ∈ fixedTexts ∨ ∃ b : FrameBound, t = b.text

def isWord (word : String) : Bool :=
  fixedTexts.any (fun t => namesWord t word) || (FrameBound.offset? word.toList).isSome

theorem isWordChar_of_isDigit {c : Char} (h : c.isDigit = true) : isWordChar c = true := by
  have halnum : isAlphanumeric c = true :=
    isAlphanumeric_of_isAlphanum (by rw [Char.isAlphanum, h, Bool.or_true])
  rw [isWordChar, halnum, Bool.true_or]

theorem namesWord_offset {n : Nat} {front word : String}
    (hfront : front.toList.all isWordChar = true) :
    namesWord (String.ofList (Decimal.digits n ++ ' ' :: front.toList)) word = true ↔
      word.toList = Decimal.digits n ∨ word = front := by
  have hdigits : ∀ c ∈ Decimal.digits n, (!isWordChar c) = false := fun c hc => by
    rw [isWordChar_of_isDigit (Decimal.isDigit_of_mem_digits hc), Bool.not_true]
  have hnone : ∀ c ∈ front.toList, (!isWordChar c) = false := fun c hc => by
    rw [List.all_eq_true.1 hfront c hc, Bool.not_true]
  rw [namesWord, String.toList_ofList, pieces_append_cons _ hdigits (by decide),
    pieces_of_none hnone, List.contains_iff_mem, List.mem_cons, List.mem_singleton,
    String.toList_inj]

theorem namesWord_preceding {n : UInt64} {word : String} :
    namesWord (FrameBound.preceding n).text word = true ↔
      word.toList = Decimal.digits n.toNat ∨ word = "PRECEDING" := by
  have hsuffix : FrameBound.precedingSuffix = ' ' :: "PRECEDING".toList := by decide
  rw [FrameBound.text, hsuffix, namesWord_offset (by decide +kernel)]

theorem namesWord_following {n : UInt64} {word : String} :
    namesWord (FrameBound.following n).text word = true ↔
      word.toList = Decimal.digits n.toNat ∨ word = "FOLLOWING" := by
  have hsuffix : FrameBound.followingSuffix = ' ' :: "FOLLOWING".toList := by decide
  rw [FrameBound.text, hsuffix, namesWord_offset (by decide +kernel)]

theorem isWord_of_fixed {t word : String} (ht : t ∈ fixedTexts) (hword : namesWord t word = true) :
    isWord word = true := by
  rw [isWord, List.any_eq_true.2 ⟨t, ht, hword⟩, Bool.true_or]

theorem isWord_of_digits {word : String} {n : UInt64}
    (h : word.toList = Decimal.digits n.toNat) : isWord word = true := by
  rw [isWord, FrameBound.offset?_eq_some.2 h, Option.isSome_some, Bool.or_true]

theorem isWord_of_bound {b : FrameBound} {word : String} (h : namesWord b.text word = true) :
    isWord word = true := by
  cases b with
  | unboundedPreceding => exact isWord_of_fixed (by decide) h
  | currentRow => exact isWord_of_fixed (by decide) h
  | unboundedFollowing => exact isWord_of_fixed (by decide) h
  | preceding n =>
      rcases namesWord_preceding.1 h with hdigits | rfl
      · exact isWord_of_digits hdigits
      · have hmem : "UNBOUNDED PRECEDING" ∈ fixedTexts := by decide
        exact isWord_of_fixed hmem (by decide +kernel)
  | following n =>
      rcases namesWord_following.1 h with hdigits | rfl
      · exact isWord_of_digits hdigits
      · have hmem : "UNBOUNDED FOLLOWING" ∈ fixedTexts := by decide
        exact isWord_of_fixed hmem (by decide +kernel)

theorem isWord_iff {word : String} :
    isWord word = true ↔ ∃ t, IsText t ∧ namesWord t word = true := by
  constructor
  · intro h
    rw [isWord, Bool.or_eq_true, List.any_eq_true] at h
    rcases h with ⟨t, ht, hword⟩ | hoffset
    · exact ⟨t, .inl ht, hword⟩
    · obtain ⟨n, hn⟩ := Option.isSome_iff_exists.1 hoffset
      have hdigits := FrameBound.offset?_eq_some.1 hn
      exact ⟨_, .inr ⟨.preceding n, rfl⟩, namesWord_preceding.2 (.inl hdigits)⟩
  · rintro ⟨t, ht | ⟨b, rfl⟩, hword⟩
    · exact isWord_of_fixed ht hword
    · exact isWord_of_bound hword

class Vocabulary (α : Type) [Token α] : Prop where
  mem : tokens α ∈ vocabularies

instance : Vocabulary Operator := ⟨by simp [vocabularies]⟩

instance : Vocabulary Combinator := ⟨by simp [vocabularies]⟩

instance : Vocabulary Direction := ⟨by simp [vocabularies]⟩

instance : Vocabulary NullsPlacement := ⟨by simp [vocabularies]⟩

instance : Vocabulary AggregateFunction := ⟨by simp [vocabularies]⟩

instance : Vocabulary WindowFunction := ⟨by simp [vocabularies]⟩

instance : Vocabulary FrameMode := ⟨by simp [vocabularies]⟩

instance : Vocabulary ExplainFormat := ⟨by simp [vocabularies]⟩

theorem isText_key (s : Slot) : IsText s.key := by
  left
  simp only [fixedTexts, List.mem_append, List.mem_map_of_mem s.mem_all, true_or, or_true]

theorem isText_recordKey {key : String} (h : key ∈ recordKeys) : IsText key := by
  left
  simp only [fixedTexts, List.mem_append, h, true_or, or_true]

theorem isText_token {α : Type} [Token α] [Vocabulary α] (a : α) : IsText (Token.token a) := by
  have htokens : Token.token a ∈ tokens α := List.mem_map_of_mem (Token.mem_all a)
  exact .inl (List.mem_append_right _ (List.mem_flatten_of_mem Vocabulary.mem htokens))

end Format

end RemoteQuery
