import RemoteQuery.Clause.OperatorText
import RemoteQuery.Proofs.Text.Lower
import RemoteQuery.Proofs.Text.Words

namespace RemoteQuery

open Text

namespace Text

def normalWords (cs : List Char) : List Char := (joinWith ' ' (words cs)).map lowerChar

theorem normalWords_eq (cs : List Char) :
    normalWords cs = joinWith ' ' (words (cs.map lowerChar)) := by
  rw [normalWords, joinWith_map rfl, words_map isBlank_lowerChar]

inductive Alike : List Char → List Char → Prop
  | around {before cs after : List Char} : (∀ c ∈ before, isBlank c = true) →
      (∀ c ∈ after, isBlank c = true) → Alike cs (before ++ cs ++ after)
  | between {as old new bs : List Char} : old ≠ [] → (∀ c ∈ old, isBlank c = true) →
      new ≠ [] → (∀ c ∈ new, isBlank c = true) → Alike (as ++ old ++ bs) (as ++ new ++ bs)
  | case {cs ds : List Char} : cs.map Char.toLower = ds.map Char.toLower → Alike cs ds

theorem Alike.normalWords_eq {cs ds : List Char} (h : Alike cs ds) :
    normalWords cs = normalWords ds := by
  cases h with
  | around hbefore hafter =>
      rw [normalWords, normalWords, words_append_blanks hafter, words_blanks_append hbefore]
  | between hold holdBlank hnew hnewBlank =>
      rw [normalWords, normalWords, words_append_blanks_append hold holdBlank,
        words_append_blanks_append hnew hnewBlank]
  | case hcase =>
      have hmap : ∀ cs : List Char, (cs.map Char.toLower).map lowerChar = cs.map lowerChar := by
        intro cs
        rw [List.map_map]
        exact List.map_congr_left fun c _ => lowerChar_toLower c
      rw [Text.normalWords_eq, Text.normalWords_eq, ← hmap cs, ← hmap ds, hcase]

theorem mem_normalWords {c : Char} {cs : List Char} (hc : c ∈ cs) (hblank : isBlank c = false) :
    lowerChar c ∈ normalWords cs := by
  have hwords : c ∈ (words cs).flatten := by
    rw [flatten_words, List.mem_filter, hblank]
    exact ⟨hc, rfl⟩
  exact List.mem_map_of_mem (mem_joinWith hwords)

end Text

namespace Operator

inductive Spelled : List Char → Operator → Prop
  | token (op : Operator) : Spelled op.token.toList op
  | angles : Spelled ['<', '>'] .notEqual
  | doubled : Spelled ['=', '='] .equal

theorem Spelled.ascii {cs : List Char} {op : Operator} (h : Spelled cs op) :
    ∀ c ∈ cs, c.toNat < 0x80 := by
  suffices hall : cs.all (fun c => c.toNat < 0x80) = true by simpa using hall
  cases h with
  | token => cases op <;> decide
  | angles => decide
  | doubled => decide

theorem ofNormal?_eq_some {cs : List Char} {op : Operator} :
    ofNormal? cs = some op ↔ Spelled cs op := by
  constructor
  · intro h
    by_cases hangles : cs = ['<', '>']
    · subst hangles
      cases h
      exact .angles
    by_cases hdoubled : cs = ['=', '=']
    · subst hdoubled
      cases h
      exact .doubled
    have hlookup : aliases.lookup cs = none := by
      simp only [aliases, List.lookup_cons, beq_eq_false_iff_ne.2 hangles,
        beq_eq_false_iff_ne.2 hdoubled, List.lookup_nil]
    rw [ofNormal?, hlookup] at h
    cases htoken : Token.ofText (α := Operator) (String.ofList cs) with
    | error e =>
        simp only [htoken] at h
        cases h
    | ok found =>
        simp only [htoken] at h
        cases h
        have hcs : op.token.toList = cs := by
          rw [← String.toList_ofList (l := cs), ← Token.token_of_ofText htoken]
          rfl
        exact hcs ▸ .token op
  · rintro (_ | _ | _)
    · cases op <;> rfl
    · rfl
    · rfl

theorem normalWords_token (op : Operator) : normalWords op.token.toList = op.token.toList := by
  cases op <;> decide

theorem spelled_normalWords_iff (isFinal : List Char → List Char → Bool) {cs : List Char}
    {op : Operator} :
    Spelled (normalWords cs) op ↔ Spelled (lower isFinal (joinWith ' ' (words cs))) op := by
  -- A spelling is ASCII, and for ASCII texts the two ways of lowering agree.
  constructor
  · intro h
    rwa [(lower_eq_iff h.ascii).2 rfl]
  · intro h
    rwa [normalWords, (lower_eq_iff h.ascii).1 rfl]

theorem parse_eq_ok {text : String} {op : Operator} :
    parse text = .ok op ↔ Spelled (normalWords text.toList) op := by
  rw [spelled_normalWords_iff endsWord, ← normalized, ← ofNormal?_eq_some, parse]
  cases ofNormal? (normalized text) <;> simp

theorem parse_of_ne {text : String} (h : ∀ op, parse text ≠ .ok op) :
    parse text = .error (.unknownToken "operator" text) := by
  rw [parse] at h ⊢
  cases hop : ofNormal? (normalized text) with
  | none => rfl
  | some op =>
      rw [hop] at h
      exact absurd rfl (h op)

theorem lowersToAscii_of_parse {text : String} {op : Operator} (h : parse text = .ok op) {c : Char}
    (hc : c ∈ text.toList) (hblank : isBlank c = false) : LowersToAscii c :=
  lowersToAscii_of_lowerChar ((parse_eq_ok.1 h).ascii _ (mem_normalWords hc hblank))

theorem parse_lenient (isFinal : List Char → List Char → Bool) (text : String) :
    (∀ op, parse text = .ok op ↔
      Spelled (lower isFinal (joinWith ' ' (words text.toList))) op) ∧
    ((∀ op, parse text ≠ .ok op) → parse text = .error (.unknownToken "operator" text)) ∧
    (∀ op, Token.ofText text = .ok op → parse text = .ok op) ∧
    (∀ other : String, Alike text.toList other.toList →
      ∀ op, parse text = .ok op ↔ parse other = .ok op) ∧
    ∀ op, parse text = .ok op →
      (∀ c ∈ text.toList, c.toNat < 0x80 ∨ isBlank c = true ∨ c.toNat = 0x212A) ∧
        Token.ofText (Token.token op) = .ok op := by
  refine ⟨fun op => ?_, parse_of_ne, fun op hstrict => ?_, fun other halike op => ?_,
    fun op hparse => ⟨fun c hc => ?_, Token.ofText_token op⟩⟩
  · rw [parse_eq_ok, spelled_normalWords_iff isFinal]
  · have htext : text = op.token := (Token.token_of_ofText hstrict).symm
    rw [parse_eq_ok, htext, normalWords_token]
    exact .token op
  · rw [parse_eq_ok, parse_eq_ok, halike.normalWords_eq]
  · cases hblank : isBlank c with
    | true => exact .inr (.inl rfl)
    | false => exact (lowersToAscii_of_parse hparse hc hblank).imp_right .inr

theorem parse_lenient_kelvin :
    '\u212A' ∈ "\u3000Li\u212AE".toList ∧ parse "\u3000Li\u212AE" = .ok .like := by
  have hlower : lower (fun _ _ => false) (joinWith ' ' (words "\u3000Li\u212AE".toList))
      = Operator.like.token.toList := by
    decide +kernel
  exact ⟨by decide, ((parse_lenient (fun _ _ => false) _).1 .like).2 (hlower ▸ .token .like)⟩

end Operator

end RemoteQuery
