import RemoteQuery.Proofs.Fields
import RemoteQuery.Proofs.Query.QueryString
import RemoteQuery.Proofs.Text.Utf8
import RemoteQuery.Proofs.Wire.Found

namespace RemoteQuery.QueryString

open Text

theorem split_append {a b : List Char} (hb : b.head? ≠ some '?') :
    split (a ++ '&' :: b) = split a ++ split b := by
  have hmarks : b.dropWhile (· = '?') = b := by
    cases b with
    | nil => rfl
    | cons c b => exact List.dropWhile_cons_of_neg (by simpa using hb)
  have hdrop : (a ++ '&' :: b).dropWhile (· = '?') = a.dropWhile (· = '?') ++ '&' :: b :=
    dropWhile_append_cons (by decide)
  have hpieces : pieces (· = '&') (a.dropWhile (· = '?') ++ '&' :: b)
      = pieces (· = '&') (a.dropWhile (· = '?')) ++ pieces (· = '&') b :=
    pieces_append_sep (by decide) _ _
  rw [split, split, split, hdrop, hpieces, hmarks, List.filter_append]

theorem decode_mark (query : String) : decode ("?" ++ query) = decode query := by
  have hchars : ("?" ++ query).toList = '?' :: query.toList := String.toList_append
  rw [decode, decode, decodeFields, decodeFields, hchars, split, split,
    List.dropWhile_cons_of_pos (by decide)]

theorem decode_eq_error {query : String} {e : FormatError} :
    decode query = .error e ↔ Wire.readAll decodePair (split query.toList) = .error e := by
  rw [decode, decodeFields]
  cases Wire.readAll decodePair (split query.toList) <;> simp

theorem decode_eq_ok {query : String} {v : Json} :
    decode query = .ok v ↔ ∃ entries, Wire.readAll decodePair (split query.toList) = .ok entries ∧
      v = .object (Fields.ofPairs entries) := by
  rw [decode, decodeFields]
  cases Wire.readAll decodePair (split query.toList) <;> simp [eq_comm]

/-- The answer for two query strings in one: the first error, or the entries of both, the second ones
before the first. -/
inductive Composed : Decoded Json → Decoded Json → Decoded Json → Prop
  | first (e : FormatError) (second : Decoded Json) : Composed (.error e) second (.error e)
  | second (v : Json) (e : FormatError) : Composed (.ok v) (.error e) (.error e)
  | union {xs ys zs : Fields Json} : zs.Sorted →
      (∀ key, zs.get? key = (ys.get? key).or (xs.get? key)) →
      Composed (.ok (.object xs)) (.ok (.object ys)) (.ok (.object zs))

theorem get?_ofPairs_append (xs ys : List (String × Json)) (key : String) :
    (Fields.ofPairs (xs ++ ys)).get? key
      = ((Fields.ofPairs ys).get? key).or ((Fields.ofPairs xs).get? key) := by
  rw [Fields.get?_ofPairs, Fields.get?_ofPairs, Fields.get?_ofPairs, List.reverse_append,
    List.lookup_append]

theorem composed_decode {a b : String} (hb : b.toList.head? ≠ some '?') :
    Composed (decode a) (decode b) (decode (a ++ "&" ++ b)) := by
  have hchars : (a ++ "&" ++ b).toList = a.toList ++ '&' :: b.toList := by
    rw [String.toList_append, String.toList_append, List.append_assoc]
    rfl
  have hread : Wire.readAll decodePair (split (a ++ "&" ++ b).toList)
      = Wire.readAll decodePair (split a.toList) >>= fun xs =>
          (Wire.readAll decodePair (split b.toList)).map (xs ++ ·) := by
    rw [hchars, split_append hb, Wire.readAll_append]
  cases ha : Wire.readAll decodePair (split a.toList) with
  | error e =>
      rw [ha, Decoded.error_bind] at hread
      rw [decode_eq_error.2 ha, decode_eq_error.2 hread]
      exact .first e _
  | ok xs =>
      rw [ha, Decoded.ok_bind] at hread
      rw [decode_eq_ok.2 ⟨xs, ha, rfl⟩]
      cases hys : Wire.readAll decodePair (split b.toList) with
      | error e =>
          rw [hys] at hread
          rw [decode_eq_error.2 hys, decode_eq_error.2 hread]
          exact .second _ e
      | ok ys =>
          rw [hys, Decoded.map_ok] at hread
          rw [decode_eq_ok.2 ⟨ys, hys, rfl⟩, decode_eq_ok.2 ⟨xs ++ ys, hread, rfl⟩]
          exact .union (Fields.sorted_ofPairs _) (get?_ofPairs_append xs ys)

def textsOf (piece : List Char) : List (List Char) := [(cutPair piece).1, (cutPair piece).2]

def rawTexts (query : String) : List (List Char) := (split query.toList).flatMap textsOf

theorem decodePiece_eq_error {cs : List Char} {e : FormatError} : decodePiece cs = .error e ↔
    ∃ fault, Percent.decode cs = .error fault ∧ e = .badOctets (String.ofList cs) fault := by
  rw [decodePiece]
  cases Percent.decode cs <;> simp [eq_comm]

theorem readAll_decodePair_eq_error {pieces : List (List Char)} {e : FormatError} :
    Wire.readAll decodePair pieces = .error e ↔
      Wire.readAll decodePiece (pieces.flatMap textsOf) = .error e := by
  induction pieces with
  | nil => simp only [List.flatMap_nil, Wire.readAll, reduceCtorEq]
  | cons piece pieces ih =>
      simp only [List.flatMap_cons, textsOf, List.cons_append, List.nil_append, Wire.readAll,
        decodePair]
      cases decodePiece (cutPair piece).1 with
      | error e => simp only [Decoded.error_bind, Except.error.injEq]
      | ok key =>
          cases decodePiece (cutPair piece).2 with
          | error e => simp only [Decoded.error_bind, Decoded.ok_bind, Except.error.injEq]
          | ok text =>
              simp only [Decoded.ok_bind, Decoded.pure_eq_ok, Decoded.bind_ok, Decoded.map_ok,
                Decoded.map_eq_error, ih]

def Sound (text : List Char) : Prop := Utf8.Valid (Percent.octets text)

theorem sound_iff {text : List Char} : Sound text ↔ ∃ s, decodePiece text = .ok s := by
  rw [Sound, Utf8.valid_iff, decodePiece, ← Percent.decode]
  cases Percent.decode text <;> simp

theorem not_sound_of_fault {text : List Char} {fault : Utf8.Fault}
    (h : Percent.decode text = .error fault) : ¬Sound text :=
  Utf8.not_valid_iff.2 ⟨fault, h⟩

/-- The first of the texts whose escapes are not those of any text. -/
def FirstUnsound (texts : List (List Char)) (text : List Char) : Prop :=
  ∃ before after, texts = before ++ text :: after ∧ (∀ t ∈ before, Sound t) ∧ ¬Sound text

theorem decode_eq_error_iff {query : String} {e : FormatError} : decode query = .error e ↔
    ∃ text fault, FirstUnsound (rawTexts query) text ∧ Percent.decode text = .error fault ∧
      e = .badOctets (String.ofList text) fault := by
  rw [decode_eq_error, readAll_decodePair_eq_error, ← rawTexts, Wire.readAll_eq_error]
  simp only [decodePiece_eq_error, ← sound_iff]
  constructor
  · rintro ⟨before, text, after, htexts, hbefore, fault, hfault, he⟩
    exact ⟨text, fault, ⟨before, after, htexts, hbefore, not_sound_of_fault hfault⟩, hfault, he⟩
  · rintro ⟨text, fault, ⟨before, after, htexts, hbefore, -⟩, hfault, he⟩
    exact ⟨before, text, after, htexts, hbefore, fault, hfault, he⟩

theorem fails_iff {query : String} :
    (∃ e, decode query = .error e) ↔ ∃ text ∈ rawTexts query, ¬Sound text := by
  constructor
  · rintro ⟨e, he⟩
    obtain ⟨text, _, ⟨before, after, htexts, _, htext⟩, _⟩ := decode_eq_error_iff.1 he
    exact ⟨text, by rw [htexts]; exact List.mem_append_right _ List.mem_cons_self, htext⟩
  · rintro ⟨text, hmem, htext⟩
    cases hread : Wire.readAll decodePiece (rawTexts query) with
    | error e => exact ⟨e, decode_eq_error.2 (readAll_decodePair_eq_error.2 hread)⟩
    | ok texts =>
        obtain ⟨s, -, hs⟩ := Wire.exists_of_forall₂ (Wire.forall₂_of_readAll hread) hmem
        exact absurd (sound_iff.2 ⟨s, hs⟩) htext

theorem decode_compositional {a b : String} (hb : b.toList.head? ≠ some '?') :
    Composed (decode a) (decode b) (decode (a ++ "&" ++ b)) ∧
      ∀ query : String, decode ("?" ++ query) = decode query ∧
        ((∃ e, decode query = .error e) ↔ ∃ text ∈ rawTexts query, ¬Sound text) ∧
          ∀ e, decode query = .error e → ∃ text, FirstUnsound (rawTexts query) text ∧
            ∃ fault, Percent.decode text = .error fault ∧
              e = .badOctets (String.ofList text) fault := by
  refine ⟨composed_decode hb, fun query => ⟨decode_mark query, fails_iff, fun e he => ?_⟩⟩
  obtain ⟨text, fault, hfirst, hfault, he⟩ := decode_eq_error_iff.1 he
  exact ⟨text, hfirst, fault, hfault, he⟩

theorem decode_compositional_reescaped : "%6B=b".toList.head? ≠ some '?' ∧
    ∃ fields : Fields Json, decode ("?x=1&k=a" ++ "&" ++ "%6B=b") = .ok (.object fields) ∧
      (fields.get? "k").bind Json.string? = some "b" := by
  have hmark : "%6B=b".toList.head? ≠ some '?' := by decide
  have hfirst : (decode "?x=1&k=a").isOk = true := by decide +kernel
  have hsecond : ((decode "%6B=b").toOption.bind (·.member? "k")).bind Json.string? = some "b" := by
    decide +kernel
  have hcomposed : Composed (decode "?x=1&k=a") (decode "%6B=b")
      (decode ("?x=1&k=a" ++ "&" ++ "%6B=b")) := (decode_compositional hmark).1
  refine ⟨hmark, ?_⟩
  generalize decode "?x=1&k=a" = first, decode "%6B=b" = second,
    decode ("?x=1&k=a" ++ "&" ++ "%6B=b") = both at *
  cases hcomposed with
  | first => cases hfirst
  | second => cases hsecond
  | @union _ ys _ _ hget =>
      obtain ⟨j, hj, hb⟩ := Option.bind_eq_some_iff.1 hsecond
      have hk : ys.get? "k" = some j := hj
      exact ⟨_, rfl, by rw [hget, hk, Option.some_or, Option.bind_some, hb]⟩

end RemoteQuery.QueryString
