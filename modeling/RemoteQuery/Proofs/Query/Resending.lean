import RemoteQuery.Proofs.Json.Bounded
import RemoteQuery.Proofs.Query.QueryString
import RemoteQuery.Proofs.Wire.Found
/-!
Query strings that are decoded and sent on. Whatever text they came from, the values that were found
arrive again as they were, unless one is a string that is JSON text: only a quoted one can be, and it
arrives without its quotes.
-/

namespace RemoteQuery.QueryString

theorem fits_valueOf (text : String) : Json.Fits Json.maxDepth (valueOf text) := by
  rw [valueOf]
  cases h : Json.parse? text with
  | none => exact .of_isScalar rfl
  | some j => exact Json.fits_of_parse? h

theorem parse?_of_valueOf {text s : String} (h : valueOf text = .str s) :
    Json.parse? s = none ∨ Json.parse? text = some (.str s) := by
  rw [valueOf] at h
  cases htext : Json.parse? text with
  | none =>
      rw [htext] at h
      cases h
      exact .inl htext
  | some j =>
      rw [htext] at h
      cases h
      exact .inr rfl

def Holds (query key text : String) : Prop :=
  ∃ piece ∈ split query.toList,
    decodePiece (cutPair piece).1 = .ok key ∧ decodePiece (cutPair piece).2 = .ok text

theorem exists_of_decodePair {piece : List Char} {entry : String × Json}
    (h : decodePair piece = .ok entry) :
    ∃ text, decodePiece (cutPair piece).1 = .ok entry.1 ∧
      decodePiece (cutPair piece).2 = .ok text ∧ entry.2 = valueOf text := by
  simp only [decodePair, Decoded.bind_eq_ok, Decoded.pure_eq_ok, Except.ok.injEq] at h
  obtain ⟨key, hkey, text, htext, rfl⟩ := h
  exact ⟨text, hkey, htext, rfl⟩

theorem exists_of_decode {query : String} {v : Json} (h : decode query = .ok v) :
    ∃ fields : Fields Json, v = .object fields ∧ fields.Sorted ∧
      ∀ entry ∈ fields, ∃ text, Holds query entry.1 text ∧ entry.2 = valueOf text := by
  simp only [decode, decodeFields, Decoded.bind_eq_ok, Decoded.pure_eq_ok, Except.ok.injEq] at h
  obtain ⟨_, ⟨entries, hentries, rfl⟩, rfl⟩ := h
  refine ⟨_, rfl, Fields.sorted_ofPairs entries, fun entry hentry => ?_⟩
  obtain ⟨piece, hpiece, hpair⟩ :=
    Wire.exists_of_readAll hentries (Fields.mem_of_mem_ofPairs hentry)
  obtain ⟨text, hkey, htext, hvalue⟩ := exists_of_decodePair hpair
  exact ⟨text, ⟨piece, hpiece, hkey, htext⟩, hvalue⟩

def resent : Json → Json
  | .str s => valueOf s
  | j => j

theorem carried_eq_resent {j : Json} (h : j.depth ≤ Json.maxDepth) : carried j = resent j := by
  cases j with
  | str s => rfl
  | _ => rw [carried, if_pos h] <;> simp [resent]

theorem decode_encode_of_fits {fields : Fields Json} (hsorted : fields.Sorted)
    (hfits : ∀ entry ∈ fields, Json.Fits Json.maxDepth entry.2)
    (hliterals : ∀ entry ∈ fields, entry.2.Literals) : decode (encode (.object fields))
      = .ok (.object (fields.map fun entry => (entry.1, carried entry.2))) := by
  rw [decode, encode, decodeFields_join_carried (fun e he => (hfits e he).ordered) hliterals,
    Fields.ofPairs_of_sorted (sorted_map_carried hsorted)]
  rfl

theorem decode_encode_of_decode {query : String} {v : Json} (hdecode : decode query = .ok v)
    (hfloats : ∀ x, Json.Within (.num (.float x)) v → (Number.float x).IsLiteral) :
    ∃ fields, v = .object fields ∧
      decode (encode v) = .ok (.object (fields.map fun entry => (entry.1, resent entry.2))) ∧
      (decode (encode v) = .ok v ↔ ∀ key s, (key, .str s) ∈ fields → Json.parse? s = none) ∧
      ∀ key s, (key, .str s) ∈ fields → Json.parse? s = none ∨
        ∃ text, Holds query key text ∧ Json.parse? text = some (.str s) := by
  obtain ⟨fields, rfl, hsorted, hfound⟩ := exists_of_decode hdecode
  have hfits : ∀ entry ∈ fields, Json.Fits Json.maxDepth entry.2 := by
    intro entry hentry
    obtain ⟨text, _, hvalue⟩ := hfound entry hentry
    rw [hvalue]
    exact fits_valueOf text
  have hcarried := decode_encode_of_fits hsorted hfits (Json.Literals.of_floats hfloats).fields
  refine ⟨fields, rfl, ?_, ?_, ?_⟩
  · have hresent : fields.map (fun entry => (entry.1, carried entry.2))
        = fields.map fun entry => (entry.1, resent entry.2) :=
      List.map_congr_left fun entry hentry => by
        rw [carried_eq_resent (hfits entry hentry).shallow]
    rw [hcarried, hresent]
  · rw [hcarried, Except.ok.injEq, Json.object.injEq, map_carried_eq_self_iff]
    constructor
    · intro h key s hmem
      exact ((carried_eq_self_iff _).1 (h _ hmem)).1 s rfl
    · intro h entry hentry
      refine (carried_eq_self_iff _).2 ⟨fun s hs => ?_, (hfits entry hentry).shallow⟩
      exact h entry.1 s (hs ▸ hentry)
  · intro key s hmem
    obtain ⟨text, hheld, hvalue⟩ := hfound _ hmem
    exact (parse?_of_valueOf hvalue.symm).imp_right fun hquoted => ⟨text, hheld, hquoted⟩

theorem valueOf_half : valueOf "0.5" = .num (.float .half) := by
  have hordered : (Json.num (.float .half)).Ordered := trivial
  have hliterals : (Json.num (.float .half)).Literals := by
    apply Json.Literals.of_floats
    rintro x ⟨⟩
    exact Number.isLiteral_half
  have htext : plainText (.num (.float .half)) = "0.5" := by decide +kernel
  rw [← htext, valueOf_plainText hordered hliterals]
  rfl

theorem valueOf_twelve : valueOf "12" = .num (.unsigned 12) := by
  rw [valueOf, parse?_twelve, Option.getD_some]

theorem valueOf_quoted : valueOf "\"12\"" = .str "12" := by
  have htext : (Json.str "12").text = "\"12\"" := by decide
  have hordered : (Json.str "12").Ordered := trivial
  have hliterals : (Json.str "12").Literals := .of_floats (by rintro x ⟨⟩)
  rw [← htext, valueOf, Json.parse?_text hordered hliterals, if_pos (by decide), Option.getD_some]

theorem valueOf_percent : valueOf "50%" = .str "50%" := by
  have hparse : Json.parse? "50%" = none := Option.isNone_iff_eq_none.1 (by decide +kernel)
  rw [valueOf, hparse, Option.getD_none]

def labelled : Fields Json :=
  [("half", .num (.float .half)), ("note", .str "50%"), ("tag", .str "12")]

theorem decode_labelled :
    decode "?tag=%2212%22&half=0.5&note=50%" = .ok (.object labelled) := by
  have hsplit : split "?tag=%2212%22&half=0.5&note=50%".toList
      = ["tag=%2212%22".toList, "half=0.5".toList, "note=50%".toList] := by decide +kernel
  have htag : decodePair "tag=%2212%22".toList = .ok ("tag", valueOf "\"12\"") :=
    decodePair_eq_ok (by decide +kernel) (by decide +kernel)
  have hhalf : decodePair "half=0.5".toList = .ok ("half", valueOf "0.5") :=
    decodePair_eq_ok (by decide +kernel) (by decide +kernel)
  have hnote : decodePair "note=50%".toList = .ok ("note", valueOf "50%") :=
    decodePair_eq_ok (by decide +kernel) (by decide +kernel)
  simp only [decode, decodeFields, hsplit, Wire.readAll, htag, hnote, hhalf, valueOf_quoted,
    valueOf_half, valueOf_percent, Decoded.ok_bind, Decoded.pure_eq_ok]
  rfl

theorem eq_half_of_within_labelled {x : Binary64}
    (h : Json.Within (.num (.float x)) (.object labelled)) : x = .half :=
  Json.eq_of_floats rfl h

theorem decode_encode_labelled :
    decode "?tag=%2212%22&half=0.5&note=50%" = .ok (.object labelled) ∧
      decode (encode (.object labelled)) = .ok (.object
        [("half", .num (.float .half)), ("note", .str "50%"), ("tag", .num (.unsigned 12))]) := by
  have hfloats : ∀ x, Json.Within (.num (.float x)) (.object labelled) →
      (Number.float x).IsLiteral := by
    intro x hx
    rw [eq_half_of_within_labelled hx]
    exact Number.isLiteral_half
  refine ⟨decode_labelled, ?_⟩
  obtain ⟨fields, hfields, hresent, _⟩ := decode_encode_of_decode decode_labelled hfloats
  cases hfields
  simpa only [labelled, List.map_cons, List.map_nil, resent, valueOf_percent, valueOf_twelve]
    using hresent

theorem quoted_digits_resent : decode "a=%2212%22" = .ok (.object [("a", .str "12")]) ∧
    decode (encode (.object [("a", .str "12")])) = .ok (.object [("a", .num (.unsigned 12))]) ∧
    decode (encode (.object [("a", .str "12")])) ≠ decode "a=%2212%22" := by
  have hsplit : split "a=%2212%22".toList = ["a=%2212%22".toList] := by decide +kernel
  have hpair : decodePair "a=%2212%22".toList = .ok ("a", valueOf "\"12\"") :=
    decodePair_eq_ok (by decide +kernel) (by decide +kernel)
  have hfirst : decode "a=%2212%22" = .ok (.object [("a", .str "12")]) := by
    simp only [decode, decodeFields, hsplit, Wire.readAll, hpair, valueOf_quoted, Decoded.ok_bind,
      Decoded.pure_eq_ok]
    rfl
  have hagain : decode (encode (.object [("a", .str "12")]))
      = .ok (.object [("a", .num (.unsigned 12))]) := by
    rw [decode, encode, decodeFields_join, List.map_cons, plainText, valueOf_twelve]
    rfl
  refine ⟨hfirst, hagain, ?_⟩
  rw [hfirst, hagain]
  simp

end RemoteQuery.QueryString
