import RemoteQuery.Query.QueryString
import RemoteQuery.Proofs.Json.Reading
import RemoteQuery.Proofs.Json.Shape
import RemoteQuery.Proofs.Text.Percent
import RemoteQuery.Proofs.Text.Pieces
import RemoteQuery.Proofs.Wire.Reading

namespace RemoteQuery.QueryString

open Text

def plainText : Json → String
  | .str s => s
  | j => j.text

theorem of_mem_component {j : Json} {c : Char} (hc : c ∈ component j) :
    isNumeric c = true ∨ Percent.isUnreserved c = true ∨ c = '%' := by
  have hword : ∀ word : List Char, word.all Percent.isUnreserved = true → c ∈ word →
      isNumeric c = true ∨ Percent.isUnreserved c = true ∨ c = '%' :=
    fun _ hall hmem => .inr (.inl (List.all_eq_true.1 hall c hmem))
  cases j with
  | null => exact hword ['n', 'u', 'l', 'l'] rfl hc
  | bool b =>
      cases b with
      | true => exact hword ['t', 'r', 'u', 'e'] rfl hc
      | false => exact hword ['f', 'a', 'l', 's', 'e'] rfl hc
  | num n => exact .inl (Numeric.render n c hc)
  | str s => exact .inr ((Percent.Coded.encode _).of_mem hc)
  | list js => exact .inr ((Percent.Coded.encode _).of_mem hc)
  | object fields => exact .inr ((Percent.Coded.encode _).of_mem hc)

theorem component_ne_ampersand (j : Json) : ∀ c ∈ component j, c ≠ '&' := by
  rintro c hc rfl
  rcases of_mem_component hc with h | h | h
  · revert h
    decide
  · revert h
    decide
  · revert h
    decide

theorem decode_component (j : Json) : Percent.decode (component j) = .ok (plainText j).toList := by
  have hbare : ∀ j : Json, component j = j.render → plainText j = j.text → '%' ∉ j.render →
      Percent.decode (component j) = .ok (plainText j).toList := by
    intro j hcomponent htext hpercent
    rw [hcomponent, htext, Percent.decode_of_not_mem hpercent, Json.text, String.toList_ofList]
  have hcoded : ∀ j : Json, component j = Percent.encode j.render → plainText j = j.text →
      Percent.decode (component j) = .ok (plainText j).toList := by
    intro j hcomponent htext
    rw [hcomponent, htext, Percent.decode_encode, Json.text, String.toList_ofList]
  cases j with
  | null => exact hbare .null rfl rfl (by decide)
  | bool b => cases b <;> exact hbare _ rfl rfl (by decide)
  | num n => exact hbare (.num n) rfl rfl ((Numeric.render n).not_mem (by decide))
  | str s => exact Percent.decode_encode s.toList
  | list js => exact hcoded (.list js) rfl rfl
  | object fields => exact hcoded (.object fields) rfl rfl

theorem decodePiece_eq_ok {cs : List Char} {s : String} (h : Percent.decode cs = .ok s.toList) :
    decodePiece cs = .ok s := by
  simp only [decodePiece, h, String.ofList_toList]

theorem decodePair_eq_ok {piece : List Char} {key text : String}
    (hkey : Percent.decode (cutPair piece).1 = .ok key.toList)
    (htext : Percent.decode (cutPair piece).2 = .ok text.toList) :
    decodePair piece = .ok (key, valueOf text) := by
  simp only [decodePair, decodePiece_eq_ok hkey, decodePiece_eq_ok htext, Decoded.ok_bind,
    Decoded.pure_eq_ok]

def entryText (entry : String × Json) : List Char :=
  joinPair (entry.1, String.ofList (component entry.2))

theorem entryText_eq (entry : String × Json) :
    entryText entry = Percent.encode entry.1.toList ++ '=' :: component entry.2 := by
  rw [entryText, joinPair, String.toList_ofList]

theorem encode_ne {sep : Char} (hunreserved : Percent.isUnreserved sep = false) (hpercent : sep ≠ '%')
    (s : String) : ∀ c ∈ Percent.encode s.toList, c ≠ sep :=
  fun _ hc => (Percent.Coded.encode s.toList).ne_of_mem hunreserved hpercent hc

theorem entryText_ne_ampersand (entry : String × Json) : ∀ c ∈ entryText entry, c ≠ '&' := by
  intro c hc
  rw [entryText_eq, List.mem_append, List.mem_cons] at hc
  rcases hc with hc | rfl | hc
  · exact encode_ne (by decide) (by decide) entry.1 c hc
  · decide
  · exact component_ne_ampersand entry.2 c hc

theorem decodePair_entryText (entry : String × Json) :
    decodePair (entryText entry) = .ok (entry.1, valueOf (plainText entry.2)) := by
  have hcut : cutPair (entryText entry)
      = (Percent.encode entry.1.toList, component entry.2) := by
    rw [cutPair, entryText_eq, cutAt_append _ (encode_ne (by decide) (by decide) entry.1),
      Option.getD_some]
  apply decodePair_eq_ok
  · rw [hcut, Percent.decode_encode]
  · rw [hcut, decode_component]

theorem entryText_ne_nil (entry : String × Json) : entryText entry ≠ [] := by
  rw [entryText_eq]
  exact List.append_ne_nil_of_right_ne_nil _ (List.cons_ne_nil _ _)

theorem dropWhile_entryText (entry : String × Json) (rest : List Char) :
    (entryText entry ++ rest).dropWhile (· = '?') = entryText entry ++ rest := by
  rw [entryText_eq]
  cases hkey : Percent.encode entry.1.toList with
  | nil => rfl
  | cons c cs =>
      have hc : c ≠ '?' := encode_ne (by decide) (by decide) entry.1 c
        (by rw [hkey]; exact List.mem_cons_self ..)
      simp [hc]

theorem split_joinWith (entries : Fields Json) :
    split (joinWith '&' (entries.map entryText)) = entries.map entryText := by
  cases entries with
  | nil => rfl
  | cons entry entries =>
      have hdrop : (joinWith '&' ((entry :: entries).map entryText)).dropWhile (· = '?')
          = joinWith '&' ((entry :: entries).map entryText) := by
        cases entries with
        | nil =>
            have hsingle := dropWhile_entryText entry []
            rwa [List.append_nil] at hsingle
        | cons next rest => exact dropWhile_entryText entry _
      have hne : ∀ p ∈ (entry :: entries).map entryText, ∀ c ∈ p, c ≠ '&' := by
        intro p hp
        obtain ⟨e, _, rfl⟩ := List.mem_map.1 hp
        exact entryText_ne_ampersand e
      have hpieces : pieces (· = '&') (joinWith '&' ((entry :: entries).map entryText))
          = (entry :: entries).map entryText := pieces_joinWith hne
      rw [split, hdrop, hpieces, List.filter_eq_self]
      intro p hp
      obtain ⟨e, _, rfl⟩ := List.mem_map.1 hp
      cases htext : entryText e with
      | nil => exact absurd htext (entryText_ne_nil e)
      | cons c cs => rfl

theorem join_pairs (entries : Fields Json) :
    join (pairs (.object entries)) = String.ofList (joinWith '&' (entries.map entryText)) := by
  rw [join, pairs, List.map_map]
  rfl

theorem decodeFields_join (entries : Fields Json) : decodeFields (join (pairs (.object entries)))
    = .ok (Fields.ofPairs (entries.map fun entry => (entry.1, valueOf (plainText entry.2)))) := by
  have hread : Wire.readAll decodePair (entries.map entryText)
      = .ok (entries.map fun entry => (entry.1, valueOf (plainText entry.2))) :=
    Wire.readAll_map_map fun entry _ => decodePair_entryText entry
  rw [decodeFields, join_pairs, String.toList_ofList, split_joinWith, hread]
  rfl

/-- A string that is JSON text arrives as that JSON, a container nested too deeply as its text. -/
def carried : Json → Json
  | .str s => (Json.parse? s).getD (.str s)
  | j => if j.depth ≤ Json.maxDepth then j else .str j.text

theorem valueOf_plainText {j : Json} (hordered : j.Ordered) (hliterals : j.Literals) :
    valueOf (plainText j) = carried j := by
  have hparsed : valueOf j.text = if j.depth ≤ Json.maxDepth then j else .str j.text := by
    rw [valueOf, Json.parse?_text hordered hliterals]
    split <;> rfl
  cases j with
  | str s => rfl
  | _ => exact hparsed

theorem carried_eq_self_iff (j : Json) :
    carried j = j ↔ (∀ s, j = .str s → Json.parse? s = none) ∧ j.depth ≤ Json.maxDepth := by
  cases j with
  | str s =>
      simp only [carried, Json.str.injEq, forall_eq']
      cases h : Json.parse? s with
      | none => simp [Json.depth]
      | some k =>
          have hk : k ≠ .str s := by
            rintro rfl
            exact Json.parse?_ne_str s h
          simp [hk]
  | _ =>
      simp only [carried, reduceCtorEq, false_imp_iff, implies_true, true_and]
      split <;> simp_all

theorem decodeFields_join_carried {entries : Fields Json}
    (hordered : ∀ entry ∈ entries, entry.2.Ordered)
    (hliterals : ∀ entry ∈ entries, entry.2.Literals) :
    decodeFields (join (pairs (.object entries)))
      = .ok (Fields.ofPairs (entries.map fun entry => (entry.1, carried entry.2))) := by
  rw [decodeFields_join]
  congr 2
  apply List.map_congr_left
  intro entry hentry
  rw [valueOf_plainText (hordered entry hentry) (hliterals entry hentry)]

theorem sorted_map_carried {fields : Fields Json} (h : fields.Sorted) :
    Fields.Sorted (fields.map fun entry => (entry.1, carried entry.2)) :=
  (Fields.sorted_map carried).2 h

theorem map_carried_eq_self_iff (fields : Fields Json) :
    fields.map (fun entry => (entry.1, carried entry.2)) = fields ↔
      ∀ entry ∈ fields, carried entry.2 = entry.2 := by
  induction fields with
  | nil => simp
  | cons entry rest ih =>
      rw [List.map_cons, List.cons.injEq, ih, List.forall_mem_cons, Prod.ext_iff]
      simp

theorem decode_encode_eq_carried (fields : Fields Json) (hordered : (Json.object fields).Ordered)
    (hfloats : ∀ x, Json.Within (.num (.float x)) (.object fields) → (Number.float x).IsLiteral) :
    decode (encode (.object fields))
        = .ok (.object (fields.map fun entry => (entry.1, carried entry.2))) ∧
      (decode (encode (.object fields)) = .ok (.object fields) ↔
        (∀ key s, (key, .str s) ∈ fields → Json.parse? s = none) ∧
          ∀ key j, (key, j) ∈ fields → j.depth ≤ Json.maxDepth) := by
  have hentries := Json.ordered_object.1 hordered
  have hliterals := (Json.Literals.of_floats hfloats).fields
  have hdecode : decode (encode (.object fields))
      = .ok (.object (fields.map fun entry => (entry.1, carried entry.2))) := by
    rw [decode, encode, decodeFields_join_carried hentries.2 hliterals,
      Fields.ofPairs_of_sorted (sorted_map_carried hentries.1)]
    rfl
  refine ⟨hdecode, ?_⟩
  rw [hdecode, Except.ok.injEq, Json.object.injEq, map_carried_eq_self_iff]
  constructor
  · intro h
    constructor
    · intro key s hmem
      exact ((carried_eq_self_iff _).1 (h _ hmem)).1 s rfl
    · intro key j hmem
      exact ((carried_eq_self_iff _).1 (h _ hmem)).2
  · rintro ⟨hstrings, hdepths⟩ ⟨key, j⟩ hmem
    refine (carried_eq_self_iff j).2 ⟨?_, hdepths key j hmem⟩
    rintro s rfl
    exact hstrings key s hmem

def awkward : Fields Json :=
  [("", .str "12"), ("?a&b=%é", .list [.num (.float .half)]), ("n", .str "not JSON")]

theorem eq_half_of_within {x : Binary64}
    (h : Json.Within (.num (.float x)) (.object awkward)) : x = .half :=
  Json.eq_of_floats rfl h

theorem parse?_twelve : Json.parse? "12" = some (.num (.unsigned 12)) := by
  have htext : (Json.num (.unsigned 12)).text = "12" := by decide
  have hordered : (Json.num (.unsigned 12)).Ordered := trivial
  have hliterals : (Json.num (.unsigned 12)).Literals := .of_floats (by rintro x ⟨⟩)
  rw [← htext, Json.parse?_text hordered hliterals, if_pos (by decide)]

theorem decode_encode_awkward : decode (encode (.object awkward)) = .ok (.object
    [("", .num (.unsigned 12)), ("?a&b=%é", .list [.num (.float .half)]), ("n", .str "not JSON")]) := by
  have hordered : (Json.object awkward).Ordered := by
    refine Json.ordered_object.2 ⟨by decide, ?_⟩
    simp [awkward, Json.Ordered, Json.OrderedItems]
  have hfloats : ∀ x, Json.Within (.num (.float x)) (.object awkward) →
      (Number.float x).IsLiteral := by
    intro x hx
    rw [eq_half_of_within hx]
    exact Number.isLiteral_half
  rw [(decode_encode_eq_carried awkward hordered hfloats).1]
  have htext : Json.parse? "not JSON" = none := Option.isNone_iff_eq_none.1 (by decide +kernel)
  simp [awkward, carried, parse?_twelve, htext, Json.depth, Json.depthItems, Json.maxDepth]

end RemoteQuery.QueryString
