import RemoteQuery.Proofs.Fields
import RemoteQuery.Proofs.Wire.Found
import RemoteQuery.Wire.Token
/-!
Truthful decoding. An error names something that is in the decoded value: a part of it, the text of a
token, or a key that one of its objects lacks. What the readers of members say is true of the whole.
-/

namespace RemoteQuery

namespace Json

theorem Within.trans {i j k : Json} (hij : Within i j) (hjk : Within j k) : Within i k := by
  induction hjk with
  | refl => exact hij
  | item hk _ ih => exact .item hk ih
  | field hk _ ih => exact .field hk ih

theorem within_of_mem {j : Json} {items : List Json} (h : j ∈ items) : Within j (.list items) :=
  .item h (.refl j)

theorem within_of_get? {fields : Fields Json} {key : String} {j : Json}
    (h : fields.get? key = some j) : Within j (.object fields) :=
  .field (Fields.mem_of_get? h) (.refl j)

end Json

open Json

inductive FormatError.Names (j : Json) : FormatError → Prop
  | wrongType (context expected : String) {found : Json} :
      Within found j → Names j (.wrongType context expected found)
  | notToken (kind : String) {found : Json} :
      Within found j → (∀ s, found ≠ .str s) → Names j (.unknownToken kind found.text)
  | unknownToken (kind : String) {token : String} :
      Within (.str token) j → Names j (.unknownToken kind token)
  | missingKey (context : String) {key : String} {fields : Fields Json} :
      Within (.object fields) j → fields.get? key = none → Names j (.missingKey context key)

theorem FormatError.Names.within {e : FormatError} {j k : Json} (h : e.Names k)
    (hk : Within k j) : e.Names j := by
  cases h with
  | wrongType context expected hfound => exact .wrongType context expected (hfound.trans hk)
  | notToken kind hfound hne => exact .notToken kind (hfound.trans hk) hne
  | unknownToken kind hfound => exact .unknownToken kind (hfound.trans hk)
  | missingKey context hfields hnone => exact .missingKey context (hfields.trans hk) hnone

def Truthful {α : Type} (j : Json) (d : Decoded α) : Prop := ∀ e, d = .error e → e.Names j

namespace Truthful

variable {α β ι : Type} {j k : Json} {d : Decoded α}

theorem ok (a : α) : Truthful j (.ok a : Decoded α) := nofun

theorem error {e : FormatError} (h : e.Names j) : Truthful j (.error e : Decoded α) := by
  rintro _ ⟨⟩
  exact h

theorem within (h : Truthful k d) (hk : Within k j) : Truthful j d :=
  fun e he => (h e he).within hk

theorem bind {f : α → Decoded β} (h : Truthful j d) (hf : ∀ a, Truthful j (f a)) :
    Truthful j (d >>= f) := by
  cases d with
  | ok a => exact hf a
  | error e =>
      rintro _ ⟨⟩
      exact h e rfl

theorem map {f : α → β} (h : Truthful j d) : Truthful j (d.map f) := by
  rw [← Decoded.bind_ok]
  exact h.bind fun a => ok (f a)

theorem readAll {read : ι → Decoded α} {is : List ι} (h : ∀ i ∈ is, Truthful j (read i)) :
    Truthful j (Wire.readAll read is) := by
  induction is with
  | nil => exact ok []
  | cons i rest ih =>
      have hrest := ih fun k hk => h k (List.mem_cons_of_mem _ hk)
      exact (h i List.mem_cons_self).bind fun a => hrest.bind fun as => ok (a :: as)

section Readers

variable {context : String}

theorem object {f : Fields Json → Decoded α}
    (h : ∀ fields, j = .object fields → Truthful (.object fields) (f fields)) :
    Truthful j (Wire.object context j >>= f) := by
  cases j with
  | object fields => exact h fields rfl
  | _ => exact error (.wrongType context "a mapping" (.refl _))

theorem string (j : Json) : Truthful j (Wire.string context j) := by
  cases j with
  | str s => exact ok s
  | _ => exact error (.wrongType context "a string" (.refl _))

theorem bool (j : Json) : Truthful j (Wire.bool context j) := by
  cases j with
  | bool b => exact ok b
  | _ => exact error (.wrongType context "a boolean" (.refl _))

theorem unsigned (j : Json) : Truthful j (Wire.unsigned context j) := by
  cases j with
  | num n =>
      cases n with
      | unsigned n => exact ok n
      | _ => exact error (.wrongType context "a non-negative integer" (.refl _))
  | _ => exact error (.wrongType context "a non-negative integer" (.refl _))

theorem int64 (j : Json) : Truthful j (Wire.int64 context j) := by
  cases j with
  | num n =>
      rw [Wire.int64]
      split
      · exact ok _
      · exact error (.wrongType context "an integer" (.refl _))
  | _ => exact error (.wrongType context "an integer" (.refl _))

theorem items {f : List Json → Decoded α} (h : ∀ js, j = .list js → Truthful j (f js)) :
    Truthful j (Wire.items context j >>= f) := by
  cases j with
  | list js => exact h js rfl
  | _ => exact error (.wrongType context "a sequence" (.refl _))

theorem listOf {read : Json → Decoded α} (h : ∀ k : Json, k.depth < j.depth → Truthful k (read k)) :
    Truthful j (Wire.listOf context read j) := by
  refine items ?_
  rintro js rfl
  exact readAll fun k hk =>
    (h k (depth_lt_of_mem hk)).within (within_of_mem hk)

theorem strings (j : Json) : Truthful j (Wire.strings context j) := listOf fun k _ => string k

theorem values (j : Json) : Truthful j (Wire.values context j) := items fun _ _ => ok _

theorem valueMap (j : Json) : Truthful j (Wire.valueMap context j) := object fun _ _ => ok _

theorem token [Token α] (j : Json) : Truthful j (Token.ofStructure j : Decoded α) := by
  cases j with
  | str s =>
      rw [Token.ofStructure, Token.ofText]
      split
      · exact ok _
      · exact error (.unknownToken _ (.refl _))
  | _ => exact error (.notToken _ (.refl _) (by rintro s ⟨⟩))

end Readers

section Members

variable {fields : Fields Json} {key context : String} {read : Json → Decoded α}

theorem ofRequired (h : ∀ k, fields.get? key = some k → Truthful k (read k)) :
    Truthful (.object fields) (Wire.required fields key context read) := by
  rw [Wire.required]
  split
  · rename_i k hk
    exact (h k hk).within (within_of_get? hk)
  · rename_i hnone
    exact error (.missingKey context (.refl _) hnone)

theorem ofOptional (h : ∀ k, fields.get? key = some k → Truthful k (read k)) :
    Truthful (.object fields) (Wire.optional fields key read) := by
  rw [Wire.optional]
  split
  · rename_i k hk
    exact ((h k hk).within (within_of_get? hk)).map
  · exact ok none

theorem ofOrElse {default : α} (h : ∀ k, fields.get? key = some k → Truthful k (read k)) :
    Truthful (.object fields) (Wire.orElse fields key default read) := by
  rw [Wire.orElse]
  split
  · rename_i k hk
    exact (h k hk).within (within_of_get? hk)
  · exact ok default

end Members

end Truthful

end RemoteQuery
