import RemoteQuery.Proofs.Json.Basic
import RemoteQuery.Proofs.Wire.Reading

namespace RemoteQuery.Json

inductive Says (t : String) : Json → Prop
  | text : Says t (.str t)
  | item {j : Json} {items : List Json} : j ∈ items → Says t j → Says t (.list items)
  | key {j : Json} {fields : Fields Json} : (t, j) ∈ fields → Says t (.object fields)
  | field {key : String} {j : Json} {fields : Fields Json} :
      (key, j) ∈ fields → Says t j → Says t (.object fields)

theorem Says.of_within {t : String} {j : Json} (h : Within (.str t) j) : j.Says t := by
  induction h with
  | refl => exact .text
  | item hmem _ ih => exact .item hmem ih
  | field hmem _ ih => exact .field hmem ih

def AllTexts (P : String → Prop) (ts : List String) : Prop := ∀ t ∈ ts, P t

def SaysOnly (P : String → Prop) (j : Json) : Prop := ∀ t, j.Says t → P t

def SaysOnlyOption (P : String → Prop) (o : Option Json) : Prop := ∀ j ∈ o.toList, j.SaysOnly P

variable {P : String → Prop} {α : Type}

@[simp] theorem allTexts_nil : AllTexts P [] := by
  rintro t ⟨⟩

@[simp] theorem allTexts_cons {t : String} {ts : List String} :
    AllTexts P (t :: ts) ↔ P t ∧ AllTexts P ts := List.forall_mem_cons

@[simp] theorem allTexts_append {ts us : List String} :
    AllTexts P (ts ++ us) ↔ AllTexts P ts ∧ AllTexts P us := List.forall_mem_append

@[simp] theorem allTexts_flatMap {f : α → List String} {as : List α} :
    AllTexts P (as.flatMap f) ↔ ∀ a ∈ as, AllTexts P (f a) := List.forall_mem_flatMap

@[simp] theorem allTexts_flatten {tss : List (List String)} :
    AllTexts P tss.flatten ↔ ∀ ts ∈ tss, AllTexts P ts := List.forall_mem_flatten

@[simp] theorem allTexts_toList {o : Option String} :
    AllTexts P o.toList ↔ ∀ t ∈ o.toList, P t := Iff.rfl

@[simp] theorem saysOnly_null : null.SaysOnly P := by
  rintro t ⟨⟩

@[simp] theorem saysOnly_bool (b : Bool) : (bool b).SaysOnly P := by
  rintro t ⟨⟩

@[simp] theorem saysOnly_num (n : Number) : (num n).SaysOnly P := by
  rintro t ⟨⟩

@[simp] theorem saysOnly_unsigned (n : UInt64) : (unsigned n).SaysOnly P := saysOnly_num _

@[simp] theorem saysOnly_str {s : String} : (str s).SaysOnly P ↔ P s := by
  constructor
  · intro h
    exact h s .text
  · rintro h t ⟨⟩
    exact h

theorem saysOnly_list {items : List Json} :
    (list items).SaysOnly P ↔ ∀ j ∈ items, j.SaysOnly P := by
  constructor
  · intro h j hj t ht
    exact h t (.item hj ht)
  · rintro h t (_ | ⟨hj, ht⟩)
    exact h _ hj t ht

theorem saysOnly_object {fields : Fields Json} :
    (object fields).SaysOnly P ↔ ∀ entry ∈ fields, P entry.1 ∧ entry.2.SaysOnly P := by
  constructor
  · intro h entry hentry
    exact ⟨h _ (.key hentry), fun t ht => h t (.field hentry ht)⟩
  · rintro h t (_ | _ | hentry | ⟨hentry, ht⟩)
    · exact (h _ hentry).1
    · exact (h _ hentry).2 t ht

@[simp] theorem saysOnly_listOf {write : α → Json} {as : List α} :
    (listOf write as).SaysOnly P ↔ ∀ a ∈ as, (write a).SaysOnly P := by
  rw [listOf, saysOnly_list, List.forall_mem_map]

@[simp] theorem saysOnly_strings {items : List String} :
    (strings items).SaysOnly P ↔ AllTexts P items := by
  rw [strings, saysOnly_list, List.forall_mem_map]
  simp only [saysOnly_str, AllTexts]

@[simp] theorem saysOnlyOption_none : SaysOnlyOption P none := by
  rintro j ⟨⟩

@[simp] theorem saysOnlyOption_some {j : Json} : SaysOnlyOption P (some j) ↔ j.SaysOnly P :=
  List.forall_mem_singleton

@[simp] theorem saysOnlyOption_map {write : α → Json} {o : Option α} :
    SaysOnlyOption P (o.map write) ↔ ∀ a ∈ o.toList, (write a).SaysOnly P := by
  cases o <;> simp

@[simp] theorem saysOnlyOption_unlessEmpty {write : List α → Json} {as : List α}
    (h : (write []).SaysOnly P) :
    SaysOnlyOption P (unlessEmpty write as) ↔ (write as).SaysOnly P := by
  cases as with
  | nil => exact iff_of_true saysOnlyOption_none h
  | cons a as => exact saysOnlyOption_some

theorem saysOnly_object_members {entries : List (String × Option Json)}
    (h : ∀ entry ∈ entries, P entry.1) :
    (object (members entries)).SaysOnly P ↔ ∀ entry ∈ entries, SaysOnlyOption P entry.2 := by
  rw [saysOnly_object]
  constructor
  · rintro hall ⟨key, value?⟩ hentry j hj
    obtain rfl : value? = some j := Option.mem_toList.1 hj
    exact (hall (key, j) (mem_members.2 hentry)).2
  · rintro hall ⟨key, j⟩ hentry
    have hmem := mem_members.1 hentry
    exact ⟨h _ hmem, saysOnlyOption_some.1 (hall _ hmem)⟩

end RemoteQuery.Json
