import RemoteQuery.Query.SelfReference
import RemoteQuery.Proofs.Json.Says
import RemoteQuery.Proofs.Query.Embedded
import RemoteQuery.Proofs.Query.Slots
import RemoteQuery.Proofs.Text.Pieces
import RemoteQuery.Proofs.Wire.Truthful
/-!
When a table expression is found to name itself. Every table that a query reads from, in embedded
queries too, is a text of its structure, and texts are searched word by word. A name is a word of
itself exactly when all of its characters are those of words; any other name is no word of any text.
-/

namespace RemoteQuery

namespace Text

theorem isWordChar_of_namesWord {text word : String} (h : namesWord text word = true) :
    word.toList.all isWordChar = true := by
  rw [namesWord, List.contains_iff_mem] at h
  rw [List.all_eq_true]
  intro c hc
  simpa using eq_false_of_mem_pieces h c hc

theorem namesWord_self_iff (word : String) :
    namesWord word word = true ↔ word.toList.all isWordChar = true := by
  refine ⟨isWordChar_of_namesWord, fun h => ?_⟩
  have hnone : ∀ c ∈ word.toList, (!isWordChar c) = false := by
    intro c hc
    rw [List.all_eq_true.1 h c hc]
    rfl
  rw [namesWord, pieces_of_none hnone, List.contains_iff_mem]
  exact List.mem_singleton_self _

end Text

namespace Json

theorem mentionsIn_iff {name : String} {items : List Json} :
    mentionsIn name items = true ↔ ∃ j ∈ items, j.mentions name = true := by
  induction items with
  | nil => simp [mentionsIn]
  | cons j items ih => simp [mentionsIn, ih]

theorem mentionsInFields_iff {name : String} {fields : Fields Json} :
    mentionsInFields name fields = true ↔
      ∃ entry ∈ fields, Text.namesWord entry.1 name = true ∨ entry.2.mentions name = true := by
  induction fields with
  | nil => simp [mentionsInFields]
  | cons entry fields ih => simp [mentionsInFields, ih]

theorem exists_says_of_mentions {name : String} {j : Json} (h : j.mentions name = true) :
    ∃ t, j.Says t ∧ Text.namesWord t name = true := by
  induction j using induct with
  | null => cases h
  | bool b => cases h
  | num n => cases h
  | str s => exact ⟨s, .text, h⟩
  | list items ih =>
      rw [mentions, mentionsIn_iff] at h
      obtain ⟨j, hj, hmentions⟩ := h
      obtain ⟨t, hsays, hword⟩ := ih j hj hmentions
      exact ⟨t, .item hj hsays, hword⟩
  | object fields ih =>
      rw [mentions, mentionsInFields_iff] at h
      obtain ⟨entry, hentry, hkey | hmentions⟩ := h
      · exact ⟨entry.1, .key hentry, hkey⟩
      · obtain ⟨t, hsays, hword⟩ := ih entry hentry hmentions
        exact ⟨t, .field hentry hsays, hword⟩

theorem Says.mentions {t name : String} {j : Json} (h : j.Says t)
    (hword : Text.namesWord t name = true) : j.mentions name = true := by
  induction h with
  | text => exact hword
  | item hj _ ih =>
      rw [Json.mentions, mentionsIn_iff]
      exact ⟨_, hj, ih⟩
  | key hmem =>
      rw [Json.mentions, mentionsInFields_iff]
      exact ⟨_, hmem, .inl hword⟩
  | field hmem _ ih =>
      rw [Json.mentions, mentionsInFields_iff]
      exact ⟨_, hmem, .inr ih⟩

theorem mentions_iff {name : String} (j : Json) :
    j.mentions name = true ↔ ∃ t, j.Says t ∧ Text.namesWord t name = true :=
  ⟨exists_says_of_mentions, fun ⟨_, hsays, hword⟩ => hsays.mentions hword⟩

theorem within_record {entries : List (String × Option Json)} (key : String) {j : Json}
    (h : (key, some j) ∈ entries) : Within j (.record entries) :=
  .field (mem_members.2 h) (.refl j)

end Json

open Json

namespace QueryParams

inductive NamesTable (t : String) : QueryParams → Prop
  | subquery {q : QueryParams} {s : Subquery QueryParams} :
      s ∈ q.subqueries.getD [] → s.table = t → NamesTable t q
  | cte {q : QueryParams} {c : Cte QueryParams} :
      c ∈ q.ctes.getD [] → c.table = some t → NamesTable t q
  | initial {q : QueryParams} {c : RecursiveCte QueryParams} :
      c ∈ q.recursiveCtes.getD [] → c.initialTable = some t → NamesTable t q
  | recursive {q : QueryParams} {c : RecursiveCte QueryParams} :
      c ∈ q.recursiveCtes.getD [] → c.recursiveTable = some t → NamesTable t q
  | embedded {q r : QueryParams} : r ∈ q.embedded → NamesTable t r → NamesTable t q

theorem within_slot {α : Type} {write : α → Json} {slot : Option (List α)} {a : α} {j : Json}
    {q : QueryParams} (s : Slot) (hslot : q.encodeSlot s = listSlot write slot)
    (ha : a ∈ slot.getD []) (hj : Within j (write a)) : Within j q.toStructure := by
  cases slot with
  | none => cases ha
  | some as =>
      rw [toStructure_eq]
      exact .field (mem_fields.2 ⟨s, rfl, hslot⟩) (.item (List.mem_map_of_mem ha) hj)

theorem within_embedded {q r : QueryParams} (h : r ∈ q.embedded) :
    Within r.toStructure q.toStructure := by
  rcases mem_embedded.1 h with ⟨s, hs, rfl⟩ | ⟨c, hc, rfl⟩ | ⟨c, hc, rfl | rfl⟩
  · exact within_slot .subqueries rfl hs (within_record "query" (by simp [Subquery.map]))
  · exact within_slot .ctes rfl hc (within_record "query" (by simp [Cte.map]))
  · exact within_slot .recursiveCtes rfl hc
      (within_record "initial" (by simp [RecursiveCte.map]))
  · exact within_slot .recursiveCtes rfl hc
      (within_record "recursive" (by simp [RecursiveCte.map]))

theorem NamesTable.within {t : String} {q : QueryParams} (h : q.NamesTable t) :
    Within (.str t) q.toStructure := by
  induction h with
  | subquery hs ht =>
      exact within_slot .subqueries rfl hs (within_record "table" (by simp [Subquery.map, ht]))
  | cte hc ht =>
      exact within_slot .ctes rfl hc (within_record "table" (by simp [Cte.map, ht]))
  | initial hc ht =>
      exact within_slot .recursiveCtes rfl hc
        (within_record "initialTable" (by simp [RecursiveCte.map, ht]))
  | recursive hc ht =>
      exact within_slot .recursiveCtes rfl hc
        (within_record "recursiveTable" (by simp [RecursiveCte.map, ht]))
  | embedded hr _ ih => exact ih.trans (within_embedded hr)

end QueryParams

namespace RecursiveCte

variable {c : RecursiveCte QueryParams}

theorem referencesSelf_iff : c.referencesSelf = true ↔ c.recursiveTable = some c.name ∨
    ∃ t, c.recursive.toStructure.Says t ∧ Text.namesWord t c.name = true := by
  rw [referencesSelf, Bool.or_eq_true, decide_eq_true_iff, mentions_iff]

theorem referencesSelf_iff_of_namesTable
    (h : c.recursiveTable = some c.name ∨ c.recursive.NamesTable c.name) :
    c.referencesSelf = true ↔
      c.recursiveTable = some c.name ∨ c.name.toList.all Text.isWordChar = true := by
  rw [referencesSelf_iff]
  constructor
  · rintro (htable | ⟨t, _, hword⟩)
    · exact .inl htable
    · exact .inr (Text.isWordChar_of_namesWord hword)
  · rintro (htable | hchars)
    · exact .inl htable
    · rcases h with htable | hnames
      · exact .inl htable
      · exact .inr ⟨c.name, .of_within hnames.within, (Text.namesWord_self_iff c.name).2 hchars⟩

def existsIn (table : String) : QueryParams := { subqueries := some [{ table, query := {} }] }

theorem namesTable_existsIn (table : String) : (existsIn table).NamesTable table :=
  .subquery List.mem_cons_self rfl

def nestedTree : RecursiveCte QueryParams :=
  { name := "my_tree"
    initial := {}
    recursive := { ctes := some [{ name := "inner", query := existsIn "my_tree" }] } }

theorem referencesSelf_nestedTree :
    nestedTree.recursive.NamesTable nestedTree.name ∧ nestedTree.referencesSelf = true := by
  have hinner : existsIn "my_tree" ∈ nestedTree.recursive.embedded := List.mem_cons_self
  have hnames : nestedTree.recursive.NamesTable nestedTree.name :=
    .embedded hinner (namesTable_existsIn "my_tree")
  exact ⟨hnames, (referencesSelf_iff_of_namesTable (.inr hnames)).2 (.inr (by decide +kernel))⟩

def hyphenatedTree : RecursiveCte QueryParams :=
  { name := "my-tree", initial := {}, recursive := existsIn "my-tree" }

theorem not_referencesSelf_hyphenatedTree :
    hyphenatedTree.recursive.NamesTable hyphenatedTree.name ∧
      hyphenatedTree.referencesSelf = false :=
  ⟨namesTable_existsIn "my-tree", by decide +kernel⟩

end RecursiveCte

end RemoteQuery
