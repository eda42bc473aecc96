import RemoteQuery.Wire.Token

namespace RemoteQuery

namespace Decoded

variable {α β : Type}

theorem bind_eq_ok {d : Decoded α} {f : α → Decoded β} {b : β} :
    (d >>= f) = .ok b ↔ ∃ a, d = .ok a ∧ f a = .ok b := by
  cases d <;> simp

theorem map_eq_ok {d : Decoded α} {f : α → β} {b : β} :
    d.map f = .ok b ↔ ∃ a, d = .ok a ∧ f a = b := by
  cases d <;> simp [Except.map]

theorem map_eq_error {d : Decoded α} {f : α → β} {e : FormatError} :
    d.map f = .error e ↔ d = .error e := by
  cases d <;> simp [Except.map]

@[simp] theorem map_ok (a : α) (f : α → β) : (Except.ok a : Decoded α).map f = .ok (f a) := rfl

theorem bind_ok (d : Decoded α) (f : α → β) : (d >>= fun a => .ok (f a)) = d.map f := by
  cases d <;> rfl

end Decoded

namespace Json

def members (entries : List (String × Option Json)) : Fields Json :=
  entries.filterMap fun (key, value?) => value?.map fun value => (key, value)

theorem record_eq (entries : List (String × Option Json)) :
    record entries = .object (members entries) := rfl

@[simp] theorem get?_members_nil (key : String) : (members []).get? key = none := rfl

@[simp] theorem get?_members_cons (k key : String) (value? : Option Json)
    (rest : List (String × Option Json)) :
    (members ((k, value?) :: rest)).get? key
      = if key = k then value?.or ((members rest).get? key) else (members rest).get? key := by
  cases value? with
  | none => simp [members]
  | some j =>
      have hcons : members ((k, some j) :: rest) = (k, j) :: members rest := rfl
      rw [hcons, Fields.get?_cons]
      simp

theorem mem_members {entries : List (String × Option Json)} {key : String} {j : Json} :
    (key, j) ∈ members entries ↔ (key, some j) ∈ entries := by
  simp only [members, List.mem_filterMap, Option.map_eq_some_iff, Prod.mk.injEq]
  constructor
  · rintro ⟨⟨k, value?⟩, hmem, j', rfl, rfl, rfl⟩
    exact hmem
  · intro hmem
    exact ⟨(key, some j), hmem, j, rfl, rfl, rfl⟩

end Json

theorem Number.toInt64?_ofInt64 (n : Int64) : (Number.ofInt64 n).toInt64? = some n := by
  simp only [ofInt64]
  split
  · rfl
  · rename_i hn
    have hnonneg : 0 ≤ n := Int64.not_lt.1 hn
    have hword : n.toUInt64.toNat < UInt64.size / 2 := by
      have h1 := Int64.toInt_lt n
      have h2 := Int64.toNat_toUInt64_of_le hnonneg
      have h3 := Int64.toNat_toInt n
      simp only [UInt64.size]
      omega
    rw [toInt64?, if_pos hword, UInt64.toInt64, Int64.toUInt64]

namespace Wire

variable {α β : Type}

def readOption (read : Json → Decoded α) : Option Json → Decoded (Option α)
  | some j => (read j).map some
  | none => .ok none

def readOr (default : α) (read : Json → Decoded α) : Option Json → Decoded α
  | some j => read j
  | none => .ok default

theorem optional_eq (fields : Fields Json) (key : String) (read : Json → Decoded α) :
    optional fields key read = readOption read (fields.get? key) := by
  cases h : fields.get? key with
  | none => simp only [optional, readOption, h]
  | some j => simp only [optional, readOption, h]

theorem orElse_eq (fields : Fields Json) (key : String) (default : α) (read : Json → Decoded α) :
    orElse fields key default read = readOr default read (fields.get? key) := by
  cases h : fields.get? key with
  | none => simp only [orElse, readOr, h]
  | some j => simp only [orElse, readOr, h]

@[simp] theorem object_object (context : String) (fields : Fields Json) :
    object context (.object fields) = .ok fields := rfl

@[simp] theorem string_str (context s : String) : string context (.str s) = .ok s := by
  simp only [string]

@[simp] theorem bool_bool (context : String) (b : Bool) : bool context (.bool b) = .ok b := by
  simp only [bool]

@[simp] theorem unsigned_unsigned (context : String) (n : UInt64) :
    unsigned context (.unsigned n) = .ok n := by
  simp only [unsigned, Json.unsigned]

@[simp] theorem int64_int64 (context : String) (n : Int64) :
    int64 context (.int64 n) = .ok n := by
  simp [int64, Json.int64, Number.toInt64?_ofInt64]

@[simp] theorem ofStructure_toStructure_token [Token α] (a : α) :
    Token.ofStructure (Token.toStructure a) = .ok a := Token.ofText_token a

@[simp] theorem readOr_some (default : α) (read : Json → Decoded α) (j : Json) :
    readOr default read (some j) = read j := rfl

@[simp] theorem readOption_none (read : Json → Decoded α) : readOption read none = .ok none := rfl

@[simp] theorem readOption_map {read : Json → Decoded α} {write : α → Json} {o : Option α}
    (h : ∀ a, read (write a) = .ok a) : readOption read (o.map write) = .ok o := by
  cases o with
  | none => rfl
  | some a => simp [readOption, h a, Except.map]

theorem readAll_map_map {ι β : Type} {read : ι → Decoded α} {f : β → ι} {g : β → α} {bs : List β}
    (h : ∀ b ∈ bs, read (f b) = .ok (g b)) : readAll read (bs.map f) = .ok (bs.map g) := by
  induction bs with
  | nil => rfl
  | cons b rest ih =>
      have hb := h b (List.mem_cons_self ..)
      have hrest := ih fun c hc => h c (List.mem_cons_of_mem _ hc)
      simp [readAll, hb, hrest]

theorem readAll_map {read : Json → Decoded α} {write : α → Json} {as : List α}
    (h : ∀ a ∈ as, read (write a) = .ok a) : readAll read (as.map write) = .ok as := by
  have hall := readAll_map_map (g := id) h
  rwa [List.map_id] at hall

@[simp] theorem listOf_listOf {context : String} {read : Json → Decoded α} {write : α → Json}
    {as : List α} (h : ∀ a, read (write a) = .ok a) :
    listOf context read (Json.listOf write as) = .ok as :=
  readAll_map fun a _ => h a

@[simp] theorem strings_strings (context : String) (items : List String) :
    strings context (.strings items) = .ok items :=
  readAll_map fun _ _ => rfl

end Wire

end RemoteQuery
