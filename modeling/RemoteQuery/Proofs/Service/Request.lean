import RemoteQuery.Service.Request
import RemoteQuery.Proofs.Query.Ordered
import RemoteQuery.Proofs.Query.QueryString
import RemoteQuery.Proofs.Query.RoundTrip

namespace RemoteQuery

open Text Text.Percent

/-- A slash and a coded segment, and coded pairs after a question mark if there is one. -/
inductive UrlSafe : List Char → Prop
  | bare {segment : List Char} : Coded segment → UrlSafe ('/' :: segment)
  | query {segment : List Char} {pairs : List (List Char × List Char)} : Coded segment →
      (∀ pair ∈ pairs, Coded pair.1 ∧ Coded pair.2) →
      UrlSafe ('/' :: (segment ++ '?' :: joinWith '&' (pairs.map fun (key, value) => key ++ '=' :: value)))

namespace Receiver

def cut (target : String) : List Char × List Char :=
  (cutAt '?' target.toList).getD (target.toList, [])

def table (target : String) : Decoded String := QueryString.decodePiece ((cut target).1.drop 1)

def entries (target : String) : Decoded Json := QueryString.decode (String.ofList (cut target).2)

def params (target : String) : Decoded QueryParams := do
  let j ← entries target
  QueryParams.ofStructure j

def find (target key : String) : Decoded (Option Json) := do
  let j ← entries target
  return j.member? key

end Receiver

structure Delivers (r : Request) (table : String) (p : QueryParams) : Prop where
  urlSafe : UrlSafe r.target.toList
  table : Receiver.table r.target = .ok table
  params : Receiver.params r.target = .ok p

namespace Request

open QueryString

theorem coded_component_of_slot {p : QueryParams} {s : Slot} {j : Json}
    (h : p.encodeSlot s = some j) : Coded (component j) := by
  rcases QueryParams.encodeSlot_cases h with ⟨js, rfl⟩ | ⟨fields, rfl⟩ | ⟨n, rfl⟩
  · exact Coded.encode _
  · exact Coded.encode _
  · have hdigits : ∀ ds : List Char, (∀ c ∈ ds, c.isDigit = true) → Coded ds := by
      intro ds
      induction ds with
      | nil => exact fun _ => .nil
      | cons c ds ih =>
          intro hall
          have hc := hall c (List.mem_cons_self ..)
          refine .unreserved ?_ (ih fun d hd => hall d (List.mem_cons_of_mem _ hd))
          simp [isUnreserved, Char.isAlphanum, hc]
    exact hdigits _ fun _ => Decimal.isDigit_of_mem_digits

structure Sendable (j : Json) : Prop where
  ordered : j.Ordered
  literals : j.Literals
  carried : carried j = j
  coded : Coded (component j)

theorem carried_of_slot {p : QueryParams} {s : Slot} {j : Json} (h : p.encodeSlot s = some j)
    (hdepth : j.depth ≤ Json.maxDepth) : carried j = j := by
  refine (carried_eq_self_iff j).2 ⟨?_, hdepth⟩
  rintro t rfl
  rcases QueryParams.encodeSlot_cases h with ⟨_, h⟩ | ⟨_, h⟩ | ⟨_, h⟩ <;> cases h

variable {r : Request} {table : String} {entries : Fields Json}

theorem target_nil (hpath : r.path = tablePath table) (hquery : r.query = pairs (.object [])) :
    r.target.toList = '/' :: Percent.encode table.toList := by
  rw [target, hquery, pairs, List.map_nil, List.isEmpty_nil, if_pos rfl, hpath, tablePath, segment,
    String.toList_ofList]

theorem target_cons {entry : String × Json} (hpath : r.path = tablePath table)
    (hquery : r.query = pairs (.object (entry :: entries))) : r.target.toList
      = '/' :: (Percent.encode table.toList
        ++ '?' :: joinWith '&' ((entry :: entries).map entryText)) := by
  have hstring : r.queryString = join (pairs (.object (entry :: entries))) := by
    rw [queryString, hquery]
  rw [target, hstring, join_pairs, hquery, pairs, List.map_cons, List.isEmpty_cons, if_neg (by decide),
    hpath, tablePath, segment, String.toList_append, String.toList_append, String.toList_ofList,
    String.toList_ofList, String.toList_ofList, List.append_assoc]
  rfl

theorem path_ne_mark (table : String) : ∀ c ∈ '/' :: Percent.encode table.toList, c ≠ '?' := by
  intro c hc
  rcases List.mem_cons.1 hc with rfl | hc
  · decide
  · exact encode_ne (by decide) (by decide) table c hc

theorem cut_target (hpath : r.path = tablePath table) (hquery : r.query = pairs (.object entries)) :
    Receiver.cut r.target
      = ('/' :: Percent.encode table.toList, joinWith '&' (entries.map entryText)) := by
  cases entries with
  | nil =>
      rw [Receiver.cut, target_nil hpath hquery, cutAt_eq_none (path_ne_mark table)]
      rfl
  | cons entry entries =>
      rw [Receiver.cut, target_cons hpath hquery, ← List.cons_append,
        cutAt_append _ (path_ne_mark table)]
      rfl

theorem urlSafe_target (hpath : r.path = tablePath table) (hquery : r.query = pairs (.object entries))
    (hcoded : ∀ entry ∈ entries, Coded (component entry.2)) : UrlSafe r.target.toList := by
  cases entries with
  | nil =>
      rw [target_nil hpath hquery]
      exact .bare (.encode _)
  | cons entry entries =>
      have hpairs : ((entry :: entries).map fun e => (Percent.encode e.1.toList, component e.2)).map
          (fun (key, value) => key ++ '=' :: value) = (entry :: entries).map entryText := by
        rw [List.map_map]
        exact List.map_congr_left fun e _ => (entryText_eq e).symm
      rw [target_cons hpath hquery, ← hpairs]
      refine .query (.encode _) fun pair hpair => ?_
      obtain ⟨e, he, rfl⟩ := List.mem_map.1 hpair
      exact ⟨.encode _, hcoded e he⟩

theorem entries_target (hpath : r.path = tablePath table) (hquery : r.query = pairs (.object entries))
    (hsendable : ∀ entry ∈ entries, Sendable entry.2) :
    Receiver.entries r.target = .ok (.object (Fields.ofPairs entries)) := by
  have hfields := decodeFields_join_carried (fun entry hentry => (hsendable entry hentry).ordered)
    fun entry hentry => (hsendable entry hentry).literals
  have hcarried := (map_carried_eq_self_iff entries).2 fun entry hentry =>
    (hsendable entry hentry).carried
  rw [Receiver.entries, cut_target hpath hquery, ← join_pairs, QueryString.decode, hfields, hcarried]
  rfl

theorem delivers_of_entries {p : QueryParams} (hpath : r.path = tablePath table)
    (hquery : r.query = pairs (.object entries)) (hsendable : ∀ entry ∈ entries, Sendable entry.2)
    (hget : ∀ s : Slot, (Fields.ofPairs entries).get? s.key = p.encodeSlot s)
    (hcomplete : p.Complete) : Delivers r table p where
  urlSafe := urlSafe_target hpath hquery fun entry hentry => (hsendable entry hentry).coded
  table := by
    rw [Receiver.table, cut_target hpath hquery]
    exact decodePiece_eq_ok (Percent.decode_encode table.toList)
  params := by
    rw [Receiver.params, entries_target hpath hquery hsendable]
    exact (QueryParams.accepted_object hget).accepts hcomplete

theorem find_target (hpath : r.path = tablePath table) (hquery : r.query = pairs (.object entries))
    (hsendable : ∀ entry ∈ entries, Sendable entry.2) (key : String) :
    Receiver.find r.target key = .ok ((Fields.ofPairs entries).get? key) := by
  rw [Receiver.find, entries_target hpath hquery hsendable]
  rfl

theorem sendable_of_mem_fields {p : QueryParams} (hordered : p.Ordered)
    (hdepth : ∀ key j, p.toStructure.member? key = some j → j.depth ≤ Json.maxDepth)
    (hfloats : ∀ x, Json.Within (.num (.float x)) p.toStructure → (Number.float x).IsLiteral) :
    ∀ entry ∈ p.fields, Sendable entry.2 := by
  intro entry hentry
  obtain ⟨s, _, hs⟩ := QueryParams.mem_fields.1 hentry
  have hobject := QueryParams.ordered_toStructure hordered
  rw [QueryParams.toStructure_eq] at hobject hfloats hdepth
  have hmember : p.fields.get? s.key = some entry.2 := by rw [p.get?_fields, hs]
  exact ⟨(Json.ordered_object.1 hobject).2 entry hentry,
    (Json.Literals.of_floats hfloats).fields entry hentry,
    carried_of_slot hs (hdepth s.key _ hmember), coded_component_of_slot hs⟩

theorem sendable_true : Sendable (.bool true) where
  ordered := Json.ordered_bool true
  literals := by
    rintro n ⟨⟩
  carried := by simp [carried, Json.depth]
  coded := .unreserved (by decide) (.unreserved (by decide) (.unreserved (by decide)
    (.unreserved (by decide) .nil)))

theorem key_ne_paramsOnly (s : Slot) : s.key ≠ "paramsOnly" := by cases s <;> decide

theorem delivers_read (table : String) (p : QueryParams) (hcomplete : p.Complete)
    (hordered : p.Ordered)
    (hdepth : ∀ key j, p.toStructure.member? key = some j → j.depth ≤ Json.maxDepth)
    (hfloats : ∀ x, Json.Within (.num (.float x)) p.toStructure → (Number.float x).IsLiteral) :
    let flagged := (read table p).withPair "paramsOnly" "true"
    Delivers (read table p) table p ∧ Delivers flagged table p ∧
      Receiver.find (read table p).target "paramsOnly" = .ok none ∧
      Receiver.find flagged.target "paramsOnly" = .ok (some (.bool true)) := by
  intro flagged
  have hsendable := sendable_of_mem_fields hordered hdepth hfloats
  have hflagged : ∀ entry ∈ p.fields ++ [("paramsOnly", Json.bool true)], Sendable entry.2 := by
    rw [List.forall_mem_append, List.forall_mem_singleton]
    exact ⟨hsendable, sendable_true⟩
  have hquery : (read table p).query = pairs (.object p.fields) := by
    rw [read, QueryParams.toStructure_eq]
  have hquery' : flagged.query = pairs (.object (p.fields ++ [("paramsOnly", Json.bool true)])) := by
    have hpairs : flagged.query = (read table p).query ++ [("paramsOnly", "true")] := rfl
    rw [hpairs, hquery, pairs, pairs, List.map_append]
    rfl
  refine ⟨delivers_of_entries rfl hquery hsendable (fun s => ?_) hcomplete,
    delivers_of_entries rfl hquery' hflagged (fun s => ?_) hcomplete, ?_, ?_⟩
  · rw [Fields.ofPairs_of_sorted p.sorted_fields, p.get?_fields]
  · rw [Fields.ofPairs_append_singleton, Fields.ofPairs_of_sorted p.sorted_fields,
      QueryParams.get?_fields_insert key_ne_paramsOnly]
  · rw [find_target rfl hquery hsendable, Fields.ofPairs_of_sorted p.sorted_fields,
      QueryParams.get?_fields_of_ne key_ne_paramsOnly]
  · rw [find_target rfl hquery' hflagged, Fields.ofPairs_append_singleton, Fields.get?_insert,
      if_pos rfl]

def cheap : QueryParams where
  predicates := some [⟨"price?&=%é", .less, some (.num (.float .half)), none⟩]
  limit := some 10

theorem cheap_fields : cheap.fields = [("limit", .unsigned 10), ("whereRaw", .list [.object [
    ("field", .str "price?&=%é"), ("operator", .str "<"), ("value", .num (.float .half))]])] := rfl

theorem complete_cheap : cheap.Complete := by
  rw [QueryParams.complete_iff]
  simp [cheap, Predicate.Complete]

theorem ordered_cheap : cheap.Ordered := by
  refine .intro ?_ ?_
  · constructor <;> simp [cheap, Predicate.Ordered, Value.Ordered, Value.toJson, Json.Ordered]
  · simp [QueryParams.embedded, cheap]

theorem depth_cheap {key : String} {j : Json} (h : cheap.toStructure.member? key = some j) :
    j.depth ≤ Json.maxDepth := by
  rw [QueryParams.toStructure_eq, cheap_fields] at h
  simp only [Json.member?, Fields.get?_cons] at h
  split at h
  · cases h
    simp [Json.unsigned, Json.depth]
  · split at h
    · cases h
      simp [Json.depth, Json.depthItems, Json.depthFields, Json.maxDepth]
    · cases h

theorem eq_half_of_within_cheap {x : Binary64}
    (h : Json.Within (.num (.float x)) cheap.toStructure) : x = .half := by
  rw [QueryParams.toStructure_eq, cheap_fields] at h
  exact Json.eq_of_floats rfl h

theorem delivers_read_cheap :
    let flagged := (read "a/b?c é" cheap).withPair "paramsOnly" "true"
    Delivers (read "a/b?c é" cheap) "a/b?c é" cheap ∧ Delivers flagged "a/b?c é" cheap ∧
      Receiver.find (read "a/b?c é" cheap).target "paramsOnly" = .ok none ∧
      Receiver.find flagged.target "paramsOnly" = .ok (some (.bool true)) := by
  refine delivers_read "a/b?c é" cheap complete_cheap ordered_cheap (fun _ _ => depth_cheap) ?_
  intro x hx
  rw [eq_half_of_within_cheap hx]
  exact Number.isLiteral_half

end Request

end RemoteQuery
