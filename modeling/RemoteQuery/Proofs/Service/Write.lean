import RemoteQuery.Service.Session
import RemoteQuery.Proofs.Query.Content
import RemoteQuery.Proofs.Service.Request

namespace RemoteQuery

open Text

namespace Session

def request? (b : Builder) : Action → Option Request
  | .execute => some (readRequest b)
  | .fetchParams => some (echoRequest b)
  | .create payload => if payload.isEmpty then none else some (createRequest b payload)
  | .update id payload => if payload.isEmpty then none else some (updateRequest b id payload)
  | .delete id => some (deleteRequest b id)

def Sends (b : Builder) (a : Action) (r : Request) : Prop :=
  ∀ {τ : Type} [Transport τ] (t : τ),
    ((⟨b, some t⟩ : Session τ).perform a).2 = ⟨b, some (Transport.send r t).2⟩

theorem perform_snd {τ : Type} [Transport τ] (b : Builder) (t : τ) (a : Action) :
    ((⟨b, some t⟩ : Session τ).perform a).2
      = ⟨b, some ((request? b a).elim t fun r => (Transport.send r t).2)⟩ := by
  cases a with
  | execute => rfl
  | fetchParams => rfl
  | create payload =>
      simp only [perform, create, request?]
      split <;> rfl
  | update id payload =>
      simp only [perform, update, request?]
      split <;> rfl
  | delete id => rfl

theorem sends_iff {b : Builder} {a : Action} {r : Request} : Sends b a r ↔ request? b a = some r := by
  constructor
  · intro h
    have hlog := h ({ replies := [] } : Script)
    rw [perform_snd] at hlog
    cases hrequest : request? b a with
    | none => simp [hrequest, Transport.send, Script.send] at hlog
    | some q => simpa [hrequest, Transport.send, Script.send] using hlog
  · intro h τ _ t
    rw [perform_snd, h]
    rfl

end Session

namespace Receiver

def segments (path : String) : Decoded (List String) :=
  Wire.readAll QueryString.decodePiece (pieces (· = '/') (path.toList.drop 1))

def payloadContext : String := "payload"

def Finds (body : Json) (p : QueryParams) (payload : Payload) : Prop :=
  QueryParams.ofStructure body = .ok p ∧
    ∃ data, body.member? "data" = some data ∧ Wire.valueMap payloadContext data = .ok payload

theorem readAll_segment (names : List String) :
    Wire.readAll QueryString.decodePiece (names.map fun s => Percent.encode s.toList) = .ok names := by
  have hread := Wire.readAll_map_map (g := id) fun (s : String) (_ : s ∈ names) =>
    QueryString.decodePiece_eq_ok (Percent.decode_encode s.toList)
  rwa [List.map_id] at hread

theorem segments_of_path {path : String} {name : String} {names : List String}
    (hpath : path.toList
      = '/' :: joinWith '/' ((name :: names).map fun s => Percent.encode s.toList)) :
    segments path = .ok (name :: names) := by
  have hne : ∀ piece ∈ (name :: names).map fun s => Percent.encode s.toList, ∀ c ∈ piece, c ≠ '/' := by
    intro piece hpiece
    obtain ⟨s, _, rfl⟩ := List.mem_map.1 hpiece
    exact QueryString.encode_ne (by decide) (by decide) s
  have hpieces : pieces (· = '/') (joinWith '/' ((name :: names).map fun s => Percent.encode s.toList))
      = (name :: names).map fun s => Percent.encode s.toList := pieces_joinWith hne
  rw [segments, hpath, List.drop_succ_cons, List.drop_zero, hpieces, readAll_segment]

theorem segments_tablePath (table : String) : segments (Request.tablePath table) = .ok [table] := by
  apply segments_of_path
  rw [Request.tablePath, String.toList_ofList]
  rfl

theorem segments_recordPath (table id : String) :
    segments (Request.recordPath table id) = .ok [table, id] := by
  apply segments_of_path
  rw [Request.recordPath, String.toList_ofList]
  rfl

theorem finds_unique {body? : Option Json} {p q : QueryParams} {d e : Payload}
    (hp : ∃ body, body? = some body ∧ Finds body p d)
    (hq : ∃ body, body? = some body ∧ Finds body q e) : p = q ∧ d = e := by
  obtain ⟨body, rfl, hp, i, hi, hd⟩ := hp
  obtain ⟨_, ⟨⟩, hq, j, hj, he⟩ := hq
  have hij : i = j := Option.some.inj (hi.symm.trans hj)
  subst hij
  exact ⟨Except.ok.inj (hp.symm.trans hq), Except.ok.inj (hd.symm.trans he)⟩

end Receiver

namespace Session

theorem key_ne_data (s : Slot) : s.key ≠ "data" := by cases s <;> decide

theorem writeBody_eq (b : Builder) (payload : Payload) :
    writeBody b payload = .object (b.params.fields.insert "data" payload.toJson) := by
  rw [writeBody, QueryParams.toStructure_eq]

theorem finds_writeBody {b : Builder} (hcomplete : b.params.Complete) (payload : Payload) :
    Receiver.Finds (writeBody b payload) b.params payload := by
  have hget := QueryParams.get?_fields_insert key_ne_data b.params payload.toJson
  rw [writeBody_eq]
  refine ⟨(QueryParams.accepted_object hget).accepts hcomplete, payload.toJson, ?_, ?_⟩
  · rw [Json.member?, Fields.get?_insert, if_pos rfl]
  · exact Wire.valueMap_toJson _ payload

theorem body_deleteRequest {b : Builder} {id : String} :
    (deleteRequest b id).body = none ↔ b.params = {} := by
  rw [← QueryParams.isEmpty_iff, deleteRequest, Request.delete]
  split <;> simp_all

end Session

namespace Action

def IsWrite : Action → Prop
  | .create payload => payload ≠ []
  | .update _ payload => payload ≠ []
  | .delete _ => True
  | _ => False

def FoundIn (r : Request) (b : Builder) : Action → Prop
  | .create payload => r.method = .post ∧ Receiver.segments r.path = .ok [b.table] ∧
      ∃ body, r.body = some body ∧ Receiver.Finds body b.params payload
  | .update id payload => r.method = .put ∧ Receiver.segments r.path = .ok [b.table, id] ∧
      ∃ body, r.body = some body ∧ Receiver.Finds body b.params payload
  | .delete id => r.method = .delete ∧ Receiver.segments r.path = .ok [b.table, id] ∧
      (r.body = none ↔ b.params = {}) ∧
      ∀ body, r.body = some body → QueryParams.ofStructure body = .ok b.params
  | _ => False

variable {a c : Action} {b d : Builder} {r : Request}

theorem exists_foundIn (hcomplete : b.params.Complete) (h : a.IsWrite) :
    ∃ r, Session.request? b a = some r ∧ a.FoundIn r b := by
  cases a with
  | create payload =>
      have hpayload : payload.isEmpty = false := List.isEmpty_eq_false_iff.2 h
      refine ⟨Session.createRequest b payload, by simp [Session.request?, hpayload], rfl, ?_, ?_⟩
      · exact Receiver.segments_tablePath b.table
      · exact ⟨_, rfl, Session.finds_writeBody hcomplete payload⟩
  | update id payload =>
      have hpayload : payload.isEmpty = false := List.isEmpty_eq_false_iff.2 h
      refine ⟨Session.updateRequest b id payload, by simp [Session.request?, hpayload], rfl, ?_, ?_⟩
      · exact Receiver.segments_recordPath b.table id
      · exact ⟨_, rfl, Session.finds_writeBody hcomplete payload⟩
  | delete id =>
      refine ⟨Session.deleteRequest b id, rfl, rfl, Receiver.segments_recordPath b.table id,
        Session.body_deleteRequest, ?_⟩
      intro body hbody
      have haccepted := (QueryParams.accepted b.params).accepts hcomplete
      rw [Session.deleteRequest, Request.delete] at hbody
      split at hbody
      · cases hbody
      · cases hbody
        exact haccepted
  | execute => exact h.elim
  | fetchParams => exact h.elim

theorem foundIn_unique (ha : a.FoundIn r b) (hc : c.FoundIn r d) :
    a = c ∧ b.table = d.table ∧ b.params = d.params := by
  cases a with
  | create payload =>
      cases c with
      | create other =>
          obtain ⟨_, hpath, hbody⟩ := ha
          obtain ⟨_, hpath', hbody'⟩ := hc
          have hnames := Except.ok.inj (hpath.symm.trans hpath')
          obtain ⟨hparams, rfl⟩ := Receiver.finds_unique hbody hbody'
          exact ⟨rfl, (List.cons.inj hnames).1, hparams⟩
      | update _ _ | delete _ => exact absurd (ha.1.symm.trans hc.1) (by decide)
      | execute | fetchParams => exact hc.elim
  | update id payload =>
      cases c with
      | update id' other =>
          obtain ⟨_, hpath, hbody⟩ := ha
          obtain ⟨_, hpath', hbody'⟩ := hc
          have hnames := Except.ok.inj (hpath.symm.trans hpath')
          simp only [List.cons.injEq, and_true] at hnames
          obtain ⟨htable, rfl⟩ := hnames
          obtain ⟨hparams, rfl⟩ := Receiver.finds_unique hbody hbody'
          exact ⟨rfl, htable, hparams⟩
      | create _ | delete _ => exact absurd (ha.1.symm.trans hc.1) (by decide)
      | execute | fetchParams => exact hc.elim
  | delete id =>
      cases c with
      | delete id' =>
          obtain ⟨_, hpath, hnone, hbody⟩ := ha
          obtain ⟨_, hpath', hnone', hbody'⟩ := hc
          have hnames := Except.ok.inj (hpath.symm.trans hpath')
          simp only [List.cons.injEq, and_true] at hnames
          obtain ⟨htable, rfl⟩ := hnames
          refine ⟨rfl, htable, ?_⟩
          -- A missing body stands for the parameters of a query that uses no slot.
          cases hr : r.body with
          | none => rw [hnone.1 hr, hnone'.1 hr]
          | some body => exact Except.ok.inj ((hbody body hr).symm.trans (hbody' body hr))
      | create _ | update _ _ => exact absurd (ha.1.symm.trans hc.1) (by decide)
      | execute | fetchParams => exact hc.elim
  | execute | fetchParams => exact ha.elim

end Action

theorem write_arrives :
    (∀ (b : Builder) (a : Action), b.params.Complete → a.IsWrite →
      ∃ r, Session.Sends b a r ∧ a.FoundIn r b) ∧
    ∀ (b d : Builder) (a c : Action) (r : Request), b.params.Complete → d.params.Complete →
      a.IsWrite → c.IsWrite → Session.Sends b a r → Session.Sends d c r →
      a = c ∧ b.table = d.table ∧ b.params = d.params := by
  constructor
  · intro b a hb ha
    obtain ⟨r, hrequest, hfound⟩ := Action.exists_foundIn hb ha
    exact ⟨r, Session.sends_iff.2 hrequest, hfound⟩
  · intro b d a c r hb hd ha hc hsends hsends'
    obtain ⟨q, hq, hfound⟩ := Action.exists_foundIn hb ha
    obtain ⟨q', hq', hfound'⟩ := Action.exists_foundIn hd hc
    have hr : q = r := Option.some.inj (hq.symm.trans (Session.sends_iff.1 hsends))
    have hr' : q' = r := Option.some.inj (hq'.symm.trans (Session.sends_iff.1 hsends'))
    rw [hr] at hfound
    rw [hr'] at hfound'
    exact Action.foundIn_unique hfound hfound'

def cheapRow : Payload := [("data", .null), ("limit", .str "10")]

theorem write_arrives_cheap :
    (∃ r, Session.Sends { table := "a/b?", params := Request.cheap } (.update "" cheapRow) r ∧
      (Action.update "" cheapRow).FoundIn r { table := "a/b?", params := Request.cheap }) ∧
    ∀ r, Session.Sends { table := "%", params := Request.cheap } (.update "é/1" cheapRow) r →
      ¬Session.Sends { table := "%", params := {} } (.update "é/1" cheapRow) r := by
  have hwrite : ∀ id, (Action.update id cheapRow).IsWrite := fun _ => List.cons_ne_nil _ _
  constructor
  · exact write_arrives.1 _ _ Request.complete_cheap (hwrite "")
  · intro r h h'
    have hempty : ({} : QueryParams).Complete := by
      rw [QueryParams.complete_iff]
      simp
    have hparams : Request.cheap = {} :=
      (write_arrives.2 _ _ _ _ r Request.complete_cheap hempty (hwrite _) (hwrite _) h h').2.2
    have hlimit : Request.cheap.limit = none := by rw [hparams]
    cases hlimit

end RemoteQuery
