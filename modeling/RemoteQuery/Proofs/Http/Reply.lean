import Mathlib.Data.List.DropRight
import RemoteQuery.Proofs.Http.Retry
import RemoteQuery.Proofs.Json.Reading
import RemoteQuery.Proofs.Json.Shape
import RemoteQuery.Proofs.Query.Ordered
import RemoteQuery.Proofs.Service.Response
import RemoteQuery.Proofs.Service.Run

namespace RemoteQuery

namespace Text

variable {cs ts : List Char}

theorem trim_eq_nil_iff :
    trim cs = [] ↔ ∀ c ∈ cs, isBlank c = true := by
  have hright : trim cs = [] ↔ ∀ c ∈ cs.dropWhile isBlank, isBlank c = true :=
    List.rdropWhile_eq_nil_iff
  rw [hright]
  constructor
  · intro h c hc
    rw [← List.takeWhile_append_dropWhile (p := isBlank) (l := cs), List.mem_append] at hc
    rcases hc with hc | hc
    · exact List.mem_takeWhile_imp hc
    · exact h c hc
  · exact fun h c hc => h c ((List.dropWhile_sublist _).subset hc)

structure Stripped (cs ts : List Char) : Prop where
  around : ∃ before after, cs = before ++ (ts ++ after) ∧
    (∀ c ∈ before, isBlank c = true) ∧ ∀ c ∈ after, isBlank c = true
  first : ∀ c, ts.head? = some c → isBlank c = false
  last : ∀ c, ts.getLast? = some c → isBlank c = false

theorem stripped_trim (cs : List Char) : Stripped cs (trim cs) := by
  have hafter : trim cs ++ (cs.dropWhile isBlank).rtakeWhile isBlank = cs.dropWhile isBlank :=
    List.rdropWhile_append_rtakeWhile
  refine ⟨⟨cs.takeWhile isBlank, (cs.dropWhile isBlank).rtakeWhile isBlank, ?_,
    fun c => List.mem_takeWhile_imp, fun c => List.mem_rtakeWhile_imp⟩, fun c hc => ?_,
    fun c hc => ?_⟩
  · rw [hafter, List.takeWhile_append_dropWhile]
  · have hfirst := List.head?_dropWhile_not isBlank cs
    rwa [← hafter, List.head?_append, hc] at hfirst
  · obtain ⟨hne, rfl⟩ := List.mem_getLast?_eq_getLast hc
    exact Bool.eq_false_iff.2 (List.rdropWhile_last_not isBlank _ hne)

theorem Stripped.eq_trim (h : Stripped cs ts) : ts = trim cs := by
  obtain ⟨⟨before, after, rfl, hbefore, hafter⟩, hfirst, hlast⟩ := h
  have hright : trimRight (ts ++ after) = ts := by
    rw [trimRight, List.reverse_append,
      List.dropWhile_append_of_pos fun c hc => hafter c (List.mem_reverse.1 hc)]
    exact List.rdropWhile_eq_self_iff.2 fun hne =>
      Bool.eq_false_iff.1 (hlast _ (List.getLast?_eq_some_getLast hne))
  rw [trim, List.dropWhile_append_of_pos hbefore]
  cases ts with
  | nil =>
      rw [List.nil_append, List.dropWhile_eq_nil_iff.2 hafter]
      rfl
  | cons c ts =>
      have hc : ¬isBlank c = true := Bool.eq_false_iff.1 (hfirst c rfl)
      rw [List.cons_append, List.dropWhile_cons_of_neg hc, ← List.cons_append, hright]

end Text

namespace Response

structure Ordered (r : Response) : Prop where
  data : ∀ row ∈ r.data, row.Ordered
  params : ∀ p, r.params = some p → p.Ordered

theorem ordered_toStructure {r : Response} (h : r.Ordered) : r.toStructure.Ordered := by
  apply Json.ordered_record ["data", "error", "id", "message", "params"] (by decide) rfl
  have hdata : ∀ row ∈ r.data, row.toJson.Ordered := fun row hrow =>
    Fields.ordered_toJson (h.data row hrow)
  have hparams : ∀ p, r.params = some p → p.toStructure.Ordered := fun p hp =>
    QueryParams.ordered_toStructure (h.params p hp)
  simpa using ⟨hdata, hparams⟩

end Response

namespace Http

def Blank (body : String) : Prop := ∀ c ∈ body.toList, Text.isBlank c = true

theorem readBody_of_blank {body : String} (h : Blank body) : readBody body = .ok {} := by
  rw [readBody, if_pos (List.isEmpty_iff.2 (Text.trim_eq_nil_iff.2 h))]

theorem readBody_of_not_blank {body : String} (h : ¬Blank body) :
    readBody body = match Json.parse? body with
      | none => .error (.format .malformedJson)
      | some j => (Response.ofStructure j).mapError .format := by
  have htrim : ¬(Text.trim body.toList).isEmpty = true := by
    rwa [List.isEmpty_iff, Text.trim_eq_nil_iff]
  exact if_neg htrim

def Carries (body : String) (r : Response) : Prop :=
  Blank body ∧ r = {} ∨ ∃ j, Json.parse? body = some j ∧ Response.ofStructure j = .ok r

theorem readBody_eq_ok {body : String} {r : Response} : readBody body = .ok r ↔ Carries body r := by
  by_cases hblank : Blank body
  · -- A blank text is no JSON, so the second alternative is void.
    rw [readBody_of_blank hblank, Carries, Json.parse?_of_blank hblank, Except.ok.injEq]
    simp [hblank, eq_comm]
  · rw [readBody_of_not_blank hblank, Carries]
    cases Json.parse? body with
    | none => simp [hblank]
    | some j => cases hj : Response.ofStructure j <;> simp [hblank, hj, Except.mapError]

/-- The message of a failure: the body's own `error`, else its own `message`, else one made of both
the status and the body. -/
inductive Detail (status : UInt16) (body : String) : String → Prop
  | error {j : Json} {s : String} :
      Json.parse? body = some j → j.member? "error" = some (.str s) → Detail status body s
  | message {j : Json} {s : String} :
      Json.parse? body = some j → (∀ e, j.member? "error" ≠ some (.str e)) →
      j.member? "message" = some (.str s) → Detail status body s
  | made {text : String} :
      (∀ j, Json.parse? body = some j →
        ∀ s, j.member? "error" ≠ some (.str s) ∧ j.member? "message" ≠ some (.str s)) →
      Text.Stripped body.toList text.toList → Detail status body
        ("HTTP " ++ toString status.toNat ++ " " ++ reason status ++ ": " ++ text)

theorem textMember?_eq_some {key : String} {j : Json} {s : String} :
    textMember? key j = some s ↔ j.member? key = some (.str s) := by
  have hstring : ∀ k : Json, k.string? = some s ↔ k = .str s := by
    intro k
    cases k <;> simp [Json.string?]
  simp only [textMember?, Option.bind_eq_some_iff, hstring, exists_eq_right]

theorem textMember?_eq_none {key : String} {j : Json} :
    textMember? key j = none ↔ ∀ s, j.member? key ≠ some (.str s) := by
  simp only [Option.eq_none_iff_forall_ne_some, ne_eq, textMember?_eq_some]

theorem detail_statusFailure (status : UInt16) (body : String) :
    ∃ detail, Detail status body detail ∧
      statusFailure status body = .transport detail "HTTP_STATUS" (some status) := by
  refine ⟨_, ?_, rfl⟩
  have hstripped : Text.Stripped body.toList (trimmed body).toList := by
    rw [trimmed, String.toList_ofList]
    exact Text.stripped_trim body.toList
  rw [serviceDetail?]
  cases hparse : Json.parse? body with
  | none =>
      refine .made (fun j hj => ?_) hstripped
      rw [hparse] at hj
      cases hj
  | some j =>
      rw [Option.bind_eq_bind, Option.bind_some]
      cases herror : textMember? "error" j with
      | some s => exact .error hparse (textMember?_eq_some.1 herror)
      | none =>
          rw [textMember?_eq_none] at herror
          cases hmessage : textMember? "message" j with
          | some s => exact .message hparse herror (textMember?_eq_some.1 hmessage)
          | none =>
              rw [textMember?_eq_none] at hmessage
              refine .made (fun k hk s => ?_) hstripped
              obtain rfl := Option.some.inj (hparse.symm.trans hk)
              exact ⟨herror s, hmessage s⟩

theorem readBody_text {r : Response} (hcomplete : r.Complete) (hordered : r.Ordered)
    (hdepth : r.toStructure.depth ≤ Json.maxDepth)
    (hfloats : ∀ x, Json.Within (.num (.float x)) r.toStructure → (Number.float x).IsLiteral) :
    readBody r.toStructure.text = .ok r := by
  have hparse := Json.parse?_text (Response.ordered_toStructure hordered) (.of_floats hfloats)
  rw [if_pos hdepth] at hparse
  exact readBody_eq_ok.2 (.inr ⟨_, hparse, (Response.accepted r).accepts hcomplete⟩)

section

variable {a : Action} {body : String} {result : Except QueryError Answer}

theorem answers_of_carries {r : Response} (h : a.Answers (readBody body) result)
    (hr : Carries body r) : a.Answers (.ok r) result := by
  rwa [readBody_eq_ok.2 hr] at h

theorem eq_ok_iff (h : a.Answers (readBody body) result) (ha : a ≠ .fetchParams) {answer : Answer} :
    result = .ok answer ↔ ∃ r, answer = .response r ∧ Carries body r ∧ r.error = none := by
  constructor
  · rintro rfl
    cases hread : readBody body with
    | error e =>
        rw [hread] at h
        cases h.eq_of_error
    | ok r =>
        rw [hread] at h
        cases herror : r.error with
        | some text => cases h.eq_of_remote herror
        | none =>
            exact ⟨r, Except.ok.inj (h.eq_of_returned ha herror), readBody_eq_ok.1 hread, herror⟩
  · rintro ⟨r, rfl, hr, hnone⟩
    exact (answers_of_carries h hr).eq_of_returned ha hnone

theorem exists_format_of_not_carries (h : a.Answers (readBody body) result)
    (hnone : ∀ r, ¬Carries body r) : ∃ e, result = .error (.format e) := by
  cases hread : readBody body with
  | ok r => exact absurd (readBody_eq_ok.1 hread) (hnone r)
  | error e =>
      obtain ⟨f, rfl⟩ := exists_format_of_readBody hread
      rw [hread] at h
      exact ⟨f, h.eq_of_error⟩

end

namespace Connection

variable {b : Builder} {c : Connection} {a : Action} {request : Request} {k : Nat}

theorem answers_final (hrequest : Session.request? b a = some request)
    (hleast : IsLeast {k | IsFinal request.method c.config.maxRetries (c.outcomeOf request) k} k) :
    a.Answers (c.outcomeOf request k).reply ((⟨b, some c⟩ : Session Connection).perform a).1 := by
  have hsettled : (c.settled request).made = k := (isLeast_settle _ _ _).unique hleast
  have hanswers := Session.answers_perform hrequest c
  have hreply : (Transport.send request c).1 = (c.outcomeOf request k).reply := by
    rw [← hsettled]
    exact (send_eq c request).1
  rwa [hreply] at hanswers

theorem perform_of_final_reply {status : UInt16} {body : String} (ha : a ≠ .fetchParams)
    (hrequest : Session.request? b a = some request)
    (hleast : IsLeast {k | IsFinal request.method c.config.maxRetries (c.outcomeOf request) k} k)
    (hreply : c.outcomeOf request k = .replied status body) :
    let result := ((⟨b, some c⟩ : Session Connection).perform a).1
    (∀ answer, result = .ok answer ↔ ∃ r, answer = .response r ∧
      (200 ≤ status ∧ status < 300) ∧ Carries body r ∧ r.error = none) ∧
    (¬(200 ≤ status ∧ status < 300) → ∃ detail, Detail status body detail ∧
      result = .error (.transport detail "HTTP_STATUS" (some status))) ∧
    (200 ≤ status ∧ status < 300 →
      (∀ r text, Carries body r → r.error = some text →
        result = .error (.transport text "REMOTE_ERROR" none)) ∧
      ((∀ r, ¬Carries body r) → ∃ e, result = .error (.format e)) ∧
      ∀ r : Response, r.error = none → r.Complete → r.Ordered → r.toStructure.depth ≤ 127 →
        -- A reader that scales can take a double for its neighbour; these read back as themselves.
        (∀ x, Json.Within (.num (.float x)) r.toStructure → (Number.float x).IsLiteral) →
        body = r.toStructure.text → result = .ok (.response r)) := by
  intro result
  have hanswers : a.Answers (Outcome.replied status body).reply result := by
    rw [← hreply]
    exact answers_final hrequest hleast
  rw [Outcome.reply] at hanswers
  by_cases hsuccess : isSuccess status = true
  · rw [if_pos hsuccess] at hanswers
    have hrange := isSuccess_iff.1 hsuccess
    refine ⟨fun answer => ?_, fun hfails => absurd hrange hfails, fun _ => ⟨?_, ?_, ?_⟩⟩
    · rw [eq_ok_iff hanswers ha]
      simp only [hrange, and_self, true_and]
    · intro r text hr htext
      exact (answers_of_carries hanswers hr).eq_of_remote htext
    · exact exists_format_of_not_carries hanswers
    · rintro r hnone hcomplete hordered hdepth hfloats rfl
      rw [readBody_text hcomplete hordered hdepth hfloats] at hanswers
      exact hanswers.eq_of_returned ha hnone
  · rw [if_neg hsuccess] at hanswers
    rw [isSuccess_iff] at hsuccess
    obtain ⟨detail, hdetail, hfailure⟩ := detail_statusFailure status body
    have hresult := hanswers.eq_of_error
    rw [hfailure] at hresult
    refine ⟨fun answer => ?_, fun _ => ⟨detail, hdetail, hresult⟩, fun h => absurd h hsuccess⟩
    rw [hresult]
    simp only [hsuccess, false_and, and_false, exists_false, reduceCtorEq]

def answering (status : UInt16) (body : String) : Connection where
  config := {}
  headers := []
  outcomes := fun _ => .replied status body

theorem outcomeOf_answering (status : UInt16) (body : String) :
    (answering status body).outcomeOf (Session.readRequest (.new "users"))
      = fun _ => .replied status body := by
  funext k
  have htarget : (Url.target? (endpoint ({} : ClientConfig).baseUrl
      (Session.readRequest (.new "users")))).isSome = true := by decide +kernel
  exact if_pos htarget

theorem perform_of_final_reply_answering :
    let users := Builder.new "users"
    let row : Response := { id := some 7 }
    let refusal : Json := .object [("data", .list []), ("message", .str "locked")]
    let page := " no such table\n"
    ((⟨users, some (answering 200 row.toStructure.text)⟩ : Session Connection).perform .execute).1
        = .ok (.response row) ∧
      (∃ detail, Detail 423 refusal.text detail ∧
        ((⟨users, some (answering 423 refusal.text)⟩ : Session Connection).perform .execute).1
          = .error (.transport detail "HTTP_STATUS" (some 423))) ∧
      ((⟨users, some (answering 404 page)⟩ : Session Connection).perform .execute).1
        = .error (.transport "HTTP 404 Not Found: no such table" "HTTP_STATUS" (some 404)) := by
  intro users row refusal page
  have hfirst : ∀ status body, ¬(Outcome.replied status body).Retryable .get →
      IsLeast {k | IsFinal .get (answering status body).config.maxRetries
        ((answering status body).outcomeOf (Session.readRequest users)) k} 0 := by
    intro status body hfinal
    rw [outcomeOf_answering]
    exact ⟨.inr (.inl hfinal), fun _ _ => Nat.zero_le _⟩
  refine ⟨?_, ?_, ?_⟩
  · obtain ⟨-, -, hsuccess⟩ := perform_of_final_reply (a := .execute) nofun rfl
      (hfirst 200 row.toStructure.text fun h => absurd h.2 (by decide))
      (congrFun (outcomeOf_answering _ _) 0)
    obtain ⟨-, -, hreads⟩ := hsuccess (by decide)
    refine hreads row rfl ?_ ?_ ?_ ?_ rfl
    · rintro p ⟨⟩
    · exact ⟨by rintro r ⟨⟩, by rintro p ⟨⟩⟩
    · decide
    · intro x hx
      have hrow : row.toStructure
          = .object [("data", .list []), ("id", .num (.unsigned 7))] := rfl
      rw [hrow] at hx
      cases hx with
      | field hmem hin =>
          simp only [List.mem_cons, Prod.mk.injEq, List.not_mem_nil, or_false] at hmem
          rcases hmem with ⟨_, rfl⟩ | ⟨_, rfl⟩
          · cases hin with
            | item hitem _ => cases hitem
          · cases hin
  · obtain ⟨-, hfailure, -⟩ := perform_of_final_reply (a := .execute) nofun rfl
      (hfirst 423 refusal.text fun h => absurd h.2 (by decide))
      (congrFun (outcomeOf_answering _ _) 0)
    exact hfailure (by decide)
  · obtain ⟨-, hfailure, -⟩ := perform_of_final_reply (a := .execute) nofun rfl
      (hfirst 404 page fun h => absurd h.2 (by decide))
      (congrFun (outcomeOf_answering _ _) 0)
    obtain ⟨detail, hdetail, hresult⟩ := hfailure (by decide)
    have hparse : Json.parse? page = none := by decide +kernel
    rw [hresult]
    cases hdetail with
    | error hj => rw [hparse] at hj; cases hj
    | message hj => rw [hparse] at hj; cases hj
    | @made text _ hstripped =>
        have htrim : Text.trim page.toList = "no such table".toList := by decide
        have htext : text = "no such table" := String.toList_inj.1 (hstripped.eq_trim.trans htrim)
        rw [htext]
        rfl

end Connection

end Http

end RemoteQuery
