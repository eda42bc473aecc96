import RemoteQuery.Proofs.Builder.Writes
import RemoteQuery.Proofs.Service.Write

namespace RemoteQuery

namespace Action

def refusal? : Action → Option QueryError
  | .create [] => some (.validation "create requires a non-empty payload")
  | .update _ [] => some (.validation "update requires a non-empty payload")
  | _ => none

inductive Answers : Action → Reply → Except QueryError Answer → Prop
  | failed (a : Action) (e : QueryError) : Answers a (.error e) (.error e)
  | remote (a : Action) {r : Response} {detail : String} :
      r.error = some detail → Answers a (.ok r) (.error (.transport detail "REMOTE_ERROR" none))
  | returned {a : Action} {r : Response} :
      a ≠ .fetchParams → r.error = none → Answers a (.ok r) (.ok (.response r))
  | echoed {r : Response} {p : QueryParams} :
      r.error = none → r.params = some p → Answers .fetchParams (.ok r) (.ok (.params p))
  | notEchoed {r : Response} :
      r.error = none → r.params = none →
      Answers .fetchParams (.ok r)
        (.error (.transport "response carried no params" "MISSING_PARAMS" none))

variable {a : Action} {r : Response} {e : QueryError} {result : Except QueryError Answer}

theorem Answers.eq_of_error (h : a.Answers (.error e) result) : result = .error e := by
  cases h
  rfl

theorem Answers.eq_of_remote {detail : String} (h : a.Answers (.ok r) result)
    (hdetail : r.error = some detail) :
    result = .error (.transport detail "REMOTE_ERROR" none) := by
  cases h with
  | remote _ herror => rw [Option.some.inj (herror.symm.trans hdetail)]
  | returned _ hnone | echoed hnone _ | notEchoed hnone _ => cases hnone.symm.trans hdetail

theorem Answers.eq_of_returned (h : a.Answers (.ok r) result) (ha : a ≠ .fetchParams)
    (hnone : r.error = none) : result = .ok (.response r) := by
  cases h with
  | returned => rfl
  | remote _ herror => cases hnone.symm.trans herror
  | echoed | notEchoed => exact absurd rfl ha

def conclude : Action → Reply → Except QueryError Answer
  | .fetchParams, reply => (reply >>= Session.echoed).map .params
  | _, reply => reply.map .response

theorem conclude_error (a : Action) (e : QueryError) : a.conclude (.error e) = .error e := by
  cases a <;> rfl

theorem answers_conclude (a : Action) (reply : Reply) :
    a.Answers reply (a.conclude (reply >>= Response.result)) := by
  cases reply with
  | error e =>
      have hfailed : a.conclude (Except.error e >>= Response.result) = .error e := conclude_error a e
      rw [hfailed]
      exact .failed a e
  | ok r =>
      have hresult : (Except.ok r >>= Response.result : Reply) = r.result := rfl
      rw [hresult, Response.result]
      cases herror : r.error with
      | some detail =>
          rw [conclude_error]
          exact .remote a herror
      | none =>
          cases a with
          | fetchParams =>
              have hechoed : conclude .fetchParams (.ok r) = (Session.echoed r).map .params := rfl
              rw [hechoed, Session.echoed]
              cases hparams : r.params with
              | some p => exact .echoed herror hparams
              | none => exact .notEchoed herror hparams
          | _ => exact .returned (by nofun) herror

theorem refusal?_eq_none_iff (b : Builder) :
    a.refusal? = none ↔ ∃ r, Session.request? b a = some r := by
  cases a with
  | create payload => cases payload <;> simp [refusal?, Session.request?]
  | update id payload => cases payload <;> simp [refusal?, Session.request?]
  | _ => simp [refusal?, Session.request?]

theorem request?_of_refusal? (b : Builder) (h : a.refusal? = some e) : Session.request? b a = none := by
  rw [Option.eq_none_iff_forall_ne_some]
  intro r hr
  cases h.symm.trans ((refusal?_eq_none_iff b).2 ⟨r, hr⟩)

end Action

namespace Session

section Perform

variable {τ : Type} [Transport τ] {a : Action}

theorem perform_refused {e : QueryError} (h : a.refusal? = some e) (s : Session τ) :
    s.perform a = (.error e, s) := by
  cases a with
  | create payload | update id payload =>
      cases payload with
      | nil =>
          cases h
          rfl
      | cons => cases h
  | _ => cases h

theorem perform_of_request? {s : Session τ} {r : Request} (h : request? s.builder a = some r) :
    s.perform a = (a.conclude (s.send r).1, (s.send r).2) := by
  cases a with
  | create payload | update id payload =>
      cases payload with
      | nil => cases h
      | cons =>
          rw [← Option.some.inj h]
          rfl
  | _ =>
      rw [← Option.some.inj h]
      rfl

theorem builder_perform (s : Session τ) (a : Action) : (s.perform a).2.builder = s.builder := by
  cases h : a.refusal? with
  | some e => rw [perform_refused h]
  | none =>
      obtain ⟨r, hr⟩ := (Action.refusal?_eq_none_iff s.builder).1 h
      rw [perform_of_request? hr, send]
      split <;> rfl

theorem perform_unbound (h : a.refusal? = none) (b : Builder) :
    (⟨b, none⟩ : Session τ).perform a = (.error .notConnected, ⟨b, none⟩) := by
  obtain ⟨r, hr⟩ := (Action.refusal?_eq_none_iff b).1 h
  have hperform := perform_of_request? (s := (⟨b, none⟩ : Session τ)) hr
  rw [hperform, send, Action.conclude_error]

theorem answers_perform {b : Builder} {r : Request} (h : request? b a = some r) (t : τ) :
    a.Answers (Transport.send r t).1 ((⟨b, some t⟩ : Session τ).perform a).1 := by
  have hperform := perform_of_request? (s := (⟨b, some t⟩ : Session τ)) h
  rw [hperform]
  exact Action.answers_conclude a (Transport.send r t).1

end Perform

inductive Step where
  | build (c : Call)
  | act (a : Action)

def play {τ : Type} [Transport τ] (s : Session τ) :
    List Step → List (Except QueryError Answer) × Session τ
  | [] => ([], s)
  | .build c :: rest => play (s.run [c]) rest
  | .act a :: rest =>
      let (result, s) := s.perform a
      let (results, s) := play s rest
      (result :: results, s)

def built : List Step → List Call
  | [] => []
  | .build c :: rest => c :: built rest
  | .act _ :: rest => built rest

def performed (b : Builder) : List Step → List (Builder × Action)
  | [] => []
  | .build c :: rest => performed (b.call c) rest
  | .act a :: rest => (b, a) :: performed b rest

def requests (actions : List (Builder × Action)) : List Request :=
  actions.filterMap fun action => request? action.1 action.2

theorem getElem?_requests {actions : List (Builder × Action)} {i : Nat} {b : Builder} {a : Action}
    {r : Request} (hi : actions[i]? = some (b, a)) (hr : request? b a = some r) :
    (requests actions)[(requests (actions.take i)).length]? = some r := by
  obtain ⟨hlt, hget⟩ := List.getElem?_eq_some_iff.1 hi
  have hsplit : actions = actions.take i ++ (b, a) :: actions.drop (i + 1) := by
    rw [← hget, List.getElem_cons_drop, List.take_append_drop]
  have hrequests : requests actions
      = requests (actions.take i) ++ r :: requests (actions.drop (i + 1)) := by
    conv_lhs => rw [hsplit]
    rw [requests, List.filterMap_append, List.filterMap_cons, hr]
    rfl
  rw [hrequests, List.getElem?_append_right (Nat.le_refl _), Nat.sub_self]
  rfl

theorem play_unbound {τ : Type} [Transport τ] (b : Builder) (steps : List Step) :
    (⟨b, none⟩ : Session τ).play steps
      = ((performed b steps).map fun action => .error (action.2.refusal?.getD .notConnected),
          ⟨b.run (built steps), none⟩) := by
  induction steps generalizing b with
  | nil => rfl
  | cons step rest ih =>
      cases step with
      | build c => exact ih (b.call c)
      | act a =>
          have hperform : (⟨b, none⟩ : Session τ).perform a
              = (.error (a.refusal?.getD .notConnected), ⟨b, none⟩) := by
            cases h : a.refusal? with
            | some e => rw [perform_refused h]; rfl
            | none => rw [perform_unbound h]; rfl
          simp only [play, hperform, ih, performed, built, List.map_cons]

section Script

variable {b : Builder} {a : Action} {replies : List Reply} {sent : List Request}

theorem send_script (r : Request) (replies : List Reply) (sent : List Request) :
    Transport.send r (⟨replies, sent⟩ : Script)
      = (replies[0]?.getD (.ok {}), ⟨replies.drop 1, sent ++ [r]⟩) := by
  cases replies <;> rfl

def Settles (reply : Reply) (a : Action) (result : Except QueryError Answer) : Prop :=
  (∀ e, a.refusal? = some e → result = .error e) ∧ (a.refusal? = none → a.Answers reply result)

theorem perform_script (b : Builder) (a : Action) (replies : List Reply) (sent : List Request) :
    let n := (requests [(b, a)]).length
    let after := (⟨b, some ⟨replies, sent⟩⟩ : Session Script).perform a
    Settles (replies[0]?.getD (.ok {})) a after.1 ∧
      after.2 = ⟨b, some ⟨replies.drop n, sent ++ requests [(b, a)]⟩⟩ := by
  intro n after
  cases hrefusal : a.refusal? with
  | some e =>
      have hrequest := Action.request?_of_refusal? b hrefusal
      have hafter : after = (.error e, ⟨b, some ⟨replies, sent⟩⟩) := perform_refused hrefusal _
      have hsent : requests [(b, a)] = [] := by simp [requests, hrequest]
      refine ⟨⟨fun e' he' => ?_, fun hnone => ?_⟩, ?_⟩
      · rw [hafter, Option.some.inj (hrefusal.symm.trans he')]
      · cases hrefusal.symm.trans hnone
      · simp [n, hafter, hsent]
  | none =>
      obtain ⟨r, hr⟩ := (Action.refusal?_eq_none_iff b).1 hrefusal
      have hanswers := answers_perform hr (⟨replies, sent⟩ : Script)
      have hafter : after.2 = _ := perform_snd b _ a
      have hsent : requests [(b, a)] = [r] := by simp [requests, hr]
      rw [send_script] at hanswers
      refine ⟨⟨fun e he => ?_, fun _ => hanswers⟩, ?_⟩
      · cases hrefusal.symm.trans he
      · rw [hafter, hr, Option.elim_some, send_script]
        simp [n, hsent]

theorem requests_cons (action : Builder × Action) (rest : List (Builder × Action)) :
    requests (action :: rest) = requests [action] ++ requests rest := by
  rw [← List.singleton_append, requests, List.filterMap_append]
  rfl

theorem play_script_snd (b : Builder) (replies : List Reply) (sent : List Request)
    (steps : List Step) :
    let requests := requests (performed b steps)
    ((⟨b, some ⟨replies, sent⟩⟩ : Session Script).play steps).2
      = ⟨b.run (built steps), some ⟨replies.drop requests.length, sent ++ requests⟩⟩ := by
  induction steps generalizing b replies sent with
  | nil => simp [play, built, performed, requests, Builder.run]
  | cons step rest ih =>
      cases step with
      | build c => exact ih (b.call c) replies sent
      | act a =>
          obtain ⟨-, hafter⟩ := perform_script b a replies sent
          simp only [play, hafter, performed, built, ih]
          rw [requests_cons (b, a) (performed b rest), List.length_append, List.drop_drop,
            List.append_assoc]

theorem play_script_fst (b : Builder) (replies : List Reply) (sent : List Request)
    (steps : List Step) :
    let results := ((⟨b, some ⟨replies, sent⟩⟩ : Session Script).play steps).1
    let actions := performed b steps
    results.length = actions.length ∧
      ∀ i action, actions[i]? = some action → ∃ result, results[i]? = some result ∧
        Settles (replies[(requests (actions.take i)).length]?.getD (.ok {})) action.2 result := by
  induction steps generalizing b replies sent with
  | nil => exact ⟨rfl, nofun⟩
  | cons step rest ih =>
      cases step with
      | build c => exact ih (b.call c) replies sent
      | act a =>
          obtain ⟨hsettles, hafter⟩ := perform_script b a replies sent
          obtain ⟨hlength, hrest⟩ := ih b (replies.drop (requests [(b, a)]).length)
            (sent ++ requests [(b, a)])
          simp only [play, hafter, performed]
          refine ⟨congrArg (· + 1) hlength, fun i action haction => ?_⟩
          cases i with
          | zero =>
              cases haction
              exact ⟨_, rfl, hsettles⟩
          | succ i =>
              -- The replies that the first action used up are those of its own request.
              obtain ⟨result, hresult, hsettled⟩ := hrest i action haction
              rw [List.getElem?_drop] at hsettled
              refine ⟨result, hresult, ?_⟩
              rw [List.take_succ_cons, requests_cons, List.length_append]
              exact hsettled

end Script

theorem play_script_settled {τ : Type} [Transport τ] (b : Builder) (replies : List Reply)
    (sent : List Request) (steps : List Step) :
    let connected := (⟨b, some ⟨replies, sent⟩⟩ : Session Script).play steps
    let unbound := (⟨b, none⟩ : Session τ).play steps
    let actions := performed b steps
    connected.2 = ⟨b.run (built steps),
      some ⟨replies.drop (requests actions).length, sent ++ requests actions⟩⟩ ∧
    connected.1.length = actions.length ∧
    (∀ i d a, actions[i]? = some (d, a) →
      let k := (requests (actions.take i)).length
      ∃ result, connected.1[i]? = some result ∧
        (∀ e, a.refusal? = some e → request? d a = none ∧ result = .error e) ∧
        (a.refusal? = none → ∃ r, request? d a = some r ∧ (requests actions)[k]? = some r ∧
          a.Answers (replies[k]?.getD (.ok {})) result)) ∧
    unbound.2 = ⟨b.run (built steps), none⟩ ∧
    unbound.1 = actions.map (fun action => .error (action.2.refusal?.getD
      (.transport "no transport bound to this query builder" "NOT_CONNECTED" none))) ∧
    ∀ (s : Session τ) (a : Action), (s.perform a).2.builder = s.builder := by
  intro connected unbound actions
  obtain ⟨hlength, hsettled⟩ := play_script_fst b replies sent steps
  have hunbound : unbound = _ := play_unbound b steps
  refine ⟨play_script_snd b replies sent steps, hlength, ?_, ?_, ?_, builder_perform⟩
  · intro i d a haction k
    obtain ⟨result, hresult, hrefused, hanswers⟩ := hsettled i (d, a) haction
    refine ⟨result, hresult, fun e he => ⟨?_, hrefused e he⟩, fun hnone => ?_⟩
    · exact Action.request?_of_refusal? d he
    · obtain ⟨r, hr⟩ := (Action.refusal?_eq_none_iff d).1 hnone
      exact ⟨r, hr, getElem?_requests haction hr, hanswers hnone⟩
  · rw [hunbound]
  · rw [hunbound]
    rfl

theorem play_script_settled_failing :
    let users := Builder.new "users"
    let down : QueryError := .transport "down" "GONE" (some 503)
    let replies : List Reply := [.error down, .ok { error := some "locked" }]
    let steps := [Step.act (.create []), .build (.limit 1), .act .execute, .act (.delete "7")]
    let played := (⟨users, some ⟨replies, []⟩⟩ : Session Script).play steps
    let limited := users.call (.limit 1)
    played.1[0]? = some (.error (.validation "create requires a non-empty payload")) ∧
      played.1[1]? = some (.error down) ∧
      played.1[2]? = some (.error (.transport "locked" "REMOTE_ERROR" none)) ∧
      played.2 = ⟨limited, some ⟨[], [readRequest limited, deleteRequest limited "7"]⟩⟩ := by
  intro users down replies steps played limited
  obtain ⟨hfinal, -, hresults, -⟩ := play_script_settled (τ := Script) users replies [] steps
  refine ⟨?_, ?_, ?_, hfinal⟩
  · obtain ⟨result, hresult, hrefused, -⟩ := hresults 0 users (.create []) rfl
    obtain ⟨-, rfl⟩ := hrefused _ rfl
    exact hresult
  · obtain ⟨result, hresult, -, hanswers⟩ := hresults 1 limited .execute rfl
    obtain ⟨r, -, -, ⟨⟩⟩ := hanswers rfl
    exact hresult
  · obtain ⟨result, hresult, -, hanswers⟩ := hresults 2 limited (.delete "7") rfl
    obtain ⟨r, -, -, hanswers⟩ := hanswers rfl
    cases hanswers with
    | remote _ hdetail =>
        cases hdetail
        exact hresult
    | returned _ hnone => cases hnone

end Session

end RemoteQuery
