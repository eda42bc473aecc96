import Mathlib.Order.Bounds.Basic
import Mathlib.Tactic.IntervalCases
import RemoteQuery.Http.Connection

namespace RemoteQuery.Http

theorem isRepeatable_iff {method : Method} : isRepeatable method = true ↔ method ≠ .post := by
  cases method <;> decide

theorem isSuccess_iff {status : UInt16} :
    isSuccess status = true ↔ 200 ≤ status ∧ status < 300 := by
  rw [isSuccess, Bool.and_eq_true, decide_eq_true_eq, decide_eq_true_eq]

theorem not_fault_of_isSuccess {status : UInt16} (h : isSuccess status = true) : ¬500 ≤ status :=
  UInt16.not_le.2 (UInt16.lt_trans (isSuccess_iff.1 h).2 (by decide))

theorem isRetryable_transport {method : Method} {detail code : String} {status : Option UInt16} :
    isRetryable method (.transport detail code status) = true ↔
      code = connectCode ∨
        method ≠ .post ∧ (code = timeoutCode ∨ ∃ s, status = some s ∧ 500 ≤ s) := by
  simp [isRetryable, QueryError.code?, QueryError.status?, isRepeatable_iff, isServerFault,
    Option.any_eq_true]

theorem exists_format_of_readBody {body : String} {e : QueryError}
    (h : readBody body = .error e) : ∃ f, e = .format f := by
  rw [readBody] at h
  split at h
  · cases h
  · split at h
    · cases h
      exact ⟨_, rfl⟩
    · rename_i j _
      cases hj : Response.ofStructure j with
      | ok r => rw [hj] at h; cases h
      | error f => rw [hj] at h; cases h; exact ⟨f, rfl⟩

theorem isRetryable_of_readBody {method : Method} {body : String} {e : QueryError}
    (h : readBody body = .error e) : isRetryable method e = false := by
  obtain ⟨f, rfl⟩ := exists_format_of_readBody h
  simp [isRetryable, QueryError.code?, QueryError.status?]

namespace Outcome

def Succeeds : Outcome → Prop
  | .replied status _ => 200 ≤ status ∧ status < 300
  | _ => False

def Retryable (method : Method) : Outcome → Prop
  | .refused _ => True
  | .timedOut _ => method ≠ .post
  | .broken _ => False
  | .replied status _ => method ≠ .post ∧ 500 ≤ status

variable {method : Method} {o : Outcome} {maxRetries attempt : UInt32}

theorem isRetryable_reply {e : QueryError} (h : o.reply = .error e) :
    isRetryable method e = true ↔ o.Retryable method := by
  cases o with
  | refused detail =>
      cases h
      simp only [isRetryable_transport, Retryable, true_or]
  | timedOut detail =>
      cases h
      have hcode : timeoutCode ≠ connectCode := by decide
      simp only [isRetryable_transport, Retryable, hcode, false_or, true_or, and_true]
  | broken detail =>
      cases h
      have hconnect : brokenCode ≠ connectCode := by decide
      have htimeout : brokenCode ≠ timeoutCode := by decide
      simp [isRetryable_transport, Retryable, hconnect, htimeout]
  | replied status body =>
      rw [reply] at h
      split at h
      · rename_i hsuccess
        simp [isRetryable_of_readBody h, Retryable, not_fault_of_isSuccess hsuccess]
      · cases h
        have hconnect : statusCode ≠ connectCode := by decide
        have htimeout : statusCode ≠ timeoutCode := by decide
        simp [statusFailure, isRetryable_transport, Retryable, hconnect, htimeout]

theorem not_retryable_of_succeeds (h : o.Succeeds) : ¬o.Retryable method := by
  cases o with
  | replied status body => exact fun hretry => not_fault_of_isSuccess (isSuccess_iff.2 h) hretry.2
  | _ => exact h.elim

theorem succeeds_of_ok {r : Response} (h : o.reply = .ok r) : o.Succeeds := by
  cases o with
  | replied status body =>
      rw [reply] at h
      split at h
      · exact isSuccess_iff.1 ‹_›
      · cases h
  | _ => cases h

theorem isRetried_iff : isRetried method maxRetries attempt o.reply = true ↔
    attempt < maxRetries ∧ o.Retryable method := by
  cases h : o.reply with
  | ok r => simp [isRetried, not_retryable_of_succeeds (succeeds_of_ok h)]
  | error e => simp [isRetried, isRetryable_reply h]

theorem exists_refused_of_retryable (h : o.Retryable .post) : ∃ detail, o = .refused detail := by
  cases o with
  | refused detail => exact ⟨detail, rfl⟩
  | timedOut detail => exact absurd rfl h
  | broken detail => exact h.elim
  | replied status body => exact absurd rfl h.1

end Outcome

def IsFinal (method : Method) (maxRetries : UInt32) (outcomes : Nat → Outcome) (k : Nat) : Prop :=
  (outcomes k).Succeeds ∨ ¬(outcomes k).Retryable method ∨ k = maxRetries.toNat

namespace Standing

/-- The word has not overflown: it counts the attempts exactly, and grants the one at hand. -/
structure Counted (maxRetries : UInt32) (s : Standing) : Prop where
  exact : s.attempt.toNat = s.made
  granted : s.attempt ≤ maxRetries

variable {method : Method} {maxRetries : UInt32} {outcomes : Nat → Outcome} {s : Standing}

theorem attempt_iterate_next {k : Nat} (h : k < UInt32.size) :
    (Standing.next^[k] ⟨0, 0⟩).attempt.toNat = k := by
  induction k with
  | zero => rfl
  | succ k ih =>
      have hk := ih (Nat.lt_of_succ_lt h)
      rw [Function.iterate_succ_apply', Standing.next, UInt32.toNat_add, hk, UInt32.toNat_one]
      exact Nat.mod_eq_of_lt h

@[simp]
theorem made_iterate_next (k : Nat) : (Standing.next^[k] s).made = s.made + k := by
  induction k with
  | zero => rfl
  | succ k ih => rw [Function.iterate_succ_apply', Standing.next, ih, Nat.add_assoc]

theorem counted_start : Counted maxRetries ⟨0, 0⟩ where
  exact := rfl
  granted := UInt32.zero_le

theorem Counted.next (h : s.Counted maxRetries)
    (hretried : isRetried method maxRetries s.attempt (outcomes s.made).reply = true) :
    s.next.Counted maxRetries := by
  have hlt := lt_of_isRetried hretried
  have hsucc := toNat_succ_of_lt hlt
  refine ⟨?_, ?_⟩
  · rw [Standing.next, hsucc, h.exact]
  · rw [Standing.next, UInt32.le_iff_toNat_le, hsucc]
    exact UInt32.lt_iff_toNat_lt.1 hlt

theorem Counted.isFinal (h : s.Counted maxRetries)
    (hlast : ¬isRetried method maxRetries s.attempt (outcomes s.made).reply = true) :
    IsFinal method maxRetries outcomes s.made := by
  rw [Outcome.isRetried_iff, not_and_or] at hlast
  rcases hlast with hlast | hlast
  · have hmax : s.attempt = maxRetries := UInt32.le_antisymm h.granted (UInt32.not_lt.1 hlast)
    exact .inr (.inr (by rw [← h.exact, hmax]))
  · exact .inr (.inl hlast)

theorem Counted.not_isFinal (h : s.Counted maxRetries)
    (hretried : isRetried method maxRetries s.attempt (outcomes s.made).reply = true) :
    ¬IsFinal method maxRetries outcomes s.made := by
  obtain ⟨hlt, hretry⟩ := Outcome.isRetried_iff.1 hretried
  have hcount := UInt32.lt_iff_toNat_lt.1 hlt
  rw [h.exact] at hcount
  rintro (hsucceeds | hfails | hmax)
  · exact Outcome.not_retryable_of_succeeds hsucceeds hretry
  · exact hfails hretry
  · omega

end Standing

section

variable {method : Method} {maxRetries : UInt32} {outcomes : Nat → Outcome} {s : Standing}

theorem settle_eq_iterate (method : Method) (maxRetries : UInt32) (outcomes : Nat → Outcome) :
    let settled := settle method maxRetries (fun k => (outcomes k).reply) ⟨0, 0⟩
    settled = Standing.next^[settled.made] ⟨0, 0⟩ := by
  -- From any standing the loop takes some number of steps; the attempts made tell which.
  have hiterate : ∀ s, ∃ n, settle method maxRetries (fun k => (outcomes k).reply) s
      = Standing.next^[n] s := by
    intro s
    fun_induction settle with
    | case1 s _ ih =>
        obtain ⟨n, hn⟩ := ih
        exact ⟨n + 1, hn⟩
    | case2 s _ => exact ⟨0, rfl⟩
  obtain ⟨n, hn⟩ := hiterate ⟨0, 0⟩
  simp only [hn, Standing.made_iterate_next, Nat.zero_add]

theorem isFinal_settle (h : s.Counted maxRetries) : IsFinal method maxRetries outcomes
    (settle method maxRetries (fun k => (outcomes k).reply) s).made := by
  fun_induction settle with
  | case1 s hretried ih => exact ih (h.next hretried)
  | case2 s hlast => exact h.isFinal hlast

theorem made_settle_le {k : Nat} (h : s.Counted maxRetries) (hk : s.made ≤ k)
    (hfinal : IsFinal method maxRetries outcomes k) :
    (settle method maxRetries (fun k => (outcomes k).reply) s).made ≤ k := by
  fun_induction settle with
  | case1 s hretried ih =>
      -- An attempt that is retried is not final, so a final one is still ahead.
      have hne : s.made ≠ k := by
        rintro rfl
        exact h.not_isFinal hretried hfinal
      exact ih (h.next hretried) (Nat.lt_of_le_of_ne hk hne)
  | case2 s _ => exact hk

theorem isLeast_settle (method : Method) (maxRetries : UInt32) (outcomes : Nat → Outcome) :
    IsLeast {k | IsFinal method maxRetries outcomes k}
      (settle method maxRetries (fun k => (outcomes k).reply) ⟨0, 0⟩).made :=
  ⟨isFinal_settle Standing.counted_start, fun _ hk =>
    made_settle_le Standing.counted_start (Nat.zero_le _) hk⟩

theorem le_maxRetries_of_isLeast {k : Nat}
    (h : IsLeast {k | IsFinal method maxRetries outcomes k} k) : k ≤ maxRetries.toNat :=
  h.2 (.inr (.inr rfl))

theorem passed_of_isLeast {k i : Nat}
    (h : IsLeast {k | IsFinal method maxRetries outcomes k} k) (hi : i < k) :
    ¬(outcomes i).Succeeds ∧ (outcomes i).Retryable method := by
  have hlater : ¬IsFinal method maxRetries outcomes i := fun hfinal => Nat.not_le.2 hi (h.2 hfinal)
  rw [IsFinal, not_or, not_or, not_not] at hlater
  exact ⟨hlater.1, hlater.2.1⟩

theorem not_succeeds_of_isLeast {k i : Nat}
    (h : IsLeast {k | IsFinal method maxRetries outcomes k} k) (hi : i < k) :
    ¬(outcomes i).Succeeds :=
  (passed_of_isLeast h hi).1

theorem exists_refused_of_isLeast {k i : Nat}
    (h : IsLeast {k | IsFinal .post maxRetries outcomes k} k) (hi : i < k) :
    ∃ detail, outcomes i = .refused detail :=
  Outcome.exists_refused_of_retryable (passed_of_isLeast h hi).2

end

namespace Connection

/-- What comes of attempt number `k` to send the request; without an address each one breaks. -/
def outcomeOf (c : Connection) (request : Request) (k : Nat) : Outcome :=
  if (Url.target? (endpoint c.config.baseUrl request)).isSome then c.outcomes (c.attempts + k)
  else .broken (c.addressFault (endpoint c.config.baseUrl request))

theorem length_deliveries_le {c : Connection} {message : Message} {last : Nat}
    (h : ∀ k < last, ∃ detail, c.outcomes (c.attempts + k) = .refused detail) :
    (c.deliveries (last + 1) message).length ≤ 1 := by
  have hearlier : c.deliveries last message = [] := by
    rw [deliveries, List.filterMap_eq_nil_iff]
    intro k hk
    obtain ⟨detail, hrefused⟩ := h k (List.mem_range.1 hk)
    simp [hrefused, reaches]
  rw [deliveries, List.range_succ, List.filterMap_append, ← deliveries, hearlier, List.nil_append]
  exact List.length_filterMap_le _ _

theorem outcomeOf_of_target {c : Connection} {request : Request} {target : String}
    (h : Url.target? (endpoint c.config.baseUrl request) = some target) :
    c.outcomeOf request = fun k => c.outcomes (c.attempts + k) := by
  funext k
  rw [outcomeOf, h, Option.isSome_some, if_pos rfl]

theorem outcomeOf_of_none {c : Connection} {request : Request}
    (h : Url.target? (endpoint c.config.baseUrl request) = none) (k : Nat) :
    c.outcomeOf request k
      = .broken (c.addressFault (endpoint c.config.baseUrl request)) := by
  rw [outcomeOf, h, Option.isSome_none, if_neg Bool.false_ne_true]

def settled (c : Connection) (request : Request) : Standing :=
  settle request.method c.config.maxRetries (fun k => (c.outcomeOf request k).reply) ⟨0, 0⟩

theorem send_eq (c : Connection) (request : Request) :
    (send request c).1 = (c.outcomeOf request (c.settled request).made).reply ∧
      (send request c).2.attempts = c.attempts +
        (if (Url.target? (endpoint c.config.baseUrl request)).isSome
          then (c.settled request).made + 1 else 0) ∧
      ((∀ i < (c.settled request).made, ∃ detail, c.outcomeOf request i = .refused detail) →
        (send request c).2.received.length ≤ c.received.length + 1) := by
  cases h : Url.target? (endpoint c.config.baseUrl request) with
  | some target =>
      rw [settled, outcomeOf_of_target h, send, h]
      refine ⟨rfl, rfl, fun hrefused => ?_⟩
      simp only [exchange, List.length_append]
      exact Nat.add_le_add_left (length_deliveries_le hrefused) _
  | none =>
      rw [outcomeOf_of_none h, send, h]
      exact ⟨rfl, rfl, fun _ => Nat.le_succ _⟩

theorem send_stops_at_first_final (c : Connection) (request : Request) :
    ∃ k, IsLeast {k | IsFinal request.method c.config.maxRetries (c.outcomeOf request) k} k ∧
      (send request c).1 = (c.outcomeOf request k).reply ∧
      (send request c).2.attempts = c.attempts +
        (if (Url.target? (endpoint c.config.baseUrl request)).isSome then k + 1 else 0) ∧
      k ≤ c.config.maxRetries.toNat ∧
      c.settled request = Standing.next^[k] ⟨0, 0⟩ ∧
      (∀ i ≤ k, (Standing.next^[i] ⟨0, 0⟩).attempt.toNat = i) ∧
      (∀ i < k, ¬(c.outcomeOf request i).Succeeds) ∧
      (request.method = .post → (∀ i < k, ∃ detail, c.outcomeOf request i = .refused detail) ∧
        (send request c).2.received.length ≤ c.received.length + 1) := by
  obtain ⟨hreply, hattempts, hreceived⟩ := send_eq c request
  have hleast : IsLeast {k | IsFinal request.method c.config.maxRetries (c.outcomeOf request) k}
      (c.settled request).made := isLeast_settle _ _ _
  have hmax := le_maxRetries_of_isLeast hleast
  refine ⟨_, hleast, hreply, hattempts, hmax, settle_eq_iterate _ _ _, ?_, ?_, fun hpost => ?_⟩
  · intro i hi
    have hlt := c.config.maxRetries.toNat_lt_size
    exact Standing.attempt_iterate_next (Nat.lt_of_le_of_lt (Nat.le_trans hi hmax) hlt)
  · exact fun i hi => not_succeeds_of_isLeast hleast hi
  · rw [hpost] at hleast
    have hrefused : ∀ i < (c.settled request).made,
        ∃ detail, c.outcomeOf request i = .refused detail :=
      fun i hi => exists_refused_of_isLeast hleast hi
    exact ⟨hrefused, hreceived hrefused⟩

def failing : Connection where
  config := { maxRetries := 5 }
  headers := []
  outcomes := fun index =>
    [.refused "no route", .refused "connection refused"].getD index (.timedOut "no reply")

theorem send_stops_at_first_final_failing :
    let create := Request.create "jobs" (.object [])
    create.method = .post ∧
      (send create failing).1 = .error (.transport "no reply" "TIMEOUT" none) ∧
      (send create failing).2.attempts = 3 ∧ (send create failing).2.received.length ≤ 1 := by
  intro create
  have htarget : (Url.target? (endpoint failing.config.baseUrl create)).isSome = true := by
    decide +kernel
  have houtcome : failing.outcomeOf create = failing.outcomes := by
    funext k
    rw [outcomeOf, if_pos htarget]
    exact congrArg failing.outcomes (Nat.zero_add k)
  obtain ⟨k, hleast, hreply, hattempts, -, -, -, -, hpost⟩ :=
    send_stops_at_first_final failing create
  rw [houtcome] at hleast hreply
  have hlast : k = 2 := by
    have hfinal : IsFinal .post 5 failing.outcomes 2 := .inr (.inl fun h => h rfl)
    have hrefused : ∀ i < 2, ¬IsFinal .post 5 failing.outcomes i := by
      rintro i hi (hsucceeds | hfails | hmax)
      · interval_cases i <;> exact hsucceeds
      · interval_cases i <;> exact hfails trivial
      · interval_cases i <;> cases hmax
    exact Nat.le_antisymm (hleast.2 hfinal) (Nat.not_lt.1 fun hk => hrefused k hk hleast.1)
  subst hlast
  rw [if_pos htarget] at hattempts
  exact ⟨rfl, hreply, hattempts, (hpost rfl).2⟩

end Connection

end RemoteQuery.Http
