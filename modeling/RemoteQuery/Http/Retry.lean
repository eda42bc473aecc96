import RemoteQuery.Http.Outcome

namespace RemoteQuery.Http

def isRepeatable : Method → Bool
  | .post => false
  | _ => true

def isRetryable (method : Method) (e : QueryError) : Bool :=
  e.code? == some connectCode
    || (isRepeatable method
      && (e.code? == some timeoutCode || e.status?.any isServerFault))

def isRetried (method : Method) (maxRetries attempt : UInt32) : Reply → Bool
  | .ok _ => false
  | .error e => attempt < maxRetries && isRetryable method e

theorem lt_of_isRetried {method : Method} {maxRetries attempt : UInt32} {reply : Reply}
    (h : isRetried method maxRetries attempt reply = true) : attempt < maxRetries := by
  cases reply with
  | ok _ => cases h
  | error e =>
      simp only [isRetried, Bool.and_eq_true, decide_eq_true_eq] at h
      exact h.1

theorem toNat_succ_of_lt {attempt maxRetries : UInt32} (h : attempt < maxRetries) :
    (attempt + 1).toNat = attempt.toNat + 1 := by
  have hlt := UInt32.lt_iff_toNat_lt.1 h
  have hmax := maxRetries.toNat_lt
  rw [UInt32.toNat_add, UInt32.toNat_one]
  exact Nat.mod_eq_of_lt (by omega)

/-- Where an exchange stands: its attempt by the count in a word, and how many attempts it made before. -/
structure Standing where
  attempt : UInt32
  made : Nat

def Standing.next (s : Standing) : Standing := ⟨s.attempt + 1, s.made + 1⟩

def settle (method : Method) (maxRetries : UInt32) (replies : Nat → Reply) (s : Standing) :
    Standing :=
  if isRetried method maxRetries s.attempt (replies s.made) then
    settle method maxRetries replies s.next
  else s
termination_by maxRetries.toNat - s.attempt.toNat
decreasing_by
  have hlt := lt_of_isRetried ‹_›
  have hsucc := toNat_succ_of_lt hlt
  have := UInt32.lt_iff_toNat_lt.1 hlt
  simp only [Standing.next]
  omega

end RemoteQuery.Http
