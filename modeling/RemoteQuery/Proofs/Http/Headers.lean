import Mathlib.Data.List.Basic
import RemoteQuery.Client.Config
import RemoteQuery.Http.Headers
import RemoteQuery.Proofs.Fields

namespace RemoteQuery.Http.Headers

def Sendable (entry : String × String) : Prop := isName entry.1 = true ∧ isValue entry.2 = true

instance (entry : String × String) : Decidable (Sendable entry) :=
  inferInstanceAs (Decidable (isName entry.1 = true ∧ isValue entry.2 = true))

def lowered (entry : String × String) : String × String := (entry.1.toLower, entry.2)

def last? (entries : List (String × String)) (name : String) : Option String :=
  (entries.map lowered).reverse.lookup name

def SafeKey (apiKey : Option String) : Prop := ∀ key, apiKey = some key → isValue (bearer key) = true

/-- The names for which the configured headers do not count. -/
def Replaced (apiKey : Option String) (name : String) : Prop :=
  apiKey.isSome = true ∧ name = authorization

def Unambiguous (apiKey : Option String) (entries : List (String × String)) : Prop :=
  ∀ a ∈ entries, ∀ b ∈ entries, a.1.toLower = b.1.toLower →
    a.2 = b.2 ∨ Replaced apiKey a.1.toLower

def Agree (entries : List (String × String)) (name : String) : Prop :=
  ∀ a ∈ entries, ∀ b ∈ entries, a.1.toLower = name → b.1.toLower = name → a.2 = b.2

def authorized (headers : Headers) : Option String → Headers
  | none => headers
  | some key => Fields.insert headers authorization (bearer key)

variable {entries first second : List (String × String)} {apiKey : Option String}
  {sent : Headers} {name : String}

theorem addAll_eq_ok {headers : Headers} : headers.addAll entries = .ok sent ↔
    (∀ entry ∈ entries, Sendable entry) ∧
      sent = (entries.map lowered).foldl (fun h entry => Fields.insert h entry.1 entry.2) headers := by
  induction entries generalizing headers with
  | nil => simp [addAll, eq_comm]
  | cons entry rest ih =>
      obtain ⟨name, value⟩ := entry
      rw [addAll, add, List.forall_mem_cons]
      by_cases h : Sendable (name, value)
      · have hvalid : (isName name && isValue value) = true := Bool.and_eq_true_iff.2 h
        rw [if_pos hvalid]
        exact ih.trans (and_congr_left fun _ => (and_iff_right h).symm)
      · have hinvalid : ¬(isName name && isValue value) = true := fun hvalid =>
          h (Bool.and_eq_true_iff.1 hvalid)
        rw [if_neg hinvalid]
        refine iff_of_false ?_ fun hall => h hall.1.1
        rintro ⟨⟩

theorem toLower_eq {name other : String} (h : name.toList.map Char.toLower = other.toList) :
    name.toLower = other := String.toList_inj.1 (String.toList_map.trans h)

theorem toLower_authorization : authorization.toLower = authorization := toLower_eq (by decide)

theorem safeKey_none : SafeKey none := by
  rintro key ⟨⟩

theorem safeKey_some {key : String} : SafeKey (some key) ↔ isValue (bearer key) = true := by
  constructor
  · exact fun h => h key rfl
  · rintro h _ ⟨⟩
    exact h

theorem authorize_eq_ok {headers : Headers} :
    headers.authorize apiKey = .ok sent ↔ SafeKey apiKey ∧ sent = headers.authorized apiKey := by
  cases apiKey with
  | none =>
      rw [authorize, authorized, and_iff_right safeKey_none, Except.ok.injEq]
      exact eq_comm
  | some key =>
      rw [authorize, safeKey_some]
      split
      · rename_i hvalue
        rw [and_iff_right hvalue, set, toLower_authorization, authorized, Except.ok.injEq]
        exact eq_comm
      · rename_i hvalue
        refine iff_of_false ?_ fun hall => hvalue hall.1
        rintro ⟨⟩

theorem build_eq_ok : build entries apiKey = .ok sent ↔
    ((∀ entry ∈ entries, Sendable entry) ∧ SafeKey apiKey) ∧
      sent = authorized (Fields.ofPairs (entries.map lowered)) apiKey := by
  rw [build]
  cases h : addAll [] entries with
  | error e =>
      refine iff_of_false ?_ fun hall => ?_
      · rintro ⟨⟩
      · rw [addAll_eq_ok.2 ⟨hall.1.1, rfl⟩] at h
        cases h
  | ok headers =>
      obtain ⟨hentries, rfl⟩ := addAll_eq_ok.1 h
      rw [and_iff_right hentries]
      exact authorize_eq_ok

theorem sorted_build (h : build entries apiKey = .ok sent) : Fields.Sorted sent := by
  obtain ⟨-, rfl⟩ := build_eq_ok.1 h
  cases apiKey with
  | none => exact Fields.sorted_ofPairs _
  | some key => exact Fields.sorted_insert (Fields.sorted_ofPairs _) _ _

theorem get?_build_authorization {key : String} (h : build entries (some key) = .ok sent) :
    sent.get? authorization = some (bearer key) := by
  obtain ⟨-, rfl⟩ := build_eq_ok.1 h
  rw [authorized, Fields.get?_insert, if_pos rfl]

theorem get?_build (h : build entries apiKey = .ok sent) (hname : ¬Replaced apiKey name) :
    sent.get? name = last? entries name := by
  obtain ⟨-, rfl⟩ := build_eq_ok.1 h
  cases apiKey with
  | none => exact Fields.get?_ofPairs _ name
  | some key =>
      have hne : name ≠ authorization := fun heq => hname ⟨rfl, heq⟩
      rw [authorized, Fields.get?_insert, if_neg hne]
      exact Fields.get?_ofPairs _ name

theorem exists_build_iff : (∃ sent, build entries apiKey = .ok sent) ↔
    (∀ entry ∈ entries, Sendable entry) ∧ SafeKey apiKey :=
  ⟨fun ⟨_, h⟩ => (build_eq_ok.1 h).1, fun h => ⟨_, build_eq_ok.2 ⟨h, rfl⟩⟩⟩

theorem exists_build_of_perm (h : first.Perm second) :
    (∃ sent, build first apiKey = .ok sent) ↔ ∃ sent, build second apiKey = .ok sent := by
  simp only [exists_build_iff, h.mem_iff]

theorem last?_append_singleton (rest : List (String × String)) (a : String × String) :
    last? (rest ++ [a]) a.1.toLower = some a.2 := by
  rw [last?, List.map_append, List.map_singleton, List.reverse_concat]
  exact List.lookup_cons_self

theorem last?_eq_some (h : Agree entries name) {value : String} :
    last? entries name = some value ↔ ∃ a ∈ entries, a.1.toLower = name ∧ a.2 = value := by
  induction entries using List.reverseRecOn with
  | nil => simp [last?]
  | append_singleton rest a ih =>
      have hrest := ih fun a ha b hb =>
        h a (List.mem_append_left _ ha) b (List.mem_append_left _ hb)
      by_cases hname : a.1.toLower = name
      · subst hname
        rw [last?_append_singleton]
        constructor
        · rintro ⟨⟩
          exact ⟨a, List.mem_append_right _ List.mem_cons_self, rfl, rfl⟩
        · rintro ⟨b, hb, hname, rfl⟩
          exact congrArg some (h a (List.mem_append_right _ List.mem_cons_self) b hb rfl hname)
      · have hskip : last? (rest ++ [a]) name = last? rest name := by
          rw [last?, List.map_append, List.map_singleton, List.reverse_concat]
          exact (Fields.get?_cons _ _ _ _).trans (if_neg (Ne.symm hname))
        rw [hskip, hrest]
        simp [or_and_right, exists_or, hname]

theorem Agree.of_perm (h : Agree first name) (hperm : first.Perm second) : Agree second name :=
  fun a ha b hb => h a (hperm.mem_iff.2 ha) b (hperm.mem_iff.2 hb)

theorem Unambiguous.agree (h : Unambiguous apiKey entries) (hname : ¬Replaced apiKey name) :
    Agree entries name := by
  rintro a ha b hb rfl hb'
  exact (h a ha b hb hb'.symm).resolve_right hname

theorem last?_eq_of_perm (hperm : first.Perm second) (h : Agree first name) :
    last? first name = last? second name := by
  ext value
  rw [last?_eq_some h, last?_eq_some (h.of_perm hperm)]
  simp only [hperm.mem_iff]

theorem build_eq_of_perm (hperm : first.Perm second) (h : Unambiguous apiKey first)
    (hfirst : build first apiKey = .ok sent) : build second apiKey = .ok sent := by
  obtain ⟨other, hsecond⟩ := (exists_build_of_perm hperm).1 ⟨sent, hfirst⟩
  have hsame : sent = other := by
    apply Fields.ext_of_sorted (sorted_build hfirst) (sorted_build hsecond)
    intro name
    by_cases hname : Replaced apiKey name
    · obtain ⟨key, rfl⟩ := Option.isSome_iff_exists.1 hname.1
      rw [hname.2, get?_build_authorization hfirst, get?_build_authorization hsecond]
    · rw [get?_build hfirst hname, get?_build hsecond hname]
      exact last?_eq_of_perm hperm (h.agree hname)
  rw [hsecond, hsame]

theorem exists_perm_last {a : String × String} (ha : a ∈ entries) :
    ∃ rest, (rest ++ [a]).Perm entries := by
  obtain ⟨before, after, rfl⟩ := List.append_of_mem ha
  exact ⟨before ++ after, (List.perm_append_singleton a _).trans List.perm_middle.symm⟩

theorem unambiguous_of_forall_perm (h : ∀ order : List (String × String),
    order.Perm entries → build order apiKey = .ok sent) : Unambiguous apiKey entries := by
  intro a ha b hb hname
  refine Classical.or_iff_not_imp_right.2 fun hreplaced => ?_
  have hlast : ∀ c ∈ entries, c.1.toLower = a.1.toLower → sent.get? a.1.toLower = some c.2 := by
    intro c hc hcname
    -- An order in which this header is the last of its name.
    obtain ⟨rest, hperm⟩ := exists_perm_last hc
    rw [get?_build (h _ hperm) hreplaced, ← hcname, last?_append_singleton]
  exact Option.some.inj ((hlast a ha rfl).symm.trans (hlast b hb hname.symm))

theorem build_order_irrelevant_iff (c : ClientConfig) :
    (∀ first second : List (String × String), first.Perm c.headers → second.Perm c.headers →
      ((∃ sent, build first c.apiKey = .ok sent) ↔ ∃ sent, build second c.apiKey = .ok sent)) ∧
    (∀ order : List (String × String), order.Perm c.headers → ∀ sent : Headers,
      build order c.apiKey = .ok sent →
        (∀ key, c.apiKey = some key → sent.get? authorization = some (bearer key)) ∧
        ∀ name, ¬Replaced c.apiKey name → sent.get? name = last? order name) ∧
    ∀ sent : Headers, build c.headers c.apiKey = .ok sent →
      ((∀ first second : List (String × String), first.Perm c.headers → second.Perm c.headers →
        build first c.apiKey = build second c.apiKey) ↔ Unambiguous c.apiKey c.headers) := by
  refine ⟨fun first second hfirst hsecond => ?_, fun order _ sent hsent => ⟨?_, ?_⟩,
    fun sent hsent => ⟨fun h => ?_, fun h first second hfirst hsecond => ?_⟩⟩
  · exact exists_build_of_perm (hfirst.trans hsecond.symm)
  · intro key hkey
    rw [hkey] at hsent
    exact get?_build_authorization hsent
  · exact fun name hname => get?_build hsent hname
  · exact unambiguous_of_forall_perm fun order horder =>
      (h order c.headers horder (.refl _)).trans hsent
  · rw [build_eq_of_perm hfirst.symm h hsent, build_eq_of_perm hsecond.symm h hsent]

theorem build_order_irrelevant_iff_replaced :
    let c : ClientConfig := {
      apiKey := some "k"
      headers := [("Authorization", "Basic a"), ("authorization", "Basic b")] }
    let other := [("authorization", "Basic b"), ("Authorization", "Basic a")]
    Unambiguous c.apiKey c.headers ∧ build c.headers c.apiKey = build other c.apiKey ∧
      ∃ sent : Headers, build other c.apiKey = .ok sent ∧
        sent.get? authorization = some "Bearer k" := by
  intro c other
  have hother : other.Perm c.headers := List.Perm.swap _ _ _
  have hlower : ∀ entry ∈ c.headers, entry.1.toLower = authorization := by
    rw [List.forall_mem_cons, List.forall_mem_singleton]
    exact ⟨toLower_eq (by decide), toLower_authorization⟩
  have hclear : Unambiguous c.apiKey c.headers := fun a ha _ _ _ => .inr ⟨rfl, hlower a ha⟩
  obtain ⟨sent, hsent⟩ : ∃ sent, build c.headers c.apiKey = .ok sent :=
    exists_build_iff.2 ⟨by decide, safeKey_some.2 (by decide)⟩
  obtain ⟨-, hvalues, hsame⟩ := build_order_irrelevant_iff c
  have heq := (hsame _ hsent).2 hclear c.headers other (.refl _) hother
  have hbuild := heq.symm.trans hsent
  exact ⟨hclear, heq, _, hbuild, (hvalues other hother _ hbuild).1 "k" rfl⟩

def twoTenants : ClientConfig :=
  (ClientConfig.withHeader {} "X-Tenant" "acme").withHeader "x-tenant" "other"

theorem tenant_by_order :
    twoTenants.validate = .ok () ∧ twoTenants.headers.reverse.Perm twoTenants.headers ∧
      build twoTenants.headers twoTenants.apiKey = .ok [("x-tenant", "other")] ∧
      build twoTenants.headers.reverse twoTenants.apiKey = .ok [("x-tenant", "acme")] := by
  have hheaders : twoTenants.headers = [("X-Tenant", "acme"), ("x-tenant", "other")] := by decide
  have hupper : lowered ("X-Tenant", "acme") = ("x-tenant", "acme") :=
    Prod.ext (toLower_eq (by decide)) rfl
  have hlower : lowered ("x-tenant", "other") = ("x-tenant", "other") :=
    Prod.ext (toLower_eq (by decide)) rfl
  rw [hheaders]
  refine ⟨rfl, List.reverse_perm _, ?_, ?_⟩
  · refine build_eq_ok.2 ⟨⟨by decide, safeKey_none⟩, ?_⟩
    rw [List.map_cons, List.map_cons, hupper, hlower]
    rfl
  · refine build_eq_ok.2 ⟨⟨by decide, safeKey_none⟩, ?_⟩
    rw [List.reverse_cons, List.reverse_singleton, List.singleton_append, List.map_cons,
      List.map_cons, hupper, hlower]
    rfl

end RemoteQuery.Http.Headers
