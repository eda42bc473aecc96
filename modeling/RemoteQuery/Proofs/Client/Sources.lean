import RemoteQuery.Client.Environment
import RemoteQuery.Proofs.Number.Digits
/-!
Where the values of a configuration come from. A variable that is set decides the value of its
setting, but for an empty key, which counts as no key at all. The reported source goes by whether
the variable is set, so for an empty key, and for nothing else, it is not where the value comes from.
-/

namespace RemoteQuery

namespace Text

theorem isBlank_of_isDigit {c : Char} (h : c.isDigit = true) : isBlank c = false := by
  simp only [Char.isDigit, Bool.and_eq_true, decide_eq_true_eq, UInt32.le_iff_toNat_le,
    Char.toNat_val] at h
  simp only [isBlank, Bool.or_eq_false_iff, Bool.and_eq_false_iff, decide_eq_false_iff_not,
    beq_eq_false_iff_ne]
  simp at h
  omega

theorem dropWhile_isBlank {cs : List Char} (h : ∀ c ∈ cs, isBlank c = false) :
    cs.dropWhile isBlank = cs := by
  cases cs with
  | nil => rfl
  | cons c cs => rw [List.dropWhile_cons_of_neg (by simp [h c List.mem_cons_self])]

theorem trim_of_forall {cs : List Char} (h : ∀ c ∈ cs, isBlank c = false) : trim cs = cs := by
  have hreverse := dropWhile_isBlank fun c hc => h c (List.mem_reverse.1 hc)
  rw [trim, dropWhile_isBlank h, trimRight, hreverse, List.reverse_reverse]

end Text

def Numeral (text : String) (n : Nat) : Prop :=
  ∃ ds, (Text.trim text.toList = ds ∨ Text.trim text.toList = '+' :: ds) ∧
    ds ≠ [] ∧ (∀ d ∈ ds, d.isDigit = true) ∧ Decimal.ofDigits ds = n

theorem bind_eq_ok {ε α β : Type} {x : Except ε α} {f : α → Except ε β} {b : β} :
    (x >>= f) = .ok b ↔ ∃ a, x = .ok a ∧ f a = .ok b := by
  cases x <;> simp [bind, Except.bind]

theorem numeral_natText (n : Nat) : Numeral (Decimal.natText n) n := by
  have htrim : Text.trim (Decimal.digits n) = Decimal.digits n :=
    Text.trim_of_forall fun _ hc => Text.isBlank_of_isDigit (Decimal.isDigit_of_mem_digits hc)
  refine ⟨Decimal.digits n, .inl ?_, Nat.toDigits_ne_nil, fun _ => Decimal.isDigit_of_mem_digits,
    Decimal.ofDigits_digits n⟩
  rw [Decimal.natText, String.toList_ofList, htrim]

namespace Environment

variable {env : Environment} {s : Setting} {expected : String} {limit fallback n : Nat}

theorem count?_eq_some {text : String} :
    count? limit text = some n ↔ Numeral text n ∧ n < limit := Decimal.parse?_eq_some

theorem count_eq_ok : env.count s expected limit fallback = .ok n ↔
    (env s.variableName = none ∧ n = fallback) ∨
      ∃ text, env s.variableName = some text ∧ Numeral text n ∧ n < limit := by
  rw [count]
  cases env s.variableName with
  | none => simp [eq_comm]
  | some text =>
      simp only [reduceCtorEq, false_and, false_or, Option.some.injEq, exists_eq_left',
        ← count?_eq_some]
      cases count? limit text with
      | none => simp
      | some m => simp

theorem eq_fallback_of_count (h : env.count s expected limit fallback = .ok n)
    (hnone : env s.variableName = none) : n = fallback := by
  rcases count_eq_ok.1 h with ⟨_, heq⟩ | ⟨_, hsome, _⟩
  · exact heq
  · rw [hnone] at hsome
    cases hsome

theorem numeral_of_count (h : env.count s expected limit fallback = .ok n) {text : String}
    (hsome : env s.variableName = some text) : Numeral text n := by
  rcases count_eq_ok.1 h with ⟨hnone, _⟩ | ⟨_, hfound, hnumeral, _⟩
  · rw [hsome] at hnone
    cases hnone
  · rw [hsome] at hfound
    cases hfound
    exact hnumeral

theorem lt_of_count_eq_ok (h : env.count s expected limit fallback = .ok n)
    (hfallback : fallback < limit) : n < limit := by
  rcases count_eq_ok.1 h with ⟨_, rfl⟩ | ⟨_, _, _, hlt⟩
  · exact hfallback
  · exact hlt

end Environment

namespace ClientConfig

variable {env : Environment} {c d : ClientConfig}

def Spells (c : ClientConfig) : Setting → String → Prop
  | .baseUrl, text => c.baseUrl = text
  | .apiKey, text => c.apiKey = some text
  | .timeoutSecs, text => Numeral text c.timeoutSecs.toNat
  | .maxRetries, text => Numeral text c.maxRetries.toNat
  | .retryDelayMs, text => Numeral text c.retryDelayMs.toNat

def AgreesAt (c d : ClientConfig) : Setting → Prop
  | .baseUrl => c.baseUrl = d.baseUrl
  | .apiKey => c.apiKey = d.apiKey
  | .timeoutSecs => c.timeoutSecs = d.timeoutSecs
  | .maxRetries => c.maxRetries = d.maxRetries
  | .retryDelayMs => c.retryDelayMs = d.retryDelayMs

def TakenFrom (env : Environment) (c : ClientConfig) (s : Setting) : Prop :=
  ∃ text, env s.variableName = some text ∧ c.Spells s text

def FellBack (env : Environment) (c : ClientConfig) (s : Setting) : Prop :=
  ¬c.TakenFrom env s ∧ c.AgreesAt {} s

theorem fields_of_ofEnvironment (h : ofEnvironment env = .ok c) :
    c.baseUrl = (env Setting.baseUrl.variableName).getD ({} : ClientConfig).baseUrl ∧
      c.apiKey = apiKeyFrom env ∧
      (∃ expected, env.count .timeoutSecs expected UInt64.size
        ({} : ClientConfig).timeoutSecs.toNat = .ok c.timeoutSecs.toNat) ∧
      (∃ expected, env.count .maxRetries expected UInt32.size
        ({} : ClientConfig).maxRetries.toNat = .ok c.maxRetries.toNat) ∧
      ∃ expected, env.count .retryDelayMs expected UInt64.size
        ({} : ClientConfig).retryDelayMs.toNat = .ok c.retryDelayMs.toNat := by
  simp only [ofEnvironment, bind_eq_ok] at h
  obtain ⟨timeoutSecs, htimeout, maxRetries, hretries, retryDelayMs, hdelay, _, _, heq⟩ := h
  cases heq
  have htimeout' := Environment.lt_of_count_eq_ok htimeout (UInt64.toNat_lt_size _)
  have hretries' := Environment.lt_of_count_eq_ok hretries (UInt32.toNat_lt_size _)
  have hdelay' := Environment.lt_of_count_eq_ok hdelay (UInt64.toNat_lt_size _)
  rw [← UInt64.toNat_ofNat_of_lt' htimeout'] at htimeout
  rw [← UInt32.toNat_ofNat_of_lt' hretries'] at hretries
  rw [← UInt64.toNat_ofNat_of_lt' hdelay'] at hdelay
  exact ⟨rfl, rfl, ⟨_, htimeout⟩, ⟨_, hretries⟩, ⟨_, hdelay⟩⟩

theorem setting_of_ofEnvironment (h : ofEnvironment env = .ok c) (s : Setting) :
    (env s.variableName = none → c.AgreesAt {} s) ∧
      ∀ text, env s.variableName = some text →
        (c.Spells s text ∧ (s = .apiKey → text ≠ "")) ∨
          s = .apiKey ∧ text = "" ∧ c.apiKey = none := by
  obtain ⟨hbaseUrl, hapiKey, ⟨_, htimeout⟩, ⟨_, hretries⟩, ⟨_, hdelay⟩⟩ := fields_of_ofEnvironment h
  cases s with
  | baseUrl =>
      constructor
      · intro hnone
        rw [AgreesAt, hbaseUrl, hnone]
        rfl
      · intro text hsome
        refine .inl ⟨?_, by rintro ⟨⟩⟩
        rw [Spells, hbaseUrl, hsome]
        rfl
  | apiKey =>
      constructor
      · intro hnone
        rw [AgreesAt, hapiKey, apiKeyFrom, hnone]
        rfl
      · intro text hsome
        rw [Spells, hapiKey, apiKeyFrom, hsome, Option.filter_some]
        -- an empty key is filtered out, though its variable is set
        cases hempty : text.isEmpty with
        | true => exact .inr ⟨rfl, String.isEmpty_iff.1 hempty, rfl⟩
        | false =>
            refine .inl ⟨rfl, fun _ heq => ?_⟩
            rw [heq] at hempty
            cases hempty
  | timeoutSecs =>
      constructor
      · exact fun hnone => UInt64.toNat_inj.1 (Environment.eq_fallback_of_count htimeout hnone)
      · exact fun text hsome => .inl ⟨Environment.numeral_of_count htimeout hsome, by rintro ⟨⟩⟩
  | maxRetries =>
      constructor
      · exact fun hnone => UInt32.toNat_inj.1 (Environment.eq_fallback_of_count hretries hnone)
      · exact fun text hsome => .inl ⟨Environment.numeral_of_count hretries hsome, by rintro ⟨⟩⟩
  | retryDelayMs =>
      constructor
      · exact fun hnone => UInt64.toNat_inj.1 (Environment.eq_fallback_of_count hdelay hnone)
      · exact fun text hsome => .inl ⟨Environment.numeral_of_count hdelay hsome, by rintro ⟨⟩⟩

theorem spells_fallbackText (hagrees : c.AgreesAt {} s) (hs : s ≠ .apiKey) :
    c.Spells s s.fallbackText := by
  cases s with
  | apiKey => exact absurd rfl hs
  | baseUrl => exact hagrees
  | timeoutSecs =>
      rw [Spells, hagrees]
      exact numeral_natText _
  | maxRetries =>
      rw [Spells, hagrees]
      exact numeral_natText _
  | retryDelayMs =>
      rw [Spells, hagrees]
      exact numeral_natText _

def EmptyKey (env : Environment) (s : Setting) : Prop :=
  s = .apiKey ∧ env s.variableName = some ""

theorem source_of_ofEnvironment (h : ofEnvironment env = .ok c) (s : Setting) :
    (∀ name, s.source env = .environment name ↔
        name = s.variableName ∧ (c.TakenFrom env s ∨ EmptyKey env s)) ∧
      (∀ text, s.source env = .fallback text ↔
        text = s.fallbackText ∧ c.FellBack env s ∧ ¬EmptyKey env s) ∧
      (c.FellBack env s → s ≠ .apiKey → c.Spells s s.fallbackText) ∧
      (EmptyKey env s → c.FellBack env s) := by
  obtain ⟨hunset, hset⟩ := setting_of_ofEnvironment h s
  have hspelled : c.FellBack env s → s ≠ .apiKey → c.Spells s s.fallbackText := fun hfell =>
    spells_fallbackText hfell.2
  rw [Setting.source]
  cases hvariable : env s.variableName with
  | none =>
      have htaken : ¬c.TakenFrom env s := by
        rintro ⟨text, hsome, _⟩
        rw [hvariable] at hsome
        cases hsome
      have hempty : ¬EmptyKey env s := by
        rintro ⟨_, hsome⟩
        rw [hvariable] at hsome
        cases hsome
      have hfell : c.FellBack env s := ⟨htaken, hunset hvariable⟩
      refine ⟨?_, ?_, hspelled, ?_⟩ <;> simp [htaken, hempty, hfell, eq_comm]
  | some text =>
      rcases hset text hvariable with ⟨hspells, hne⟩ | ⟨rfl, rfl, hnone⟩
      · have htaken : c.TakenFrom env s := ⟨text, hvariable, hspells⟩
        have hfell : ¬c.FellBack env s := fun hfell => hfell.1 htaken
        have hempty : ¬EmptyKey env s := by
          rintro ⟨hkey, hsome⟩
          rw [hvariable] at hsome
          exact hne hkey (Option.some.inj hsome)
        refine ⟨?_, ?_, hspelled, ?_⟩ <;> simp [htaken, hfell, hempty, eq_comm]
      · have hempty : EmptyKey env .apiKey := ⟨rfl, hvariable⟩
        have hfell : c.FellBack env .apiKey := by
          refine ⟨?_, hnone⟩
          rintro ⟨text, _, hspells⟩
          rw [Spells, hnone] at hspells
          cases hspells
        refine ⟨?_, ?_, hspelled, ?_⟩ <;> simp [hempty, hfell, eq_comm]

def paddedTimeout : Environment := fun name =>
  if name = "TABULA_TIMEOUT_SECS" then some " +7 " else none

theorem source_of_ofEnvironment_timeout :
    let c : ClientConfig := { timeoutSecs := 7 }
    ofEnvironment paddedTimeout = .ok c ∧ c.TakenFrom paddedTimeout .timeoutSecs ∧
      c.FellBack paddedTimeout .maxRetries ∧ c.Spells .maxRetries "2" := by
  intro c
  have h : ofEnvironment paddedTimeout = .ok c := rfl
  obtain ⟨henvironment, -, -, -⟩ := source_of_ofEnvironment h .timeoutSecs
  obtain ⟨-, hfallback, hspells, -⟩ := source_of_ofEnvironment h .maxRetries
  have htaken := ((henvironment "TABULA_TIMEOUT_SECS").1 (by decide)).2
  have hfell := ((hfallback "2").1 (by decide)).2.1
  exact ⟨h, htaken.resolve_right fun hempty => absurd hempty.1 (by decide), hfell,
    hspells hfell (by decide)⟩

def emptyKey : Environment := fun name => if name = "TABULA_API_KEY" then some "" else none

theorem environment_source_of_emptyKey :
    ofEnvironment emptyKey = .ok {} ∧
      Setting.apiKey.source emptyKey = .environment "TABULA_API_KEY" ∧
      ClientConfig.FellBack emptyKey {} .apiKey := by
  refine ⟨rfl, by decide, ?_, rfl⟩
  rintro ⟨text, _, ⟨⟩⟩

end ClientConfig

end RemoteQuery
