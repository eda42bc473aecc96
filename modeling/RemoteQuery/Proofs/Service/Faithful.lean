import RemoteQuery.Proofs.Json.Bounded
import RemoteQuery.Proofs.Service.Required
import RemoteQuery.Proofs.Service.Write
import RemoteQuery.Proofs.Wire.Faithful
/-!
Faithful decoding. Where two structures decode to the same, each part of the one decodes to the same as
that part of the other, and the values that stand there are the same JSON. `values_copied_exactly` says
so of every place of a value, and that a value is an exact copy of the JSON that it is made from.
-/

namespace RemoteQuery

open Wire

namespace StructureKind

def valueKeys : StructureKind → List String
  | .predicate => ["value"]
  | .range => ["value"]
  | .set => ["value"]
  | .having => ["value"]
  | .window => ["args"]
  | .advancedWindow => ["args"]
  | .raw => ["bindings"]
  | .pivot => ["values"]
  | .params => ["filter"]
  | _ => []

/-- Values in the same place of two structures; a response without rows has none. -/
inductive ValuePair (i j : Json) : StructureKind → Json → Json → Prop
  | member {k : StructureKind} {key : String} {v w : Json} : key ∈ k.valueKeys →
      i.member? key = some v → j.member? key = some w → ValuePair i j k v w
  | rows {rows others : List Json} : i.member? "data" = some (.list rows) →
      j.member? "data" = some (.list others) → ValuePair i j .response (.list rows) (.list others)

inductive Member.Pairs (i j : Json) : Member → Json → Json → Prop
  | one {key : String} {k : StructureKind} {c d : Json} :
      i.member? key = some c → j.member? key = some d → Pairs i j ⟨key, .one, k⟩ c d
  | each {key : String} {k : StructureKind} {cs ds : List Json} {c d : Json} (n : Nat) :
      i.member? key = some (.list cs) → j.member? key = some (.list ds) →
      cs[n]? = some c → ds[n]? = some d → Pairs i j ⟨key, .each, k⟩ c d

/-- The same part of two structures, at any depth, themselves included. -/
inductive SamePart (k : StructureKind) (i j : Json) : StructureKind → Json → Json → Prop
  | whole : SamePart k i j k i j
  | member {l : StructureKind} {m : Member} {c d c' d' : Json} : SamePart k i j l c d →
      m ∈ l.members → m.Pairs c d c' d' → SamePart k i j m.kind c' d'
  | group {c d : Json} : SamePart k i j .condition c d → (c.member? "conditions").isSome = true →
      (d.member? "conditions").isSome = true → SamePart k i j .group c d
  | predicate {c d : Json} : SamePart k i j .condition c d → c.member? "conditions" = none →
      d.member? "conditions" = none → SamePart k i j .predicate c d

def ReadAlike (k : StructureKind) (i j : Json) : Prop := ∃ a, k.decode i = .ok a ∧ k.decode j = .ok a

structure Matched (k : StructureKind) (i j : Json) : Prop where
  values : ∀ v w, ValuePair i j k v w → v = w
  members : ∀ m ∈ k.members, ∀ c d, m.Pairs i j c d → m.kind.ReadAlike c d

theorem Matched.of_object {k : StructureKind} {fields others : Fields Json} (hk : k ≠ .response)
    (hvalues : ∀ key ∈ k.valueKeys, ∀ v w, Fields.get? fields key = some v →
      Fields.get? others key = some w → v = w)
    (hmembers : ∀ m ∈ k.members, ∀ c d, m.Pairs (.object fields) (.object others) c d →
      m.kind.ReadAlike c d) : Matched k (.object fields) (.object others) := by
  refine ⟨?_, hmembers⟩
  rintro v w (⟨hkey, hv, hw⟩ | _)
  · exact hvalues _ hkey v w hv hw
  · exact absurd rfl hk

section Members

variable {fields others : Fields Json} {key context : String} {k : StructureKind}

theorem readAlike_one (h : ReadSame fields others key k.decode) : ∀ c d,
    Member.Pairs (.object fields) (.object others) ⟨key, .one, k⟩ c d → k.ReadAlike c d := by
  rintro c d ⟨hc, hd⟩
  exact h c d hc hd

theorem readAlike_each (h : ReadSame fields others key (listOf context k.decode)) : ∀ c d,
    Member.Pairs (.object fields) (.object others) ⟨key, .each, k⟩ c d → k.ReadAlike c d := by
  rintro c d (_ | ⟨n, hcs, hds, hc, hd⟩)
  -- Both lists read to `as`, so that the items at one index read to the same.
  obtain ⟨as, has, hbs⟩ := h _ _ hcs hds
  obtain ⟨a, hnth, ha⟩ := getElem?_of_forall₂ (forall₂_of_readAll has) hc
  obtain ⟨b, hnth', hb⟩ := getElem?_of_forall₂ (forall₂_of_readAll hbs) hd
  cases hnth.symm.trans hnth'
  exact ⟨a, ha, hb⟩

end Members

section Clauses

variable {i j : Json}

theorem get?_of_readValue {fields : Fields Json} {operator : Operator} {value : Option Value}
    (h : Predicate.readValue operator fields = .ok value) :
    fields.get? "value" = value.map Value.toJson := by
  rw [Predicate.readValue] at h
  split at h
  · rename_i v hv
    cases h
    rw [hv, Option.map_some, Value.toJson_ofJson]
  · rename_i hnone
    split at h <;> cases h
    exact hnone

theorem matched_predicate {p : Predicate} (hi : Predicate.ofStructure i = .ok p)
    (hj : Predicate.ofStructure j = .ok p) : Matched .predicate i j := by
  simp only [Predicate.ofStructure, Decoded.bind_eq_ok, object_eq_ok, Decoded.pure_eq_ok,
    Except.ok.injEq] at hi hj
  obtain ⟨fields, rfl, _, -, value, hvalue, _, -, _, -, rfl⟩ := hi
  obtain ⟨others, rfl, _, -, value', hvalue', _, -, _, -, heq⟩ := hj
  cases heq
  refine .of_object (by decide) (List.forall_mem_singleton.2 ?_) (List.forall_mem_nil _)
  intro v w hv hw
  rw [get?_of_readValue hvalue] at hv
  rw [get?_of_readValue hvalue', hv] at hw
  exact Option.some.inj hw

theorem matched_range {r : RangeClause} (hi : RangeClause.ofStructure i = .ok r)
    (hj : RangeClause.ofStructure j = .ok r) : Matched .range i j := by
  simp only [RangeClause.ofStructure, Decoded.bind_eq_ok, object_eq_ok, Decoded.pure_eq_ok,
    Except.ok.injEq] at hi hj
  obtain ⟨fields, rfl, ⟨low, high⟩, hbounds, _, -, rfl⟩ := hi
  obtain ⟨others, rfl, ⟨low', high'⟩, hbounds', _, -, heq⟩ := hj
  cases heq
  have hvalue := (readSame_of_required hbounds hbounds').eq .readBounds
  exact .of_object (by decide) (List.forall_mem_singleton.2 hvalue) (List.forall_mem_nil _)

theorem matched_set {s : SetClause} (hi : SetClause.ofStructure i = .ok s)
    (hj : SetClause.ofStructure j = .ok s) : Matched .set i j := by
  simp only [SetClause.ofStructure, Decoded.bind_eq_ok, object_eq_ok, Decoded.pure_eq_ok,
    Except.ok.injEq] at hi hj
  obtain ⟨fields, rfl, _, -, values, hvalues, rfl⟩ := hi
  obtain ⟨others, rfl, _, -, values', hvalues', heq⟩ := hj
  cases heq
  have hvalue := (readSame_of_required hvalues hvalues').eq (.values _)
  exact .of_object (by decide) (List.forall_mem_singleton.2 hvalue) (List.forall_mem_nil _)

theorem matched_having {c : HavingClause} (hi : HavingClause.ofStructure i = .ok c)
    (hj : HavingClause.ofStructure j = .ok c) : Matched .having i j := by
  simp only [HavingClause.ofStructure, Decoded.bind_eq_ok, object_eq_ok, Decoded.pure_eq_ok,
    Except.ok.injEq] at hi hj
  obtain ⟨fields, rfl, _, -, _, -, value, hread, rfl⟩ := hi
  obtain ⟨others, rfl, _, -, _, -, value', hread', heq⟩ := hj
  cases heq
  have hvalue := (readSame_of_orElse hread hread').eq .ofJson
  exact .of_object (by decide) (List.forall_mem_singleton.2 hvalue) (List.forall_mem_nil _)

theorem matched_group {g : BooleanGroup} (hi : BooleanGroup.ofStructure i = .ok g)
    (hj : BooleanGroup.ofStructure j = .ok g) : Matched .group i j := by
  simp only [BooleanGroup.ofStructure, BooleanGroup.ofStructureWith, Decoded.bind_eq_ok,
    object_eq_ok, Decoded.pure_eq_ok, Except.ok.injEq] at hi hj
  obtain ⟨fields, rfl, _, -, conditions, hconditions, rfl⟩ := hi
  obtain ⟨others, rfl, _, -, conditions', hconditions', heq⟩ := hj
  cases heq
  have hmember := readAlike_each (k := .condition) (readSame_of_required hconditions hconditions')
  exact .of_object (by decide) (List.forall_mem_nil _) (List.forall_mem_singleton.2 hmember)

theorem matched_subquery {s : Subquery QueryParams} (hi : Subquery.ofStructure i = .ok s)
    (hj : Subquery.ofStructure j = .ok s) : Matched .subquery i j := by
  simp only [Subquery.ofStructure, Subquery.ofStructureWith, Decoded.bind_eq_ok, object_eq_ok,
    Decoded.pure_eq_ok, Except.ok.injEq] at hi hj
  obtain ⟨fields, rfl, _, -, query, hquery, on, hon, _, -, rfl⟩ := hi
  obtain ⟨others, rfl, _, -, query', hquery', on', hon', _, -, heq⟩ := hj
  cases heq
  have hjoin := readAlike_one (k := .join) (readSame_of_optional hon hon')
  have hparams := readAlike_one (k := .params) (readSame_of_required hquery hquery')
  refine .of_object (by decide) (List.forall_mem_nil _) ?_
  exact List.forall_mem_cons.2 ⟨hjoin, List.forall_mem_singleton.2 hparams⟩

theorem readAlike_of_ofFields {context : String} {fields others : Fields Json} {o : OverClause}
    (h : OverClause.ofFields context fields = .ok o)
    (ho : OverClause.ofFields context others = .ok o) :
    ∀ m ∈ ([⟨"orderBy", .each, .order⟩, ⟨"frame", .one, .frame⟩] : List Member),
      ∀ c d, m.Pairs (.object fields) (.object others) c d → m.kind.ReadAlike c d := by
  simp only [OverClause.ofFields, Decoded.bind_eq_ok, Decoded.pure_eq_ok, Except.ok.injEq] at h ho
  obtain ⟨_, -, orderBy, horderBy, frame, hframe, rfl⟩ := h
  obtain ⟨_, -, orderBy', horderBy', frame', hframe', heq⟩ := ho
  cases heq
  have horder := readAlike_each (k := .order) (readSame_of_orElse horderBy horderBy')
  have hframed := readAlike_one (k := .frame) (readSame_of_optional hframe hframe')
  exact List.forall_mem_cons.2 ⟨horder, List.forall_mem_singleton.2 hframed⟩

theorem matched_over {o : OverClause} (hi : OverClause.ofStructure i = .ok o)
    (hj : OverClause.ofStructure j = .ok o) : Matched .«over» i j := by
  simp only [OverClause.ofStructure, Decoded.bind_eq_ok, object_eq_ok] at hi hj
  obtain ⟨fields, rfl, hclause⟩ := hi
  obtain ⟨others, rfl, hclause'⟩ := hj
  exact .of_object (by decide) (List.forall_mem_nil _) (readAlike_of_ofFields hclause hclause')

theorem matched_window {w : WindowSpec} (hi : WindowSpec.ofStructure i = .ok w)
    (hj : WindowSpec.ofStructure j = .ok w) : Matched .window i j := by
  simp only [WindowSpec.ofStructure, Decoded.bind_eq_ok, object_eq_ok, Decoded.pure_eq_ok,
    Except.ok.injEq] at hi hj
  obtain ⟨fields, rfl, _, -, _, -, _, -, clause, hclause, args, hargs, rfl⟩ := hi
  obtain ⟨others, rfl, _, -, _, -, _, -, clause', hclause', args', hargs', heq⟩ := hj
  cases heq
  have hvalue := (readSame_of_orElse hargs hargs').eq (.values _)
  exact .of_object (by decide) (List.forall_mem_singleton.2 hvalue)
    (readAlike_of_ofFields hclause hclause')

theorem matched_advancedWindow {a : AdvancedWindowSpec}
    (hi : AdvancedWindowSpec.ofStructure i = .ok a) (hj : AdvancedWindowSpec.ofStructure j = .ok a) :
    Matched .advancedWindow i j := by
  simp only [AdvancedWindowSpec.ofStructure, Decoded.bind_eq_ok, object_eq_ok, Decoded.pure_eq_ok,
    Except.ok.injEq] at hi hj
  obtain ⟨fields, rfl, clause, hclause, _, -, _, -, _, -, args, hargs, filters, hfilters, rfl⟩ := hi
  obtain ⟨others, rfl, clause', hclause', _, -, _, -, _, -, args', hargs', filters', hfilters', heq⟩ :=
    hj
  cases heq
  have hvalue := (readSame_of_orElse hargs hargs').eq (.values _)
  have hover := readAlike_one (k := .«over») (readSame_of_orElse hclause hclause')
  have hfilter := readAlike_each (k := .predicate) (readSame_of_orElse hfilters hfilters')
  exact .of_object (by decide) (List.forall_mem_singleton.2 hvalue)
    (List.forall_mem_cons.2 ⟨hover, List.forall_mem_singleton.2 hfilter⟩)

theorem matched_cte {c : Cte QueryParams} (hi : Cte.ofStructure i = .ok c)
    (hj : Cte.ofStructure j = .ok c) : Matched .cte i j := by
  simp only [Cte.ofStructure, Cte.ofStructureWith, Decoded.bind_eq_ok, object_eq_ok,
    Decoded.pure_eq_ok, Except.ok.injEq] at hi hj
  obtain ⟨fields, rfl, _, -, _, -, query, hquery, _, -, rfl⟩ := hi
  obtain ⟨others, rfl, _, -, _, -, query', hquery', _, -, heq⟩ := hj
  cases heq
  have hparams := readAlike_one (k := .params) (readSame_of_required hquery hquery')
  exact .of_object (by decide) (List.forall_mem_nil _) (List.forall_mem_singleton.2 hparams)

theorem matched_recursiveCte {c : RecursiveCte QueryParams} (hi : RecursiveCte.ofStructure i = .ok c)
    (hj : RecursiveCte.ofStructure j = .ok c) : Matched .recursiveCte i j := by
  simp only [RecursiveCte.ofStructure, RecursiveCte.ofStructureWith, Decoded.bind_eq_ok, object_eq_ok,
    Decoded.pure_eq_ok, Except.ok.injEq] at hi hj
  obtain ⟨fields, rfl, _, -, initial, hinitial, _, -, recursive, hrecursive, _, -, _, -, _, -, rfl⟩ :=
    hi
  obtain ⟨others, rfl, _, -, initial', hinitial', _, -, recursive', hrecursive', _, -, _, -, _, -,
    heq⟩ := hj
  cases heq
  have hfirst := readAlike_one (k := .params) (readSame_of_required hinitial hinitial')
  have hnext := readAlike_one (k := .params) (readSame_of_required hrecursive hrecursive')
  refine .of_object (by decide) (List.forall_mem_nil _) ?_
  exact List.forall_mem_cons.2 ⟨hfirst, List.forall_mem_singleton.2 hnext⟩

theorem matched_raw {r : RawExpression} (hi : RawExpression.ofStructure i = .ok r)
    (hj : RawExpression.ofStructure j = .ok r) : Matched .raw i j := by
  simp only [RawExpression.ofStructure, Decoded.bind_eq_ok, object_eq_ok, Decoded.pure_eq_ok,
    Except.ok.injEq] at hi hj
  obtain ⟨fields, rfl, _, -, bindings, hbindings, rfl⟩ := hi
  obtain ⟨others, rfl, _, -, bindings', hbindings', heq⟩ := hj
  cases heq
  have hvalue := (readSame_of_orElse hbindings hbindings').eq (.values _)
  exact .of_object (by decide) (List.forall_mem_singleton.2 hvalue) (List.forall_mem_nil _)

theorem matched_pivot {p : PivotSpec} (hi : PivotSpec.ofStructure i = .ok p)
    (hj : PivotSpec.ofStructure j = .ok p) : Matched .pivot i j := by
  simp only [PivotSpec.ofStructure, Decoded.bind_eq_ok, object_eq_ok, Decoded.pure_eq_ok,
    Except.ok.injEq] at hi hj
  obtain ⟨fields, rfl, _, -, values, hvalues, aggregate, haggregate, rfl⟩ := hi
  obtain ⟨others, rfl, _, -, values', hvalues', aggregate', haggregate', heq⟩ := hj
  cases heq
  have hvalue := (readSame_of_required hvalues hvalues').eq (.values _)
  have hmember := readAlike_one (k := .aggregate) (readSame_of_required haggregate haggregate')
  exact .of_object (by decide) (List.forall_mem_singleton.2 hvalue)
    (List.forall_mem_singleton.2 hmember)

theorem matched_transform {t : TransformSpec} (hi : TransformSpec.ofStructure i = .ok t)
    (hj : TransformSpec.ofStructure j = .ok t) : Matched .transform i j := by
  simp only [TransformSpec.ofStructure, Decoded.bind_eq_ok, object_eq_ok, Decoded.pure_eq_ok,
    Except.ok.injEq] at hi hj
  obtain ⟨fields, rfl, _, -, _, -, pivot, hpivot, _, -, _, -, rfl⟩ := hi
  obtain ⟨others, rfl, _, -, _, -, pivot', hpivot', _, -, _, -, heq⟩ := hj
  cases heq
  have hmember := readAlike_one (k := .pivot) (readSame_of_optional hpivot hpivot')
  exact .of_object (by decide) (List.forall_mem_nil _) (List.forall_mem_singleton.2 hmember)

theorem matched_params {p : QueryParams} (hi : QueryParams.ofStructure i = .ok p)
    (hj : QueryParams.ofStructure j = .ok p) : Matched .params i j := by
  rw [QueryParams.ofStructure_eq] at hi hj
  simp only [QueryParams.layer, Decoded.bind_eq_ok, object_eq_ok] at hi hj
  obtain ⟨fields, rfl, hfields⟩ := hi
  obtain ⟨others, rfl, hothers⟩ := hj
  have hslots := QueryParams.ofFieldsWith_eq_ok.1 hfields
  have hslots' := QueryParams.ofFieldsWith_eq_ok.1 hothers
  have hfilter := (readSame_of_optional hslots.filter hslots'.filter).eq (.valueMap _)
  refine .of_object (by decide) (List.forall_mem_singleton.2 hfilter) ?_
  simp only [members, List.forall_mem_cons, List.not_mem_nil, false_imp_iff, implies_true,
    and_true]
  exact
    ⟨readAlike_each (readSame_of_optional hslots.predicates hslots'.predicates),
      readAlike_each (readSame_of_optional hslots.ranges hslots'.ranges),
      readAlike_each (readSame_of_optional hslots.oneOf hslots'.oneOf),
      readAlike_each (readSame_of_optional hslots.noneOf hslots'.noneOf),
      readAlike_each (readSame_of_optional hslots.nullness hslots'.nullness),
      readAlike_each (readSame_of_optional hslots.subqueries hslots'.subqueries),
      readAlike_each (readSame_of_optional hslots.groups hslots'.groups),
      readAlike_each (readSame_of_optional hslots.orderBy hslots'.orderBy),
      readAlike_each (readSame_of_optional hslots.having hslots'.having),
      readAlike_each (readSame_of_optional hslots.aggregates hslots'.aggregates),
      readAlike_each (readSame_of_optional hslots.windows hslots'.windows),
      readAlike_each (readSame_of_optional hslots.advancedWindows hslots'.advancedWindows),
      readAlike_each (readSame_of_optional hslots.ctes hslots'.ctes),
      readAlike_each (readSame_of_optional hslots.recursiveCtes hslots'.recursiveCtes),
      readAlike_each (readSame_of_optional hslots.raw hslots'.raw),
      readAlike_one (readSame_of_optional hslots.transform hslots'.transform),
      readAlike_one (readSame_of_optional hslots.explain hslots'.explain)⟩

theorem exists_of_member? {key : String} {c : Json} (h : j.member? key = some c) :
    ∃ fields, j = .object fields := by
  cases j with
  | object fields => exact ⟨fields, rfl⟩
  | _ => cases h

theorem matched_response {r : Response} (hi : Response.ofStructure i = .ok r)
    (hj : Response.ofStructure j = .ok r) : Matched .response i j := by
  have hread : ∀ {fields : Fields Json}, Response.ofStructure (.object fields) = .ok r →
      orElse fields "data" [] Response.readRows = .ok r.data ∧
        optional fields "params" QueryParams.ofStructure = .ok r.params := by
    intro fields h
    simp only [Response.ofStructure, Response.ofFields, object_object, Decoded.ok_bind,
      Decoded.bind_eq_ok, Decoded.pure_eq_ok, Except.ok.injEq] at h
    obtain ⟨data, hdata, params, hparams, _, -, _, -, _, -, rfl⟩ := h
    exact ⟨hdata, hparams⟩
  constructor
  · rintro v w (⟨hkey, -, -⟩ | @⟨rows, others, hrows, hothers⟩)
    · cases hkey
    · obtain ⟨fields, rfl⟩ := exists_of_member? hrows
      obtain ⟨others', rfl⟩ := exists_of_member? hothers
      obtain ⟨as, has, hbs⟩ := readSame_of_orElse (hread hi).1 (hread hj).1 _ _ hrows hothers
      rw [Faithful.readAll (.valueMap _) has hbs]
  · refine List.forall_mem_singleton.2 ?_
    rintro c d ⟨hc, hd⟩
    obtain ⟨fields, rfl⟩ := exists_of_member? hc
    obtain ⟨others, rfl⟩ := exists_of_member? hd
    exact readSame_of_optional (hread hi).2 (hread hj).2 c d hc hd

theorem matched {k : StructureKind} (h : k.ReadAlike i j) : Matched k i j := by
  obtain ⟨a, hi, hj⟩ := h
  cases k with
  | predicate => exact matched_predicate hi hj
  | range => exact matched_range hi hj
  | set => exact matched_set hi hj
  | having => exact matched_having hi hj
  | group => exact matched_group hi hj
  | subquery => exact matched_subquery hi hj
  | «over» => exact matched_over hi hj
  | window => exact matched_window hi hj
  | advancedWindow => exact matched_advancedWindow hi hj
  | cte => exact matched_cte hi hj
  | recursiveCte => exact matched_recursiveCte hi hj
  | raw => exact matched_raw hi hj
  | pivot => exact matched_pivot hi hj
  | transform => exact matched_transform hi hj
  | params => exact matched_params hi hj
  | response => exact matched_response hi hj
  | _ =>
      refine ⟨?_, List.forall_mem_nil _⟩
      rintro v w ⟨⟨⟩, _, _⟩

theorem readAlike_of_condition (h : ReadAlike .condition i j) :
    ((i.member? "conditions").isSome = true → (j.member? "conditions").isSome = true →
      ReadAlike .group i j) ∧
    (i.member? "conditions" = none → j.member? "conditions" = none → ReadAlike .predicate i j) := by
  obtain ⟨c, hi, hj⟩ := h
  constructor
  · intro hsome hsome'
    obtain ⟨⟨combinator, conditions⟩, hg, rfl⟩ := (decode_condition hi).1 hsome
    obtain ⟨⟨combinator', conditions'⟩, hg', heq⟩ := (decode_condition hj).1 hsome'
    cases heq
    exact ⟨_, hg, hg'⟩
  · intro hnone hnone'
    obtain ⟨p, hp, rfl⟩ := (decode_condition hi).2 hnone
    obtain ⟨p', hp', heq⟩ := (decode_condition hj).2 hnone'
    cases heq
    exact ⟨p, hp, hp'⟩

theorem readAlike_of_samePart {k l : StructureKind} {c d : Json} (h : SamePart k i j l c d)
    (hk : k.ReadAlike i j) : l.ReadAlike c d := by
  -- Down from the whole, a member at a time: what is read alike is matched, its members with it.
  induction h with
  | whole => exact hk
  | member _ hm hpair ih => exact (matched ih).members _ hm _ _ hpair
  | group _ hc hd ih => exact (readAlike_of_condition ih).1 hc hd
  | predicate _ hc hd ih => exact (readAlike_of_condition ih).2 hc hd

end Clauses

end StructureKind

open StructureKind

theorem values_copied_exactly :
    (∀ j : Json, (Value.ofJson j).toJson = j) ∧ (∀ v : Value, Value.ofJson v.toJson = v) ∧
    (∀ (v : Value) (j : Json), v.Ordered → j.Ordered → (v.Copies j ↔ v = Value.ofJson j)) ∧
    (∀ fields : Fields Json, fields.Sorted → Value.ofJson (.object fields)
      = .map (Fields.ofPairs (fields.map fun (key, j) => (key, Value.ofJson j)))) ∧
    (∀ entries : Fields Value, entries.Sorted → (Value.map entries).toJson
      = .object (Fields.ofPairs (entries.map fun (key, v) => (key, v.toJson)))) ∧
    Function.Injective Value.ofJson ∧
    (∀ i j : Json, (Value.ofJson i).equal (Value.ofJson j) = i.equal j) ∧
    (∀ (s : String) (j : Json), Json.parse? s = some j →
      (Value.ofJson j).Ordered ∧ (Value.ofJson j).Copies j) ∧
    (∀ (k : StructureKind) (i j : Json), k.ReadAlike i j → ∀ l c d, SamePart k i j l c d →
      ∀ v w, ValuePair c d l v w → v = w) ∧
    ∀ (b : Builder) (fields : Fields Json),
      (Session.writeBody b fields.ofJson).member? "data" = some (.object fields) := by
  refine ⟨Value.toJson_ofJson, Value.ofJson_toJson, fun v j hv hj => Value.copies_iff hv hj, ?_, ?_,
    Value.ofJson_injective, Value.equal_ofJson, ?_, ?_, ?_⟩
  · intro fields hfields
    rw [Value.ofJson_object, Fields.ofPairs_of_sorted ((Fields.sorted_map Value.ofJson).2 hfields)]
    rfl
  · intro entries hentries
    rw [Value.toJson_map, Fields.ofPairs_of_sorted ((Fields.sorted_map Value.toJson).2 hentries)]
    rfl
  · intro s j hparse
    exact ⟨Value.ordered_ofJson.2 (Json.fits_of_parse? hparse).ordered, Value.copies_ofJson j⟩
  · intro k i j hk l c d hpart v w hpair
    exact (matched (readAlike_of_samePart hpart hk)).values v w hpair
  · intro b fields
    rw [Session.writeBody_eq, Json.member?, Fields.get?_insert, if_pos rfl, Fields.toJson_ofJson]

def labels : Fields Json :=
  [("count", .num (.unsigned 10)), ("ratios", .list [.num (.float .half), .str "10"])]

theorem ordered_labels : (Json.object labels).Ordered :=
  Json.ordered_object.2 ⟨by decide, by simp [labels, Json.Ordered, Json.OrderedItems]⟩

theorem parse?_labels :
    Json.parse? "\x7b\"count\":10,\"ratios\":[0.5,\"10\"]\x7d" = some (.object labels) := by
  have htext : (Json.object labels).text = "\x7b\"count\":10,\"ratios\":[0.5,\"10\"]\x7d" := by
    decide +kernel
  have hliterals : (Json.object labels).Literals := by
    apply Json.Literals.of_floats
    intro x hx
    rw [Json.eq_of_floats rfl hx]
    exact Number.isLiteral_half
  rw [← htext, Json.parse?_text ordered_labels hliterals]
  rfl

def embedding (comparison : Json) : Json :=
  .object [("with", .list [.object [("name", .str "minors"), ("query", .object [("whereGroups", .list
    [.object [("conditions", .list [comparison]), ("type", .str "AND")]])])]])]

def younger (age : Json) : Json :=
  .object [("field", .str "age"), ("operator", .str "<"), ("value", age)]

def youngerNoted (age : Json) : Json :=
  .object [("field", .str "age"), ("note", .null), ("operator", .str "<"), ("value", age)]

theorem samePart_embedding {c d : Json} (hc : c.member? "conditions" = none)
    (hd : d.member? "conditions" = none) :
    SamePart .params (embedding c) (embedding d) .predicate c d := by
  have hcte : SamePart .params (embedding c) (embedding d) .cte _ _ :=
    .member (m := ⟨"with", .each, .cte⟩) .whole (by decide) (.each 0 rfl rfl rfl rfl)
  have hquery : SamePart .params (embedding c) (embedding d) .params _ _ :=
    .member (m := ⟨"query", .one, .params⟩) hcte (by decide) (.one rfl rfl)
  have hgroup : SamePart .params (embedding c) (embedding d) .group _ _ :=
    .member (m := ⟨"whereGroups", .each, .group⟩) hquery (by decide) (.each 0 rfl rfl rfl rfl)
  have hcondition : SamePart .params (embedding c) (embedding d) .condition c d :=
    .member (m := ⟨"conditions", .each, .condition⟩) hgroup (by decide) (.each 0 rfl rfl rfl rfl)
  exact .predicate hcondition hc hd

theorem values_copied_exactly_minors :
    ((Json.object labels).Ordered ∧ (Value.map labels.ofJson).Copies (.object labels)) ∧
    (labels.Sorted ∧ Value.ofJson (.object labels)
      = .map (Fields.ofPairs (labels.map fun (key, j) => (key, Value.ofJson j)))) ∧
    (labels.ofJson.Sorted ∧ (Value.map labels.ofJson).toJson
      = .object (Fields.ofPairs (labels.ofJson.map fun (key, v) => (key, v.toJson)))) ∧
    (Json.parse? "\x7b\"count\":10,\"ratios\":[0.5,\"10\"]\x7d" = some (.object labels) ∧
      (Value.ofJson (.object labels)).Ordered) ∧
    (ReadAlike .params (embedding (younger (.unsigned 18))) (embedding (youngerNoted (.unsigned 18))) ∧
      ∀ v w, ValuePair (younger (.unsigned 18)) (youngerNoted (.unsigned 18)) .predicate v w → v = w) ∧
    ¬ReadAlike .params (embedding (younger (.unsigned 18))) (embedding (younger (.str "18"))) := by
  obtain ⟨-, -, hcopies, hobject, hmap, -, -, htext, hvalues, -⟩ := values_copied_exactly
  have hsorted : labels.Sorted := by decide
  have hsorted' : labels.ofJson.Sorted := by decide
  have halike : ReadAlike .params (embedding (younger (.unsigned 18)))
      (embedding (youngerNoted (.unsigned 18))) := ⟨_, rfl, rfl⟩
  refine ⟨⟨ordered_labels, ?_⟩, ⟨hsorted, hobject _ hsorted⟩, ⟨hsorted', hmap _ hsorted'⟩,
    ⟨parse?_labels, (htext _ _ parse?_labels).1⟩, ⟨halike, ?_⟩, ?_⟩
  · have hcopy : (Value.map labels.ofJson).Ordered := Value.ordered_ofJson.2 ordered_labels
    exact (hcopies _ _ hcopy ordered_labels).2 (Value.ofJson_object labels).symm
  · exact hvalues .params _ _ halike .predicate _ _ (samePart_embedding rfl rfl)
  · intro h
    have hage := hvalues .params _ _ h .predicate _ _ (samePart_embedding rfl rfl)
      (.unsigned 18) (.str "18") (.member (List.mem_singleton_self "value") rfl rfl)
    cases hage

end RemoteQuery
