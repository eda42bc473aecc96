import Mathlib.Logic.Relation
import RemoteQuery.Proofs.Query.Presence
import RemoteQuery.Proofs.Wire.AcceptedIf
import RemoteQuery.Service.Kind
/-!
Required members. A structure that decodes has every member that its kind requires, and so has each
structure within it, however deep. One member is the exception: a condition on groups that gives no
value to compare with is taken for a comparison with null.
-/

namespace RemoteQuery

open Wire

namespace StructureKind

@[simp] def requiredKeys : StructureKind → List String
  | .predicate => ["field", "operator"]
  | .range => ["field", "value"]
  | .set => ["field", "value"]
  | .nullness => ["field", "isNull"]
  | .having => ["field", "operator", "value"]
  | .group => ["type", "conditions"]
  | .join => ["leftField", "operator", "rightField"]
  | .subquery => ["table", "query"]
  | .order => ["field"]
  | .aggregate => ["type", "field"]
  | .frame => ["mode", "start"]
  | .window => ["type", "alias"]
  | .advancedWindow => ["type", "alias"]
  | .cte => ["name", "query"]
  | .recursiveCte => ["name", "initial", "recursive"]
  | .raw => ["expression"]
  | .pivot => ["column", "values", "aggregate"]
  | _ => []

/-- A predicate has its value on condition: an operator may compare with nothing. -/
inductive Requires (j : Json) : StructureKind → String → Prop
  | key {k : StructureKind} {key : String} : key ∈ k.requiredKeys → Requires j k key
  | comparand {operator : Operator} : j.member? "operator" = some (Token.toStructure operator) →
      operator.requiresValue = true → Requires j .predicate "value"

inductive Plurality where
  | one
  | each
  deriving DecidableEq

structure Member where
  key : String
  plurality : Plurality
  kind : StructureKind
  deriving DecidableEq

@[simp] def members : StructureKind → List Member
  | .group => [⟨"conditions", .each, .condition⟩]
  | .subquery => [⟨"on", .one, .join⟩, ⟨"query", .one, .params⟩]
  | .«over» => [⟨"orderBy", .each, .order⟩, ⟨"frame", .one, .frame⟩]
  | .window => [⟨"orderBy", .each, .order⟩, ⟨"frame", .one, .frame⟩]
  | .advancedWindow => [⟨"over", .one, .«over»⟩, ⟨"filter", .each, .predicate⟩]
  | .cte => [⟨"query", .one, .params⟩]
  | .recursiveCte => [⟨"initial", .one, .params⟩, ⟨"recursive", .one, .params⟩]
  | .pivot => [⟨"aggregate", .one, .aggregate⟩]
  | .transform => [⟨"pivot", .one, .pivot⟩]
  | .params => [
      ⟨"whereRaw", .each, .predicate⟩, ⟨"whereBetween", .each, .range⟩, ⟨"whereIn", .each, .set⟩,
      ⟨"whereNotIn", .each, .set⟩, ⟨"whereNull", .each, .nullness⟩,
      ⟨"whereExists", .each, .subquery⟩, ⟨"whereGroups", .each, .group⟩,
      ⟨"orderBy", .each, .order⟩, ⟨"having", .each, .having⟩, ⟨"aggregates", .each, .aggregate⟩,
      ⟨"windows", .each, .window⟩, ⟨"advancedWindows", .each, .advancedWindow⟩,
      ⟨"with", .each, .cte⟩, ⟨"withRecursive", .each, .recursiveCte⟩, ⟨"raw", .each, .raw⟩,
      ⟨"transform", .one, .transform⟩, ⟨"explain", .one, .explain⟩]
  | .response => [⟨"params", .one, .params⟩]
  | _ => []

inductive Member.Reaches (j : Json) : Member → Json → Prop
  | one {key : String} {k : StructureKind} {i : Json} :
      j.member? key = some i → Reaches j ⟨key, .one, k⟩ i
  | each {key : String} {k : StructureKind} {items : List Json} {i : Json} :
      j.member? key = some (.list items) → i ∈ items → Reaches j ⟨key, .each, k⟩ i

/-- One structure is held by another, or is what another is read as. -/
inductive Holds : StructureKind × Json → StructureKind × Json → Prop
  | member {k : StructureKind} {m : Member} {j i : Json} :
      m ∈ k.members → m.Reaches j i → Holds (k, j) (m.kind, i)
  | group {j : Json} : (j.member? "conditions").isSome = true → Holds (.condition, j) (.group, j)
  | predicate {j : Json} : j.member? "conditions" = none → Holds (.condition, j) (.predicate, j)

abbrev Part : StructureKind × Json → StructureKind × Json → Prop := Relation.ReflTransGen Holds

def Accepts (k : StructureKind) (j : Json) : Prop := ∃ a, k.decode j = .ok a

def Member.Accepted (j : Json) (m : Member) : Prop := ∀ i, m.Reaches j i → m.kind.Accepts i

def Defaulted (k : StructureKind) (key : String) : Prop := k = .having ∧ key = "value"

structure Sound (k : StructureKind) (j : Json) : Prop where
  present : ∀ key ∈ k.requiredKeys, (j.member? key).isSome = true ∨ Defaulted k key
  accepted : ∀ m ∈ k.members, m.Accepted j

theorem Sound.of_present {k : StructureKind} {j : Json}
    (h : ∀ key ∈ k.requiredKeys, (j.member? key).isSome = true)
    (hm : ∀ m ∈ k.members, m.Accepted j) : Sound k j :=
  ⟨fun key hkey => .inl (h key hkey), hm⟩

theorem Sound.of_object {k : StructureKind} {fields : Fields Json}
    (h : ∀ key ∈ k.requiredKeys, (Fields.get? fields key).isSome = true)
    (hm : ∀ m ∈ k.members, m.Accepted (.object fields)) : Sound k (.object fields) :=
  .of_present h hm

section Members

variable {fields : Fields Json} {key context : String}

theorem accepted_one {k : StructureKind} (h : Readable fields key k.decode) :
    Member.Accepted (.object fields) ⟨key, .one, k⟩ := by
  rintro i ⟨hi⟩
  exact h i hi

theorem accepted_each {k : StructureKind} (h : Readable fields key (listOf context k.decode)) :
    Member.Accepted (.object fields) ⟨key, .each, k⟩ := by
  rintro i (_ | ⟨hlist, hi⟩)
  obtain ⟨as, has⟩ := h _ hlist
  obtain ⟨a, -, ha⟩ := exists_of_forall₂ (forall₂_of_readAll has) hi
  exact ⟨a, ha⟩

end Members

section Clauses

variable {j : Json}

theorem sound_predicate {p : Predicate} (h : Predicate.ofStructure j = .ok p) :
    Sound .predicate j := by
  simp only [Predicate.ofStructure, Decoded.bind_eq_ok, object_eq_ok] at h
  obtain ⟨fields, rfl, operator, hoperator, value, -, field, hfield, -⟩ := h
  refine .of_object ?_ (List.forall_mem_nil _)
  simp [isSome_of_required hoperator, isSome_of_required hfield]

theorem sound_range {r : RangeClause} (h : RangeClause.ofStructure j = .ok r) :
    Sound .range j := by
  simp only [RangeClause.ofStructure, Decoded.bind_eq_ok, object_eq_ok] at h
  obtain ⟨fields, rfl, bounds, hbounds, field, hfield, -⟩ := h
  refine .of_object ?_ (List.forall_mem_nil _)
  simp [isSome_of_required hbounds, isSome_of_required hfield]

theorem sound_set {s : SetClause} (h : SetClause.ofStructure j = .ok s) : Sound .set j := by
  simp only [SetClause.ofStructure, Decoded.bind_eq_ok, object_eq_ok] at h
  obtain ⟨fields, rfl, field, hfield, values, hvalues, -⟩ := h
  refine .of_object ?_ (List.forall_mem_nil _)
  simp [isSome_of_required hfield, isSome_of_required hvalues]

theorem sound_nullness {n : NullnessClause} (h : NullnessClause.ofStructure j = .ok n) :
    Sound .nullness j := by
  simp only [NullnessClause.ofStructure, Decoded.bind_eq_ok, object_eq_ok] at h
  obtain ⟨fields, rfl, isNull, hisNull, field, hfield, -⟩ := h
  refine .of_object ?_ (List.forall_mem_nil _)
  simp [isSome_of_required hisNull, isSome_of_required hfield]

theorem sound_having {c : HavingClause} (h : HavingClause.ofStructure j = .ok c) :
    Sound .having j := by
  simp only [HavingClause.ofStructure, Decoded.bind_eq_ok, object_eq_ok] at h
  obtain ⟨fields, rfl, field, hfield, operator, hoperator, -⟩ := h
  refine ⟨?_, List.forall_mem_nil _⟩
  have hpresent : ∀ key ∈ ["field", "operator"], (Fields.get? fields key).isSome = true := by
    simp [isSome_of_required hfield, isSome_of_required hoperator]
  intro key hkey
  by_cases hvalue : key = "value"
  · exact .inr ⟨rfl, hvalue⟩
  · have hothers : key ∈ ["field", "operator"] := by
      simpa [hvalue] using hkey
    exact .inl (hpresent key hothers)

theorem sound_group {g : BooleanGroup} (h : BooleanGroup.ofStructure j = .ok g) :
    Sound .group j := by
  simp only [BooleanGroup.ofStructure, BooleanGroup.ofStructureWith, Decoded.bind_eq_ok,
    object_eq_ok] at h
  obtain ⟨fields, rfl, combinator, hcombinator, conditions, hconditions, -⟩ := h
  refine .of_object ?_ ?_
  · simp [isSome_of_required hcombinator, isSome_of_required hconditions]
  · have hitems := accepted_each (k := .condition) (readable_of_required hconditions)
    simpa using hitems

theorem sound_join {c : JoinCondition} (h : JoinCondition.ofStructure j = .ok c) :
    Sound .join j := by
  simp only [JoinCondition.ofStructure, Decoded.bind_eq_ok, object_eq_ok] at h
  obtain ⟨fields, rfl, left, hleft, operator, hoperator, right, hright, -⟩ := h
  refine .of_object ?_ (List.forall_mem_nil _)
  simp [isSome_of_required hleft, isSome_of_required hoperator,
    isSome_of_required hright]

theorem sound_subquery {s : Subquery QueryParams} (h : Subquery.ofStructure j = .ok s) :
    Sound .subquery j := by
  simp only [Subquery.ofStructure, Subquery.ofStructureWith, Decoded.bind_eq_ok,
    object_eq_ok] at h
  obtain ⟨fields, rfl, table, htable, query, hquery, on, hon, -⟩ := h
  refine .of_object ?_ ?_
  · simp [isSome_of_required htable, isSome_of_required hquery]
  · have hjoin := accepted_one (k := .join) (readable_of_optional hon)
    have hparams := accepted_one (k := .params) (readable_of_required hquery)
    simpa using ⟨hjoin, hparams⟩

theorem sound_order {o : OrderSpec} (h : OrderSpec.ofStructure j = .ok o) : Sound .order j := by
  simp only [OrderSpec.ofStructure, Decoded.bind_eq_ok, object_eq_ok] at h
  obtain ⟨fields, rfl, field, hfield, -⟩ := h
  refine .of_object ?_ (List.forall_mem_nil _)
  simp [isSome_of_required hfield]

theorem sound_aggregate {a : AggregateSpec} (h : AggregateSpec.ofStructure j = .ok a) :
    Sound .aggregate j := by
  simp only [AggregateSpec.ofStructure, Decoded.bind_eq_ok, object_eq_ok] at h
  obtain ⟨fields, rfl, function, hfunction, field, hfield, -⟩ := h
  refine .of_object ?_ (List.forall_mem_nil _)
  simp [isSome_of_required hfunction, isSome_of_required hfield]

theorem sound_frame {f : FrameSpec} (h : FrameSpec.ofStructure j = .ok f) : Sound .frame j := by
  simp only [FrameSpec.ofStructure, Decoded.bind_eq_ok, object_eq_ok] at h
  obtain ⟨fields, rfl, mode, hmode, start, hstart, -⟩ := h
  refine .of_object ?_ (List.forall_mem_nil _)
  simp [isSome_of_required hmode, isSome_of_required hstart]

theorem accepted_of_ofFields {context : String} {fields : Fields Json} {o : OverClause}
    (h : OverClause.ofFields context fields = .ok o) :
    Member.Accepted (.object fields) ⟨"orderBy", .each, .order⟩ ∧
      Member.Accepted (.object fields) ⟨"frame", .one, .frame⟩ := by
  simp only [OverClause.ofFields, Decoded.bind_eq_ok] at h
  obtain ⟨partitionBy, -, orderBy, horderBy, frame, hframe, -⟩ := h
  exact ⟨accepted_each (readable_of_orElse horderBy), accepted_one (readable_of_optional hframe)⟩

theorem sound_over {o : OverClause} (h : OverClause.ofStructure j = .ok o) : Sound .«over» j := by
  simp only [OverClause.ofStructure, Decoded.bind_eq_ok, object_eq_ok] at h
  obtain ⟨fields, rfl, hclause⟩ := h
  refine .of_object (List.forall_mem_nil _) ?_
  simpa using accepted_of_ofFields hclause

theorem sound_window {w : WindowSpec} (h : WindowSpec.ofStructure j = .ok w) :
    Sound .window j := by
  simp only [WindowSpec.ofStructure, Decoded.bind_eq_ok, object_eq_ok] at h
  obtain ⟨fields, rfl, function, hfunction, field, -, label, hlabel, clause, hclause, -⟩ := h
  refine .of_object ?_ ?_
  · simp [isSome_of_required hfunction, isSome_of_required hlabel]
  · simpa using accepted_of_ofFields hclause

theorem sound_advancedWindow {a : AdvancedWindowSpec}
    (h : AdvancedWindowSpec.ofStructure j = .ok a) : Sound .advancedWindow j := by
  simp only [AdvancedWindowSpec.ofStructure, Decoded.bind_eq_ok, object_eq_ok] at h
  obtain ⟨fields, rfl, clause, hclause, function, hfunction, field, -, label, hlabel, args, -,
    filters, hfilters, -⟩ := h
  refine .of_object ?_ ?_
  · simp [isSome_of_required hfunction, isSome_of_required hlabel]
  · have hover := accepted_one (k := .«over») (readable_of_orElse hclause)
    have hfilter := accepted_each (k := .predicate) (readable_of_orElse hfilters)
    simpa using ⟨hover, hfilter⟩

theorem sound_cte {c : Cte QueryParams} (h : Cte.ofStructure j = .ok c) : Sound .cte j := by
  simp only [Cte.ofStructure, Cte.ofStructureWith, Decoded.bind_eq_ok, object_eq_ok] at h
  obtain ⟨fields, rfl, name, hname, table, -, query, hquery, -⟩ := h
  refine .of_object ?_ ?_
  · simp [isSome_of_required hname, isSome_of_required hquery]
  · have hparams := accepted_one (k := .params) (readable_of_required hquery)
    simpa using hparams

theorem sound_recursiveCte {c : RecursiveCte QueryParams}
    (h : RecursiveCte.ofStructure j = .ok c) : Sound .recursiveCte j := by
  simp only [RecursiveCte.ofStructure, RecursiveCte.ofStructureWith, Decoded.bind_eq_ok,
    object_eq_ok] at h
  obtain ⟨fields, rfl, name, hname, initial, hinitial, initialTable, -, recursive, hrecursive,
    -⟩ := h
  refine .of_object ?_ ?_
  · simp [isSome_of_required hname, isSome_of_required hinitial,
      isSome_of_required hrecursive]
  · have hfirst := accepted_one (k := .params) (readable_of_required hinitial)
    have hnext := accepted_one (k := .params) (readable_of_required hrecursive)
    simpa using ⟨hfirst, hnext⟩

theorem sound_raw {r : RawExpression} (h : RawExpression.ofStructure j = .ok r) :
    Sound .raw j := by
  simp only [RawExpression.ofStructure, Decoded.bind_eq_ok, object_eq_ok] at h
  obtain ⟨fields, rfl, expression, hexpression, -⟩ := h
  refine .of_object ?_ (List.forall_mem_nil _)
  simp [isSome_of_required hexpression]

theorem sound_pivot {p : PivotSpec} (h : PivotSpec.ofStructure j = .ok p) : Sound .pivot j := by
  simp only [PivotSpec.ofStructure, Decoded.bind_eq_ok, object_eq_ok] at h
  obtain ⟨fields, rfl, column, hcolumn, values, hvalues, aggregate, haggregate, -⟩ := h
  refine .of_object ?_ ?_
  · simp [isSome_of_required hcolumn, isSome_of_required hvalues,
      isSome_of_required haggregate]
  · have hmember := accepted_one (k := .aggregate) (readable_of_required haggregate)
    simpa using hmember

theorem sound_transform {t : TransformSpec} (h : TransformSpec.ofStructure j = .ok t) :
    Sound .transform j := by
  simp only [TransformSpec.ofStructure, Decoded.bind_eq_ok, object_eq_ok] at h
  obtain ⟨fields, rfl, compute, -, groupBy, -, pivot, hpivot, -⟩ := h
  refine .of_object (List.forall_mem_nil _) ?_
  have hmember := accepted_one (k := .pivot) (readable_of_optional hpivot)
  simpa using hmember

theorem sound_params {p : QueryParams} (h : QueryParams.ofStructure j = .ok p) :
    Sound .params j := by
  rw [QueryParams.ofStructure_eq] at h
  simp only [QueryParams.layer, Decoded.bind_eq_ok, object_eq_ok] at h
  obtain ⟨fields, rfl, hfields⟩ := h
  have hslots := QueryParams.ofFieldsWith_eq_ok.1 hfields
  refine .of_object (List.forall_mem_nil _) ?_
  simp only [members, List.forall_mem_cons, List.not_mem_nil, false_imp_iff, implies_true,
    and_true]
  exact
    ⟨accepted_each (readable_of_optional hslots.predicates),
      accepted_each (readable_of_optional hslots.ranges),
      accepted_each (readable_of_optional hslots.oneOf),
      accepted_each (readable_of_optional hslots.noneOf),
      accepted_each (readable_of_optional hslots.nullness),
      accepted_each (readable_of_optional hslots.subqueries),
      accepted_each (readable_of_optional hslots.groups),
      accepted_each (readable_of_optional hslots.orderBy),
      accepted_each (readable_of_optional hslots.having),
      accepted_each (readable_of_optional hslots.aggregates),
      accepted_each (readable_of_optional hslots.windows),
      accepted_each (readable_of_optional hslots.advancedWindows),
      accepted_each (readable_of_optional hslots.ctes),
      accepted_each (readable_of_optional hslots.recursiveCtes),
      accepted_each (readable_of_optional hslots.raw),
      accepted_one (readable_of_optional hslots.transform),
      accepted_one (readable_of_optional hslots.explain)⟩

theorem sound_response {r : Response} (h : Response.ofStructure j = .ok r) :
    Sound .response j := by
  refine .of_present (List.forall_mem_nil _) ?_
  cases j with
  | object fields =>
      simp only [Response.ofStructure, Response.ofFields, Decoded.bind_eq_ok, object_eq_ok] at h
      obtain ⟨_, ⟨⟩, data, -, params, hparams, -⟩ := h
      have hmember := accepted_one (k := .params) (readable_of_optional hparams)
      simpa using hmember
  | _ =>
      rintro m hm i (⟨⟨⟩⟩ | ⟨⟨⟩, _⟩)

theorem sound {k : StructureKind} (h : k.Accepts j) : Sound k j := by
  obtain ⟨a, ha⟩ := h
  cases k with
  | predicate => exact sound_predicate ha
  | range => exact sound_range ha
  | set => exact sound_set ha
  | nullness => exact sound_nullness ha
  | having => exact sound_having ha
  | group => exact sound_group ha
  | join => exact sound_join ha
  | subquery => exact sound_subquery ha
  | order => exact sound_order ha
  | aggregate => exact sound_aggregate ha
  | frame => exact sound_frame ha
  | «over» => exact sound_over ha
  | window => exact sound_window ha
  | advancedWindow => exact sound_advancedWindow ha
  | cte => exact sound_cte ha
  | recursiveCte => exact sound_recursiveCte ha
  | raw => exact sound_raw ha
  | pivot => exact sound_pivot ha
  | transform => exact sound_transform ha
  | params => exact sound_params ha
  | response => exact sound_response ha
  | _ => exact ⟨List.forall_mem_nil _, List.forall_mem_nil _⟩

end Clauses

theorem decode_condition {j : Json} {c : Condition} (h : Condition.ofStructure j = .ok c) :
    ((j.member? "conditions").isSome = true →
      ∃ g, BooleanGroup.ofStructure j = .ok g ∧ g.toCondition = c) ∧
    (j.member? "conditions" = none → ∃ p, Predicate.ofStructure j = .ok p ∧ .predicate p = c) := by
  simp only [Condition.ofStructure_eq, Condition.layer, Decoded.bind_eq_ok, object_eq_ok] at h
  obtain ⟨fields, rfl, hcase⟩ := h
  simp only [Json.member?]
  split at hcase
  · rename_i hhas
    obtain ⟨g, hg, hc⟩ := Decoded.bind_eq_ok.1 hcase
    refine ⟨fun _ => ⟨g, hg, Except.ok.inj hc⟩, fun hnone => ?_⟩
    simp [Fields.has, hnone] at hhas
  · rename_i hhas
    obtain ⟨p, hp, hc⟩ := Decoded.bind_eq_ok.1 hcase
    exact ⟨fun hsome => absurd hsome hhas, fun _ => ⟨p, hp, Except.ok.inj hc⟩⟩

theorem accepts_of_condition {j : Json} (h : Accepts .condition j) :
    ((j.member? "conditions").isSome = true → Accepts .group j) ∧
      (j.member? "conditions" = none → Accepts .predicate j) := by
  obtain ⟨c, hc⟩ := h
  obtain ⟨hgroup, hpredicate⟩ := decode_condition hc
  constructor
  · intro hsome
    obtain ⟨g, hg, -⟩ := hgroup hsome
    exact ⟨g, hg⟩
  · intro hnone
    obtain ⟨p, hp, -⟩ := hpredicate hnone
    exact ⟨p, hp⟩

theorem accepts_of_holds {s t : StructureKind × Json} (h : Holds s t) (hs : s.1.Accepts s.2) :
    t.1.Accepts t.2 := by
  cases h with
  | member hm hreach => exact (sound hs).accepted _ hm _ hreach
  | group hsome => exact (accepts_of_condition hs).1 hsome
  | predicate hnone => exact (accepts_of_condition hs).2 hnone

theorem accepts_of_part {s t : StructureKind × Json} (h : Part s t) (hs : s.1.Accepts s.2) :
    t.1.Accepts t.2 := by
  induction h with
  | refl => exact hs
  | tail _ hstep ih => exact accepts_of_holds hstep ih

section Comparand

variable {j : Json} {operator : Operator}

theorem predicate_missing_value
    (hoperator : j.member? "operator" = some (Token.toStructure operator))
    (hrequires : operator.requiresValue = true) (hnone : j.member? "value" = none) :
    Predicate.ofStructure j = .error missingValue := by
  cases j with
  | object fields =>
      simp only [Json.member?] at hoperator hnone
      simp [Predicate.ofStructure, Predicate.readValue, required, hoperator, hnone, hrequires,
        missingValue]
  | _ => cases hoperator

theorem having_missing_value {field : String} (hfield : j.member? "field" = some (.str field))
    (hoperator : j.member? "operator" = some (Token.toStructure operator))
    (hnone : j.member? "value" = none) :
    HavingClause.ofStructure j = .ok ⟨field, operator, .null⟩ := by
  cases j with
  | object fields =>
      simp only [Json.member?] at hfield hoperator hnone
      simp [HavingClause.ofStructure, required, orElse, hfield, hoperator, hnone]
  | _ => cases hoperator

end Comparand

theorem isSome_of_requires {k : StructureKind} {j : Json} {key : String} (hj : k.Accepts j)
    (h : Requires j k key) : (j.member? key).isSome = true ∨ Defaulted k key := by
  cases h with
  | key hkey => exact (sound hj).present key hkey
  | comparand hoperator hrequires =>
      left
      rw [Option.isSome_iff_ne_none]
      intro hnone
      obtain ⟨p, hp⟩ := hj
      have hmissing := predicate_missing_value hoperator hrequires hnone
      exact nomatch hmissing.symm.trans hp

theorem required_keys_present (k : StructureKind) (j : Json) :
    (∀ a, k.decode j = .ok a → ∀ l i, Part (k, j) (l, i) → ∀ key, Requires i l key →
      (i.member? key).isSome = true ∨ l = .having ∧ key = "value") ∧
    ∀ operator : Operator, j.member? "operator" = some (Token.toStructure operator) →
      j.member? "value" = none →
      (operator.requiresValue = true →
        decode .predicate j = .error (.missingKey "predicate" "value")) ∧
      ∀ field, j.member? "field" = some (.str field) →
        decode .having j = .ok ⟨field, operator, .null⟩ := by
  constructor
  · intro a ha l i hpart key hkey
    exact isSome_of_requires (accepts_of_part hpart ⟨a, ha⟩) hkey
  · intro operator hoperator hnone
    exact ⟨fun hrequires => predicate_missing_value hoperator hrequires hnone,
      fun field hfield => having_missing_value hfield hoperator hnone⟩

def minors : Json :=
  .object [("field", .str "age"), ("operator", .str "<"), ("value", .unsigned 18)]

def minorsGroup : Json := .object [("conditions", .list [minors]), ("type", .str "AND")]

def minorsQuery : Json := .object [("whereGroups", .list [minorsGroup])]

def minorsCte : Json := .object [("name", .str "minors"), ("query", minorsQuery)]

def withMinors : Json := .object [("with", .list [minorsCte])]

theorem part_minors : Part (.params, withMinors) (.predicate, minors) := by
  refine .head (.member (m := ⟨"with", .each, .cte⟩) (by decide) (.each rfl (.head _))) ?_
  refine .head (.member (m := ⟨"query", .one, .params⟩) (by decide) (.one rfl)) ?_
  refine .head (.member (m := ⟨"whereGroups", .each, .group⟩) (by decide) (.each rfl (.head _))) ?_
  refine .head
    (.member (m := ⟨"conditions", .each, .condition⟩) (by decide) (.each rfl (.head _))) ?_
  exact .single (.predicate rfl)

def truncated : Json := .object [("field", .str "total"), ("operator", .str ">")]

theorem required_keys_present_minors : Accepts .params withMinors ∧
    Requires minors .predicate "value" ∧ (minors.member? "value").isSome = true ∧
      decode .predicate truncated = .error (.missingKey "predicate" "value") := by
  have hless : minors.member? "operator" = some (Token.toStructure Operator.less) := rfl
  have hrequires : Requires minors .predicate "value" := .comparand hless rfl
  have h : decode .params withMinors = .ok _ := rfl
  refine ⟨⟨_, h⟩, hrequires, ?_, ?_⟩
  · rcases (required_keys_present _ _).1 _ h _ _ part_minors _ hrequires with hvalue | ⟨⟨⟩, _⟩
    exact hvalue
  · exact ((required_keys_present .predicate truncated).2 .greater rfl rfl).1 rfl

theorem truncated_compares_with_null :
    let params : Json := .object [("having", .list [truncated])]
    Part (.params, params) (.having, truncated) ∧ Requires truncated .having "value" ∧
      truncated.member? "value" = none ∧
      decode .params params = .ok { having := some [⟨"total", .greater, .null⟩] } ∧
      decode .predicate truncated = .error (.missingKey "predicate" "value") := by
  refine ⟨?_, .key (by decide), rfl, rfl, rfl⟩
  exact .single (.member (m := ⟨"having", .each, .having⟩) (by decide) (.each rfl (.head _)))

end StructureKind

end RemoteQuery
