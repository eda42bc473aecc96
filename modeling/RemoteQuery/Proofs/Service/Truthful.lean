import RemoteQuery.Proofs.Clause.Truthful
import RemoteQuery.Service.Kind

namespace RemoteQuery

open Truthful

namespace QueryParams

theorem truthful_slotOf {α : Type} {fields : Fields Json} {key : String} {read : Json → Decoded α}
    (h : ∀ k : Json, k.depth < (Json.object fields).depth → Truthful k (read k)) :
    Truthful (.object fields) (slotOf fields key read) :=
  ofOptional fun _ hk => listOf fun i hi => h i (Nat.lt_trans hi (Json.depth_lt_of_get? hk))

theorem truthful_ofFieldsWith {read : Json → Decoded QueryParams} {fields : Fields Json}
    (h : ∀ k : Json, k.depth < (Json.object fields).depth → Truthful k (read k)) :
    Truthful (.object fields) (ofFieldsWith read fields) := by
  have hwithin : ∀ k : Json, k.depth < (Json.object fields).depth →
      ∀ i : Json, i.depth < k.depth → Truthful i (read i) :=
    fun k hk i hi => h i (Nat.lt_trans hi hk)
  refine (ofOptional fun k _ => valueMap k).bind fun filter => ?_
  refine (truthful_slotOf fun k _ => Predicate.truthful k).bind fun predicates => ?_
  refine (truthful_slotOf fun k _ => RangeClause.truthful k).bind fun ranges => ?_
  refine (truthful_slotOf fun k _ => SetClause.truthful k).bind fun oneOf => ?_
  refine (truthful_slotOf fun k _ => SetClause.truthful k).bind fun noneOf => ?_
  refine (truthful_slotOf fun k _ => NullnessClause.truthful k).bind fun nullness => ?_
  refine (truthful_slotOf fun k hk => Subquery.truthfulWith (hwithin k hk)).bind
    fun subqueries => ?_
  refine (truthful_slotOf fun k _ => BooleanGroup.truthful k).bind fun groups => ?_
  refine (truthful_slotOf fun k _ => OrderSpec.truthful k).bind fun orderBy => ?_
  refine (ofOptional fun k _ => strings k).bind fun groupBy => ?_
  refine (truthful_slotOf fun k _ => HavingClause.truthful k).bind fun having => ?_
  refine (truthful_slotOf fun k _ => AggregateSpec.truthful k).bind fun aggregates => ?_
  refine (truthful_slotOf fun k _ => WindowSpec.truthful k).bind fun windows => ?_
  refine (truthful_slotOf fun k _ => AdvancedWindowSpec.truthful k).bind fun advancedWindows => ?_
  refine (truthful_slotOf fun k hk => Cte.truthfulWith (hwithin k hk)).bind fun ctes => ?_
  refine (truthful_slotOf fun k hk => RecursiveCte.truthfulWith (hwithin k hk)).bind
    fun recursiveCtes => ?_
  refine (truthful_slotOf fun k _ => RawExpression.truthful k).bind fun raw => ?_
  refine (ofOptional fun k _ => TransformSpec.truthful k).bind fun transform => ?_
  refine (ofOptional fun k _ => strings k).bind fun select => ?_
  refine (ofOptional fun k _ => unsigned k).bind fun limit => ?_
  refine (ofOptional fun k _ => unsigned k).bind fun offset => ?_
  exact (ofOptional fun k _ => ExplainOptions.truthful k).bind fun explain => ok _

theorem truthful (j : Json) : Truthful j (ofStructure j) := by
  refine Json.descend_induction (motive := Truthful) layer_local (fun j ih => ?_) j
  refine object fun fields hj => ?_
  rw [hj] at ih
  exact truthful_ofFieldsWith ih

end QueryParams

namespace Response

theorem truthful_readRows (j : Json) : Truthful j (readRows j) := by
  cases j with
  | null => exact ok []
  | _ => exact listOf fun k _ => valueMap k

theorem truthful_ofFields (fields : Fields Json) : Truthful (.object fields) (ofFields fields) := by
  refine (ofOrElse fun k _ => truthful_readRows k).bind fun data => ?_
  refine (ofOptional fun k _ => QueryParams.truthful k).bind fun params => ?_
  refine (ofOptional fun k _ => string k).bind fun message => ?_
  refine (ofOptional fun k _ => string k).bind fun error => ?_
  exact (ofOptional fun k _ => int64 k).bind fun id => ok _

theorem truthful (j : Json) : Truthful j (ofStructure j) := by
  cases j with
  | null => exact ok _
  | _ => exact object fun fields _ => truthful_ofFields fields

end Response

namespace StructureKind

theorem truthful (k : StructureKind) (j : Json) : Truthful j (k.decode j) := by
  cases k with
  | operator | combinator | direction | nulls | aggregateFunction | windowFunction | frameMode
  | explainFormat => exact token j
  | frameBound => exact FrameBound.truthful j
  | predicate => exact Predicate.truthful j
  | range => exact RangeClause.truthful j
  | set => exact SetClause.truthful j
  | nullness => exact NullnessClause.truthful j
  | having => exact HavingClause.truthful j
  | condition => exact Condition.truthful j
  | group => exact BooleanGroup.truthful j
  | join => exact JoinCondition.truthful j
  | subquery => exact Subquery.truthfulWith fun k _ => QueryParams.truthful k
  | order => exact OrderSpec.truthful j
  | aggregate => exact AggregateSpec.truthful j
  | frame => exact FrameSpec.truthful j
  | «over» => exact OverClause.truthful j
  | window => exact WindowSpec.truthful j
  | advancedWindow => exact AdvancedWindowSpec.truthful j
  | cte => exact Cte.truthfulWith fun k _ => QueryParams.truthful k
  | recursiveCte => exact RecursiveCte.truthfulWith fun k _ => QueryParams.truthful k
  | raw => exact RawExpression.truthful j
  | pivot => exact PivotSpec.truthful j
  | transform => exact TransformSpec.truthful j
  | explain => exact ExplainOptions.truthful j
  | params => exact QueryParams.truthful j
  | response => exact Response.truthful j

theorem decode_error_in_value {k : StructureKind} {j : Json} {e : FormatError}
    (h : k.decode j = .error e) :
    (∃ context expected found, e = .wrongType context expected found ∧ Json.Within found j ∧
      e.value = found.text) ∨
    (∃ kind found, e = .unknownToken kind found.text ∧ Json.Within found j ∧
      (∀ s, found ≠ .str s) ∧ e.value = found.text) ∨
    (∃ kind s, e = .unknownToken kind s ∧ Json.Within (.str s) j ∧ e.value = s) ∨
    ∃ context key fields, e = .missingKey context key ∧ Json.Within (.object fields) j ∧
      Fields.get? fields key = none ∧ e.value = key := by
  have hnames := k.truthful j e h
  cases hnames with
  | wrongType context expected hfound => exact .inl ⟨_, _, _, rfl, hfound, rfl⟩
  | notToken kind hfound hne => exact .inr (.inl ⟨_, _, rfl, hfound, hne, rfl⟩)
  | unknownToken kind hfound => exact .inr (.inr (.inl ⟨_, _, rfl, hfound, rfl⟩))
  | missingKey context hfields hnone =>
      exact .inr (.inr (.inr ⟨_, _, _, rfl, hfields, hnone, rfl⟩))

def incomparable : Json :=
  .object [("with", .list [.object [("name", .str "top"), ("query", .object [("whereGroups", .list
    [.object [("conditions", .list [.object [("field", .str "age"), ("operator", .str "<")]]),
      ("type", .str "AND")]])])]])]

theorem decode_error_in_value_incomparable :
    decode .params incomparable = .error (.missingKey "predicate" "value") ∧
      ∃ fields, Json.Within (.object fields) incomparable ∧ Fields.get? fields "value" = none := by
  have h : decode .params incomparable = .error (.missingKey "predicate" "value") := rfl
  refine ⟨h, ?_⟩
  rcases decode_error_in_value h with
    ⟨_, _, _, ⟨⟩, _⟩ | ⟨_, _, ⟨⟩, _⟩ | ⟨_, _, ⟨⟩, _⟩ | ⟨_, _, fields, ⟨⟩, hfields, hnone, _⟩
  exact ⟨fields, hfields, hnone⟩

end StructureKind

end RemoteQuery
