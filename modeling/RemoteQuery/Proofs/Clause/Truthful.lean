import RemoteQuery.Clause.Aggregate
import RemoteQuery.Clause.Embedded
import RemoteQuery.Clause.Explain
import RemoteQuery.Clause.Group
import RemoteQuery.Clause.Raw
import RemoteQuery.Clause.Window
import RemoteQuery.Proofs.Wire.Truthful

namespace RemoteQuery

open Truthful

theorem FrameBound.truthful (j : Json) : Truthful j (ofStructure j) := by
  cases j with
  | str s =>
      rw [ofStructure, parse]
      split
      · exact ok _
      · exact error (.unknownToken _ (.refl _))
  | _ => exact error (.notToken _ (.refl _) (by rintro s ⟨⟩))

theorem FrameSpec.truthful (j : Json) : Truthful j (ofStructure j) := by
  refine object fun fields _ => ?_
  refine (ofRequired fun k _ => token k).bind fun mode => ?_
  refine (ofRequired fun k _ => FrameBound.truthful k).bind fun start => ?_
  exact (ofOptional fun k _ => FrameBound.truthful k).bind fun stop => ok _

theorem OrderSpec.truthful (j : Json) : Truthful j (ofStructure j) := by
  refine object fun fields _ => ?_
  refine (ofRequired fun k _ => string k).bind fun field => ?_
  refine (ofOrElse fun k _ => token k).bind fun direction => ?_
  exact (ofOptional fun k _ => token k).bind fun nulls => ok _

namespace OverClause

theorem truthful_ofFields (context : String) (fields : Fields Json) :
    Truthful (.object fields) (ofFields context fields) := by
  refine (ofOrElse fun k _ => strings k).bind fun partitionBy => ?_
  refine (ofOrElse fun k _ => listOf fun i _ => OrderSpec.truthful i).bind fun orderBy => ?_
  exact (ofOptional fun k _ => FrameSpec.truthful k).bind fun frame => ok _

theorem truthful (j : Json) : Truthful j (ofStructure j) :=
  object fun fields _ => truthful_ofFields "over clause" fields

end OverClause

namespace Predicate

theorem truthful_readValue (operator : Operator) (fields : Fields Json) :
    Truthful (.object fields) (readValue operator fields) := by
  rw [readValue]
  split
  · exact ok _
  · rename_i hnone
    split
    · exact error (.missingKey "predicate" (.refl _) hnone)
    · exact ok none

theorem truthful (j : Json) : Truthful j (ofStructure j) := by
  refine object fun fields _ => ?_
  refine (ofRequired fun k _ => token k).bind fun operator => ?_
  refine (truthful_readValue operator fields).bind fun value => ?_
  refine (ofRequired fun k _ => string k).bind fun field => ?_
  exact (ofOptional fun k _ => token k).bind fun combinator => ok _

end Predicate

namespace RangeClause

theorem truthful_readBounds (j : Json) : Truthful j (readBounds j) := by
  refine (values j).bind fun bounds => ?_
  split
  · exact ok _
  · exact error (.wrongType "range clause" "exactly two bounds" (.refl j))

theorem truthful (j : Json) : Truthful j (ofStructure j) := by
  refine object fun fields _ => ?_
  refine (ofRequired fun k _ => truthful_readBounds k).bind fun bounds => ?_
  exact (ofRequired fun k _ => string k).bind fun field => ok _

end RangeClause

theorem SetClause.truthful (j : Json) : Truthful j (ofStructure j) := by
  refine object fun fields _ => ?_
  refine (ofRequired fun k _ => string k).bind fun field => ?_
  exact (ofRequired fun k _ => Truthful.values k).bind fun values => ok _

theorem NullnessClause.truthful (j : Json) : Truthful j (ofStructure j) := by
  refine object fun fields _ => ?_
  refine (ofRequired fun k _ => bool k).bind fun isNull => ?_
  exact (ofRequired fun k _ => string k).bind fun field => ok _

theorem HavingClause.truthful (j : Json) : Truthful j (ofStructure j) := by
  refine object fun fields _ => ?_
  refine (ofRequired fun k _ => string k).bind fun field => ?_
  refine (ofRequired fun k _ => token k).bind fun operator => ?_
  exact (ofOrElse fun k _ => ok _).bind fun value => ok _

theorem AggregateSpec.truthful (j : Json) : Truthful j (ofStructure j) := by
  refine object fun fields _ => ?_
  refine (ofRequired fun k _ => token k).bind fun function => ?_
  refine (ofRequired fun k _ => string k).bind fun field => ?_
  exact (ofOptional fun k _ => string k).bind fun label => ok _

theorem PivotSpec.truthful (j : Json) : Truthful j (ofStructure j) := by
  refine object fun fields _ => ?_
  refine (ofRequired fun k _ => string k).bind fun column => ?_
  refine (ofRequired fun k _ => Truthful.values k).bind fun values => ?_
  exact (ofRequired fun k _ => AggregateSpec.truthful k).bind fun aggregate => ok _

namespace TransformSpec

theorem truthful_readExpression {fields : Fields Json} {entry : String × Json}
    (h : entry ∈ fields) : Truthful (.object fields) (readExpression entry) := by
  obtain ⟨name, j⟩ := entry
  cases j with
  | str expression => exact ok _
  | _ => exact error (.wrongType "transform spec" "an expression string" (.field h (.refl _)))

theorem truthful_readComputed (j : Json) : Truthful j (readComputed j) :=
  object fun _ _ => readAll fun _ hentry => truthful_readExpression hentry

theorem truthful (j : Json) : Truthful j (ofStructure j) := by
  refine object fun fields _ => ?_
  refine (ofOptional fun k _ => truthful_readComputed k).bind fun compute => ?_
  refine (ofOptional fun k _ => strings k).bind fun groupBy => ?_
  refine (ofOptional fun k _ => PivotSpec.truthful k).bind fun pivot => ?_
  refine (ofOptional fun k _ => bool k).bind fun flatten => ?_
  exact (ofOptional fun k _ => strings k).bind fun select => ok _

end TransformSpec

theorem ExplainOptions.truthful (j : Json) : Truthful j (ofStructure j) := by
  refine object fun fields _ => ?_
  refine (ofOptional fun k _ => bool k).bind fun analyze => ?_
  refine (ofOptional fun k _ => bool k).bind fun verbose => ?_
  refine (ofOptional fun k _ => bool k).bind fun costs => ?_
  refine (ofOptional fun k _ => bool k).bind fun buffers => ?_
  exact (ofOptional fun k _ => token k).bind fun format => ok _

theorem RawExpression.truthful (j : Json) : Truthful j (ofStructure j) := by
  refine object fun fields _ => ?_
  refine (ofRequired fun k _ => string k).bind fun expression => ?_
  exact (ofOrElse fun k _ => values k).bind fun bindings => ok _

theorem WindowSpec.truthful (j : Json) : Truthful j (ofStructure j) := by
  refine object fun fields _ => ?_
  refine (ofRequired fun k _ => token k).bind fun function => ?_
  refine (ofOptional fun k _ => string k).bind fun field => ?_
  refine (ofRequired fun k _ => string k).bind fun label => ?_
  refine (OverClause.truthful_ofFields "window spec" fields).bind fun clause => ?_
  exact (ofOrElse fun k _ => values k).bind fun args => ok _

theorem AdvancedWindowSpec.truthful (j : Json) : Truthful j (ofStructure j) := by
  refine object fun fields _ => ?_
  refine (ofOrElse fun k _ => OverClause.truthful k).bind fun clause => ?_
  refine (ofRequired fun k _ => token k).bind fun function => ?_
  refine (ofOptional fun k _ => string k).bind fun field => ?_
  refine (ofRequired fun k _ => string k).bind fun label => ?_
  refine (ofOrElse fun k _ => values k).bind fun args => ?_
  exact (ofOrElse fun k _ => listOf fun i _ => Predicate.truthful i).bind fun filters => ok _

theorem JoinCondition.truthful (j : Json) : Truthful j (ofStructure j) := by
  refine object fun fields _ => ?_
  refine (ofRequired fun k _ => string k).bind fun left => ?_
  refine (ofRequired fun k _ => token k).bind fun operator => ?_
  exact (ofRequired fun k _ => string k).bind fun right => ok _

section Within

variable {Q : Type} {read : Json → Decoded Q} {j : Json}

theorem BooleanGroup.truthfulWith {read : Json → Decoded Condition}
    (h : ∀ k : Json, k.depth < j.depth → Truthful k (read k)) :
    Truthful j (ofStructureWith read j) := by
  refine object fun fields hj => ?_
  refine (ofRequired fun k _ => token k).bind fun combinator => ?_
  refine (ofRequired fun k hk => listOf fun i hi => ?_).bind fun conditions => ok _
  rw [hj] at h
  exact h i (Nat.lt_trans hi (Json.depth_lt_of_get? hk))

theorem Subquery.truthfulWith (h : ∀ k : Json, k.depth < j.depth → Truthful k (read k)) :
    Truthful j (ofStructureWith read j) := by
  refine object fun fields hj => ?_
  rw [hj] at h
  refine (ofRequired fun k _ => string k).bind fun table => ?_
  refine (ofRequired fun k hk => h k (Json.depth_lt_of_get? hk)).bind fun query => ?_
  refine (ofOptional fun k _ => JoinCondition.truthful k).bind fun on => ?_
  exact (ofOrElse fun k _ => bool k).bind fun negated => ok _

theorem Cte.truthfulWith (h : ∀ k : Json, k.depth < j.depth → Truthful k (read k)) :
    Truthful j (ofStructureWith read j) := by
  refine object fun fields hj => ?_
  rw [hj] at h
  refine (ofRequired fun k _ => string k).bind fun name => ?_
  refine (ofOptional fun k _ => string k).bind fun table => ?_
  refine (ofRequired fun k hk => h k (Json.depth_lt_of_get? hk)).bind fun query => ?_
  exact (ofOptional fun k _ => strings k).bind fun columns => ok _

theorem RecursiveCte.truthfulWith (h : ∀ k : Json, k.depth < j.depth → Truthful k (read k)) :
    Truthful j (ofStructureWith read j) := by
  refine object fun fields hj => ?_
  rw [hj] at h
  refine (ofRequired fun k _ => string k).bind fun name => ?_
  refine (ofRequired fun k hk => h k (Json.depth_lt_of_get? hk)).bind fun initial => ?_
  refine (ofOptional fun k _ => string k).bind fun initialTable => ?_
  refine (ofRequired fun k hk => h k (Json.depth_lt_of_get? hk)).bind fun recursive => ?_
  refine (ofOptional fun k _ => string k).bind fun recursiveTable => ?_
  refine (ofOrElse fun k _ => bool k).bind fun unionAll => ?_
  exact (ofOptional fun k _ => strings k).bind fun columns => ok _

end Within

theorem Condition.truthful (j : Json) : Truthful j (ofStructure j) := by
  refine Json.descend_induction (motive := Truthful) layer_local (fun j ih => ?_) j
  have hgroup : Truthful j (BooleanGroup.ofStructureWith ofStructure j) :=
    BooleanGroup.truthfulWith ih
  rw [layer]
  refine object fun fields hj => ?_
  rw [← hj]
  split
  · exact hgroup.bind fun group => ok _
  · exact (Predicate.truthful j).bind fun p => ok _

theorem BooleanGroup.truthful (j : Json) : Truthful j (ofStructure j) :=
  truthfulWith fun k _ => Condition.truthful k

end RemoteQuery
