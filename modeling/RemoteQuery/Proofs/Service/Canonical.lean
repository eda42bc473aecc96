import RemoteQuery.Service.Kind
import RemoteQuery.Proofs.Service.Response

namespace RemoteQuery.StructureKind

def Legal : (k : StructureKind) → k.Carrier → Prop
  | .predicate, p => Predicate.Complete p
  | .condition, c => Condition.Complete c
  | .group, g => BooleanGroup.Complete g
  | .subquery, s => QueryParams.Complete (Subquery.query s)
  | .advancedWindow, w => AdvancedWindowSpec.Complete w
  | .cte, c => QueryParams.Complete (Cte.query c)
  | .recursiveCte, c =>
      QueryParams.Complete (RecursiveCte.initial c) ∧ QueryParams.Complete (RecursiveCte.recursive c)
  | .params, p => QueryParams.Complete p
  | .response, r => Response.Complete r
  | _, _ => True

theorem accepted (k : StructureKind) (a : k.Carrier) :
    AcceptedIf (k.Legal a) a (k.decode (k.encode a)) := by
  cases k with
  | operator => exact .of_ok (Wire.ofStructure_toStructure_token (α := Operator) a)
  | combinator => exact .of_ok (Wire.ofStructure_toStructure_token (α := Combinator) a)
  | direction => exact .of_ok (Wire.ofStructure_toStructure_token (α := Direction) a)
  | nulls => exact .of_ok (Wire.ofStructure_toStructure_token (α := NullsPlacement) a)
  | aggregateFunction =>
      exact .of_ok (Wire.ofStructure_toStructure_token (α := AggregateFunction) a)
  | windowFunction => exact .of_ok (Wire.ofStructure_toStructure_token (α := WindowFunction) a)
  | frameMode => exact .of_ok (Wire.ofStructure_toStructure_token (α := FrameMode) a)
  | explainFormat => exact .of_ok (Wire.ofStructure_toStructure_token (α := ExplainFormat) a)
  | frameBound => exact .of_ok (FrameBound.ofStructure_toStructure a)
  | predicate => exact Predicate.accepted a
  | range => exact .of_ok (RangeClause.ofStructure_toStructure a)
  | set => exact .of_ok (SetClause.ofStructure_toStructure a)
  | nullness => exact .of_ok (NullnessClause.ofStructure_toStructure a)
  | having => exact .of_ok (HavingClause.ofStructure_toStructure a)
  | condition => exact Condition.accepted a
  | group => exact BooleanGroup.accepted a
  | join => exact .of_ok (JoinCondition.ofStructure_toStructure a)
  | subquery => exact Subquery.acceptedWith (QueryParams.accepted _)
  | order => exact .of_ok (OrderSpec.ofStructure_toStructure a)
  | aggregate => exact .of_ok (AggregateSpec.ofStructure_toStructure a)
  | frame => exact .of_ok (FrameSpec.ofStructure_toStructure a)
  | «over» => exact .of_ok (OverClause.ofStructure_toStructure a)
  | window => exact .of_ok (WindowSpec.ofStructure_toStructure a)
  | advancedWindow => exact AdvancedWindowSpec.accepted a
  | cte => exact Cte.acceptedWith (QueryParams.accepted _)
  | recursiveCte => exact RecursiveCte.acceptedWith (QueryParams.accepted _) (QueryParams.accepted _)
  | raw => exact .of_ok (RawExpression.ofStructure_toStructure a)
  | pivot => exact .of_ok (PivotSpec.ofStructure_toStructure a)
  | transform => exact .of_ok (TransformSpec.ofStructure_toStructure a)
  | explain => exact .of_ok (ExplainOptions.ofStructure_toStructure a)
  | params => exact QueryParams.accepted a
  | response => exact Response.accepted a

theorem legal_of_decode {k : StructureKind} {j : Json} {a : k.Carrier} (h : k.decode j = .ok a) :
    k.Legal a := by
  cases k with
  | predicate => exact Predicate.complete_of_ofStructure h
  | condition => exact Condition.complete_of_ofStructure h
  | group => exact BooleanGroup.complete_of_ofStructure h
  | subquery =>
      obtain ⟨k, _, hk⟩ := Subquery.exists_of_ofStructureWith h
      exact QueryParams.complete_of_ofStructure hk
  | advancedWindow => exact AdvancedWindowSpec.complete_of_ofStructure h
  | cte =>
      obtain ⟨k, _, hk⟩ := Cte.exists_of_ofStructureWith h
      exact QueryParams.complete_of_ofStructure hk
  | recursiveCte =>
      obtain ⟨⟨i, _, hi⟩, ⟨r, _, hr⟩⟩ := RecursiveCte.exists_of_ofStructureWith h
      exact ⟨QueryParams.complete_of_ofStructure hi, QueryParams.complete_of_ofStructure hr⟩
  | params => exact QueryParams.complete_of_ofStructure h
  | response => exact Response.complete_of_ofStructure h
  | _ => trivial

def canonical (k : StructureKind) (j : Json) : Decoded Json := (k.decode j).map k.encode

theorem canonical_stable (k : StructureKind) (j : Json) :
    (∀ a, k.decode j = .ok a → k.decode (k.encode a) = .ok a) ∧
      (k.canonical j >>= k.canonical) = k.canonical j := by
  have hstable : ∀ a, k.decode j = .ok a → k.decode (k.encode a) = .ok a :=
    fun a h => (k.accepted a).accepts (legal_of_decode h)
  refine ⟨hstable, ?_⟩
  cases h : k.decode j with
  | error e => simp only [canonical, h, Except.map, Decoded.error_bind]
  | ok a => simp only [canonical, h, hstable a h, Decoded.map_ok, Decoded.ok_bind]

/-- A default spelled out, an unknown key, and a query that could have been left empty. -/
def looseSubquery : Json :=
  .object [("negated", .bool false), ("note", .null), ("query", .object [("note", .null)]),
    ("table", .str "orders")]

theorem canonical_stable_looseSubquery :
    decode .subquery looseSubquery = .ok { table := "orders", query := {} } ∧
      decode .subquery (encode .subquery { table := "orders", query := {} })
        = .ok { table := "orders", query := {} } := by
  have h : decode .subquery looseSubquery = .ok { table := "orders", query := {} } := rfl
  exact ⟨h, (canonical_stable .subquery looseSubquery).1 _ h⟩

end RemoteQuery.StructureKind
