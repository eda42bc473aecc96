import RemoteQuery.Service.Response

namespace RemoteQuery

inductive StructureKind where
  | operator
  | combinator
  | direction
  | nulls
  | aggregateFunction
  | windowFunction
  | frameMode
  | explainFormat
  | frameBound
  | predicate
  | range
  | set
  | nullness
  | having
  | condition
  | group
  | join
  | subquery
  | order
  | aggregate
  | frame
  | «over»
  | window
  | advancedWindow
  | cte
  | recursiveCte
  | raw
  | pivot
  | transform
  | explain
  | params
  | response
  deriving DecidableEq, Repr

namespace StructureKind

def all : List StructureKind :=
  [.operator, .combinator, .direction, .nulls, .aggregateFunction, .windowFunction, .frameMode,
    .explainFormat, .frameBound, .predicate, .range, .set, .nullness, .having, .condition, .group,
    .join, .subquery, .order, .aggregate, .frame, .«over», .window, .advancedWindow, .cte,
    .recursiveCte, .raw, .pivot, .transform, .explain, .params, .response]

def name : StructureKind → String
  | .operator => "operator"
  | .combinator => "combinator"
  | .direction => "direction"
  | .nulls => "nulls"
  | .aggregateFunction => "aggregate_function"
  | .windowFunction => "window_function"
  | .frameMode => "frame_mode"
  | .explainFormat => "explain_format"
  | .frameBound => "frame_bound"
  | .predicate => "predicate"
  | .range => "range"
  | .set => "set"
  | .nullness => "nullness"
  | .having => "having"
  | .condition => "condition"
  | .group => "group"
  | .join => "join"
  | .subquery => "subquery"
  | .order => "order"
  | .aggregate => "aggregate"
  | .frame => "frame"
  | .«over» => "over"
  | .window => "window"
  | .advancedWindow => "advanced_window"
  | .cte => "cte"
  | .recursiveCte => "recursive_cte"
  | .raw => "raw"
  | .pivot => "pivot"
  | .transform => "transform"
  | .explain => "explain"
  | .params => "params"
  | .response => "response"

def ofName? (s : String) : Option StructureKind := all.find? (fun k => k.name == s)

abbrev Carrier : StructureKind → Type
  | .operator => Operator
  | .combinator => Combinator
  | .direction => Direction
  | .nulls => NullsPlacement
  | .aggregateFunction => AggregateFunction
  | .windowFunction => WindowFunction
  | .frameMode => FrameMode
  | .explainFormat => ExplainFormat
  | .frameBound => FrameBound
  | .predicate => Predicate
  | .range => RangeClause
  | .set => SetClause
  | .nullness => NullnessClause
  | .having => HavingClause
  | .condition => Condition
  | .group => BooleanGroup
  | .join => JoinCondition
  | .subquery => Subquery QueryParams
  | .order => OrderSpec
  | .aggregate => AggregateSpec
  | .frame => FrameSpec
  | .«over» => OverClause
  | .window => WindowSpec
  | .advancedWindow => AdvancedWindowSpec
  | .cte => Cte QueryParams
  | .recursiveCte => RecursiveCte QueryParams
  | .raw => RawExpression
  | .pivot => PivotSpec
  | .transform => TransformSpec
  | .explain => ExplainOptions
  | .params => QueryParams
  | .response => Response

instance structural : (k : StructureKind) → Structural k.Carrier
  | .operator => inferInstanceAs (Structural Operator)
  | .combinator => inferInstanceAs (Structural Combinator)
  | .direction => inferInstanceAs (Structural Direction)
  | .nulls => inferInstanceAs (Structural NullsPlacement)
  | .aggregateFunction => inferInstanceAs (Structural AggregateFunction)
  | .windowFunction => inferInstanceAs (Structural WindowFunction)
  | .frameMode => inferInstanceAs (Structural FrameMode)
  | .explainFormat => inferInstanceAs (Structural ExplainFormat)
  | .frameBound => inferInstanceAs (Structural FrameBound)
  | .predicate => inferInstanceAs (Structural Predicate)
  | .range => inferInstanceAs (Structural RangeClause)
  | .set => inferInstanceAs (Structural SetClause)
  | .nullness => inferInstanceAs (Structural NullnessClause)
  | .having => inferInstanceAs (Structural HavingClause)
  | .condition => inferInstanceAs (Structural Condition)
  | .group => inferInstanceAs (Structural BooleanGroup)
  | .join => inferInstanceAs (Structural JoinCondition)
  | .subquery => inferInstanceAs (Structural (Subquery QueryParams))
  | .order => inferInstanceAs (Structural OrderSpec)
  | .aggregate => inferInstanceAs (Structural AggregateSpec)
  | .frame => inferInstanceAs (Structural FrameSpec)
  | .«over» => inferInstanceAs (Structural OverClause)
  | .window => inferInstanceAs (Structural WindowSpec)
  | .advancedWindow => inferInstanceAs (Structural AdvancedWindowSpec)
  | .cte => inferInstanceAs (Structural (Cte QueryParams))
  | .recursiveCte => inferInstanceAs (Structural (RecursiveCte QueryParams))
  | .raw => inferInstanceAs (Structural RawExpression)
  | .pivot => inferInstanceAs (Structural PivotSpec)
  | .transform => inferInstanceAs (Structural TransformSpec)
  | .explain => inferInstanceAs (Structural ExplainOptions)
  | .params => inferInstanceAs (Structural QueryParams)
  | .response => inferInstanceAs (Structural Response)

def encode (k : StructureKind) (a : k.Carrier) : Json := Structural.toStructure a

def decode (k : StructureKind) (j : Json) : Decoded k.Carrier := Structural.ofStructure j

theorem mem_all (k : StructureKind) : k ∈ all := by cases k <;> decide

end StructureKind

end RemoteQuery
