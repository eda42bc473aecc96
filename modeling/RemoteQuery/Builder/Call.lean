import RemoteQuery.Builder.Scope

namespace RemoteQuery

inductive Call where
  | whereEq (field : String) (value : Value)
  | whereMap (entries : List (String × Value))
  | whereOp (field : String) (operator : Operator) (value : Value)
  | orWhereOp (field : String) (operator : Operator) (value : Value)
  | wherePredicate (p : Predicate)
  | whereBetween (field : String) (low high : Value)
  | whereIn (field : String) (values : List Value)
  | whereNotIn (field : String) (values : List Value)
  | whereNull (field : String)
  | whereNotNull (field : String)
  | orWhere (scope : List Call)
  | andWhere (scope : List Call)
  | whereExists (table : String) (scope : List Call)
  | whereNotExists (table : String) (scope : List Call)
  | whereExistsJoin (table left right : String) (scope : List Call)
  | whereNotExistsJoin (table left right : String) (scope : List Call)
  | groupBy (fields : List String)
  | select (fields : List String)
  | having (field : String) (operator : Operator) (value : Value)
  | aggregate (spec : AggregateSpec)
  | aggregateOf (function : AggregateFunction) (field : String) (label : Option String)
  | orderBy (field : String) (direction : Direction)
  | orderByNulls (field : String) (direction : Direction) (nulls : NullsPlacement)
  | limit (count : UInt64)
  | offset (count : UInt64)
  | paginate (page perPage : UInt64)
  | window (spec : WindowSpec)
  | windowAdvanced (spec : AdvancedWindowSpec)
  | rowNumber (label : String) (partitionBy : List String) (order : OrderSpec)
  | rank (label : String) (partitionBy : List String) (order : OrderSpec)
  | lag (field label : String) (offset : UInt64) (order : OrderSpec)
  | lead (field label : String) (offset : UInt64) (order : OrderSpec)
  | withQuery (name table : String) (calls : List Call) (columns : Option (List String))
  | withCte (name : String) (scope : List Call) (columns : Option (List String))
  | withRecursive (name initialTable : String) (initial : List Call) (recursiveTable : String)
      (recursive : List Call) (unionAll : Bool) (columns : Option (List String))
  | transform (spec : TransformSpec)
  | pivot (column : String) (values : List Value) (aggregate : AggregateSpec)
  | compute (entries : List (String × String))
  | raw (expression : String)
  | rawWithBindings (expression : String) (bindings : List Value)
  | explain (options : ExplainOptions)

namespace Builder

mutual
def call (b : Builder) : Call → Builder
  | .whereEq field value => b.whereEq field value
  | .whereMap entries => b.whereMap entries
  | .whereOp field operator value => b.whereOp field operator value
  | .orWhereOp field operator value => b.orWhereOp field operator value
  | .wherePredicate p => b.addPredicate p
  | .whereBetween field low high => b.whereBetween field low high
  | .whereIn field values => b.whereIn field values
  | .whereNotIn field values => b.whereNotIn field values
  | .whereNull field => b.whereNull field
  | .whereNotNull field => b.whereNotNull field
  | .orWhere scope => b.orWhere fun q => run q scope
  | .andWhere scope => b.andWhere fun q => run q scope
  | .whereExists table scope => b.whereExists table fun q => run q scope
  | .whereNotExists table scope => b.whereNotExists table fun q => run q scope
  | .whereExistsJoin table left right scope =>
      b.whereExistsJoin table left right fun q => run q scope
  | .whereNotExistsJoin table left right scope =>
      b.whereNotExistsJoin table left right fun q => run q scope
  | .groupBy fields => b.groupBy fields
  | .select fields => b.select fields
  | .having field operator value => b.having field operator value
  | .aggregate spec => b.aggregate spec
  | .aggregateOf function field label => b.aggregateOf function field label
  | .orderBy field direction => b.orderBy field direction
  | .orderByNulls field direction nulls => b.orderByNulls field direction nulls
  | .limit count => b.limit count
  | .offset count => b.offset count
  | .paginate page perPage => b.paginate page perPage
  | .window spec => b.window spec
  | .windowAdvanced spec => b.windowAdvanced spec
  | .rowNumber label partitionBy order => b.ranked .rowNumber label partitionBy order
  | .rank label partitionBy order => b.ranked .rank label partitionBy order
  | .lag field label offset order => b.shifted .lag field label offset order
  | .lead field label offset order => b.shifted .lead field label offset order
  | .withQuery name table calls columns => b.withQuery name (run (new table) calls) columns
  | .withCte name scope columns => b.withCte name (fun q => run q scope) columns
  | .withRecursive name initialTable initial recursiveTable recursive unionAll columns =>
      b.withRecursive name (run (new initialTable) initial) (run (new recursiveTable) recursive)
        unionAll columns
  | .transform spec => b.transform spec
  | .pivot column values aggregate => b.pivot column values aggregate
  | .compute entries => b.compute entries
  | .raw expression => b.raw expression []
  | .rawWithBindings expression bindings => b.raw expression bindings
  | .explain options => b.explain options
def run (b : Builder) : List Call → Builder
  | [] => b
  | c :: rest => run (call b c) rest
end

end Builder

end RemoteQuery
