import RemoteQuery.Query.Params

namespace RemoteQuery

structure Builder where
  table : String
  params : QueryParams := {}
  filterOrder : List String := []

namespace Builder

def new (table : String) : Builder := { table }

def scope (b : Builder) : Builder := new b.table

def push {α : Type} (slot : Option (List α)) (item : α) : Option (List α) :=
  some (slot.getD [] ++ [item])

def addPredicate (b : Builder) (p : Predicate) : Builder :=
  { b with params := { b.params with predicates := push b.params.predicates p } }

def whereEq (b : Builder) (field : String) (value : Value) : Builder :=
  { b with
    params := { b.params with filter := some (Fields.insert (b.params.filter.getD []) field value) }
    filterOrder :=
      if b.filterOrder.contains field then b.filterOrder else b.filterOrder ++ [field] }

def whereMap (b : Builder) (entries : List (String × Value)) : Builder :=
  entries.foldl (fun b entry => b.whereEq entry.1 entry.2) b

def whereOp (b : Builder) (field : String) (operator : Operator) (value : Value) : Builder :=
  b.addPredicate (.new field operator value)

def orWhereOp (b : Builder) (field : String) (operator : Operator) (value : Value) : Builder :=
  b.addPredicate ((Predicate.new field operator value).withCombinator .any)

def whereBetween (b : Builder) (field : String) (low high : Value) : Builder :=
  { b with params := { b.params with ranges := push b.params.ranges ⟨field, low, high⟩ } }

def whereIn (b : Builder) (field : String) (values : List Value) : Builder :=
  { b with params := { b.params with oneOf := push b.params.oneOf ⟨field, values⟩ } }

def whereNotIn (b : Builder) (field : String) (values : List Value) : Builder :=
  { b with params := { b.params with noneOf := push b.params.noneOf ⟨field, values⟩ } }

def addNullness (b : Builder) (clause : NullnessClause) : Builder :=
  { b with params := { b.params with nullness := push b.params.nullness clause } }

def whereNull (b : Builder) (field : String) : Builder := b.addNullness ⟨field, true⟩

def whereNotNull (b : Builder) (field : String) : Builder := b.addNullness ⟨field, false⟩

def addSubquery (b : Builder) (s : Subquery QueryParams) : Builder :=
  { b with params := { b.params with subqueries := push b.params.subqueries s } }

def addGroup (b : Builder) (g : BooleanGroup) : Builder :=
  { b with params := { b.params with groups := push b.params.groups g } }

def groupBy (b : Builder) (fields : List String) : Builder :=
  { b with params := { b.params with groupBy := some fields } }

def having (b : Builder) (field : String) (operator : Operator) (value : Value) : Builder :=
  { b with params := { b.params with having := push b.params.having ⟨field, operator, value⟩ } }

def aggregate (b : Builder) (spec : AggregateSpec) : Builder :=
  { b with params := { b.params with aggregates := push b.params.aggregates spec } }

def aggregateOf (b : Builder) (function : AggregateFunction) (field : String)
    (label : Option String) : Builder :=
  b.aggregate ⟨function, field, label⟩

def addOrder (b : Builder) (order : OrderSpec) : Builder :=
  { b with params := { b.params with orderBy := push b.params.orderBy order } }

def orderBy (b : Builder) (field : String) (direction : Direction) : Builder :=
  b.addOrder (.new field direction)

def orderByNulls (b : Builder) (field : String) (direction : Direction) (nulls : NullsPlacement) :
    Builder :=
  b.addOrder ((OrderSpec.new field direction).withNulls nulls)

def select (b : Builder) (fields : List String) : Builder :=
  { b with params := { b.params with select := some fields } }

def limit (b : Builder) (count : UInt64) : Builder :=
  { b with params := { b.params with limit := some count } }

def offset (b : Builder) (count : UInt64) : Builder :=
  { b with params := { b.params with offset := some count } }

/-- Rows before a page, pages being counted from one; at most the largest word. -/
def pageOffset (page perPage : UInt64) : UInt64 :=
  UInt64.ofNat (min ((page.toNat - 1) * perPage.toNat) (UInt64.size - 1))

def paginate (b : Builder) (page perPage : UInt64) : Builder :=
  (b.limit perPage).offset (pageOffset page perPage)

def window (b : Builder) (spec : WindowSpec) : Builder :=
  { b with params := { b.params with windows := push b.params.windows spec } }

def windowAdvanced (b : Builder) (spec : AdvancedWindowSpec) : Builder :=
  { b with params := { b.params with advancedWindows := push b.params.advancedWindows spec } }

def ranked (b : Builder) (function : WindowFunction) (label : String) (partitionBy : List String)
    (order : OrderSpec) : Builder :=
  b.window { function, «alias» := label, «over» := { partitionBy, orderBy := [order] } }

def shifted (b : Builder) (function : WindowFunction) (field label : String) (offset : UInt64)
    (order : OrderSpec) : Builder :=
  b.window
    { function, field := some field, «alias» := label, «over» := { orderBy := [order] },
      args := [.ofUInt64 offset] }

def addCte (b : Builder) (c : Cte QueryParams) : Builder :=
  { b with params := { b.params with ctes := push b.params.ctes c } }

def addRecursiveCte (b : Builder) (c : RecursiveCte QueryParams) : Builder :=
  { b with params := { b.params with recursiveCtes := push b.params.recursiveCtes c } }

def withQuery (b : Builder) (name : String) (source : Builder) (columns : Option (List String)) :
    Builder :=
  b.addCte { name, table := some source.table, query := source.params, columns }

def withCte (b : Builder) (name : String) (within : Builder → Builder)
    (columns : Option (List String)) : Builder :=
  b.withQuery name (within b.scope) columns

def withRecursive (b : Builder) (name : String) (initial recursive : Builder) (unionAll : Bool)
    (columns : Option (List String)) : Builder :=
  b.addRecursiveCte
    { name, initial := initial.params, initialTable := some initial.table,
      recursive := recursive.params, recursiveTable := some recursive.table, unionAll, columns }

def transform (b : Builder) (spec : TransformSpec) : Builder :=
  { b with params := { b.params with transform := some spec } }

def pivot (b : Builder) (column : String) (values : List Value) (aggregate : AggregateSpec) :
    Builder :=
  b.transform { pivot := some ⟨column, values, aggregate⟩ }

def compute (b : Builder) (entries : List (String × String)) : Builder :=
  b.transform (entries.foldl (fun spec entry => spec.addComputed entry.1 entry.2) {})

def raw (b : Builder) (expression : String) (bindings : List Value) : Builder :=
  { b with params := { b.params with raw := push b.params.raw ⟨expression, bindings⟩ } }

def explain (b : Builder) (options : ExplainOptions) : Builder :=
  { b with params := { b.params with explain := some options } }

end Builder

end RemoteQuery
