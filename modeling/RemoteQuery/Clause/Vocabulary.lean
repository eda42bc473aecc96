import RemoteQuery.Wire.Token

namespace RemoteQuery

inductive Operator where
  | equal
  | notEqual
  | greater
  | greaterOrEqual
  | less
  | lessOrEqual
  | like
  | isIn
  | notIn
  | between
  | isNull
  | isNotNull
  deriving DecidableEq, Repr

def Operator.token : Operator → String
  | .equal => "="
  | .notEqual => "!="
  | .greater => ">"
  | .greaterOrEqual => ">="
  | .less => "<"
  | .lessOrEqual => "<="
  | .like => "like"
  | .isIn => "in"
  | .notIn => "not in"
  | .between => "between"
  | .isNull => "is null"
  | .isNotNull => "is not null"

instance : Token Operator where
  kind := "operator"
  all := [.equal, .notEqual, .greater, .greaterOrEqual, .less, .lessOrEqual,
    .like, .isIn, .notIn, .between, .isNull, .isNotNull]
  token := Operator.token
  mem_all a := by cases a <;> simp
  token_injective a b h := by
    cases a <;> cases b <;> simp [Operator.token] at h ⊢

inductive Combinator where
  | all
  | any
  deriving DecidableEq, Repr

def Combinator.token : Combinator → String
  | .all => "AND"
  | .any => "OR"

instance : Token Combinator where
  kind := "combinator"
  all := [.all, .any]
  token := Combinator.token
  mem_all a := by cases a <;> simp
  token_injective a b h := by
    cases a <;> cases b <;> simp [Combinator.token] at h ⊢

inductive Direction where
  | ascending
  | descending
  deriving DecidableEq, Repr

def Direction.token : Direction → String
  | .ascending => "asc"
  | .descending => "desc"

instance : Token Direction where
  kind := "sort direction"
  all := [.ascending, .descending]
  token := Direction.token
  mem_all a := by cases a <;> simp
  token_injective a b h := by
    cases a <;> cases b <;> simp [Direction.token] at h ⊢

inductive NullsPlacement where
  | first
  | last
  deriving DecidableEq, Repr

def NullsPlacement.token : NullsPlacement → String
  | .first => "first"
  | .last => "last"

instance : Token NullsPlacement where
  kind := "null placement"
  all := [.first, .last]
  token := NullsPlacement.token
  mem_all a := by cases a <;> simp
  token_injective a b h := by
    cases a <;> cases b <;> simp [NullsPlacement.token] at h ⊢

inductive AggregateFunction where
  | count
  | sum
  | avg
  | min
  | max
  deriving DecidableEq, Repr

def AggregateFunction.token : AggregateFunction → String
  | .count => "count"
  | .sum => "sum"
  | .avg => "avg"
  | .min => "min"
  | .max => "max"

instance : Token AggregateFunction where
  kind := "aggregate function"
  all := [.count, .sum, .avg, .min, .max]
  token := AggregateFunction.token
  mem_all a := by cases a <;> simp
  token_injective a b h := by
    cases a <;> cases b <;> simp [AggregateFunction.token] at h ⊢

inductive WindowFunction where
  | rowNumber
  | rank
  | denseRank
  | percentRank
  | cumeDist
  | ntile
  | lag
  | lead
  | firstValue
  | lastValue
  | nthValue
  | sum
  | avg
  | count
  deriving DecidableEq, Repr

def WindowFunction.token : WindowFunction → String
  | .rowNumber => "row_number"
  | .rank => "rank"
  | .denseRank => "dense_rank"
  | .percentRank => "percent_rank"
  | .cumeDist => "cume_dist"
  | .ntile => "ntile"
  | .lag => "lag"
  | .lead => "lead"
  | .firstValue => "first_value"
  | .lastValue => "last_value"
  | .nthValue => "nth_value"
  | .sum => "sum"
  | .avg => "avg"
  | .count => "count"

instance : Token WindowFunction where
  kind := "window function"
  all := [.rowNumber, .rank, .denseRank, .percentRank, .cumeDist, .ntile, .lag,
    .lead, .firstValue, .lastValue, .nthValue, .sum, .avg, .count]
  token := WindowFunction.token
  mem_all a := by cases a <;> simp
  token_injective a b h := by
    cases a <;> cases b <;> simp [WindowFunction.token] at h ⊢

inductive FrameMode where
  | rows
  | range
  deriving DecidableEq, Repr

def FrameMode.token : FrameMode → String
  | .rows => "ROWS"
  | .range => "RANGE"

instance : Token FrameMode where
  kind := "frame mode"
  all := [.rows, .range]
  token := FrameMode.token
  mem_all a := by cases a <;> simp
  token_injective a b h := by
    cases a <;> cases b <;> simp [FrameMode.token] at h ⊢

inductive ExplainFormat where
  | text
  | json
  | yaml
  | xml
  deriving DecidableEq, Repr

def ExplainFormat.token : ExplainFormat → String
  | .text => "text"
  | .json => "json"
  | .yaml => "yaml"
  | .xml => "xml"

instance : Token ExplainFormat where
  kind := "explain format"
  all := [.text, .json, .yaml, .xml]
  token := ExplainFormat.token
  mem_all a := by cases a <;> simp
  token_injective a b h := by
    cases a <;> cases b <;> simp [ExplainFormat.token] at h ⊢

def Operator.requiresValue : Operator → Bool
  | .isNull => false
  | .isNotNull => false
  | _ => true

def WindowFunction.isRanking : WindowFunction → Bool
  | .rowNumber => true
  | .rank => true
  | .denseRank => true
  | .percentRank => true
  | .cumeDist => true
  | .ntile => true
  | _ => false

end RemoteQuery
