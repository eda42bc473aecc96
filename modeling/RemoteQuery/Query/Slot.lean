import RemoteQuery.Query.Params

namespace RemoteQuery

inductive Slot where
  | filter
  | predicates
  | ranges
  | oneOf
  | noneOf
  | nullness
  | subqueries
  | groups
  | orderBy
  | groupBy
  | having
  | aggregates
  | windows
  | advancedWindows
  | ctes
  | recursiveCtes
  | raw
  | transform
  | select
  | limit
  | offset
  | explain
  deriving DecidableEq, Repr

namespace Slot

def all : List Slot :=
  [.filter, .predicates, .ranges, .oneOf, .noneOf, .nullness, .subqueries, .groups, .orderBy,
    .groupBy, .having, .aggregates, .windows, .advancedWindows, .ctes, .recursiveCtes, .raw,
    .transform, .select, .limit, .offset, .explain]

def key : Slot → String
  | .filter => "filter"
  | .predicates => "whereRaw"
  | .ranges => "whereBetween"
  | .oneOf => "whereIn"
  | .noneOf => "whereNotIn"
  | .nullness => "whereNull"
  | .subqueries => "whereExists"
  | .groups => "whereGroups"
  | .orderBy => "orderBy"
  | .groupBy => "groupBy"
  | .having => "having"
  | .aggregates => "aggregates"
  | .windows => "windows"
  | .advancedWindows => "advancedWindows"
  | .ctes => "with"
  | .recursiveCtes => "withRecursive"
  | .raw => "raw"
  | .transform => "transform"
  | .select => "select"
  | .limit => "limit"
  | .offset => "offset"
  | .explain => "explain"

theorem mem_all (s : Slot) : s ∈ all := by cases s <;> decide

end Slot

namespace QueryParams

def uses (p : QueryParams) : Slot → Bool
  | .filter => p.filter.isSome
  | .predicates => p.predicates.isSome
  | .ranges => p.ranges.isSome
  | .oneOf => p.oneOf.isSome
  | .noneOf => p.noneOf.isSome
  | .nullness => p.nullness.isSome
  | .subqueries => p.subqueries.isSome
  | .groups => p.groups.isSome
  | .orderBy => p.orderBy.isSome
  | .groupBy => p.groupBy.isSome
  | .having => p.having.isSome
  | .aggregates => p.aggregates.isSome
  | .windows => p.windows.isSome
  | .advancedWindows => p.advancedWindows.isSome
  | .ctes => p.ctes.isSome
  | .recursiveCtes => p.recursiveCtes.isSome
  | .raw => p.raw.isSome
  | .transform => p.transform.isSome
  | .select => p.select.isSome
  | .limit => p.limit.isSome
  | .offset => p.offset.isSome
  | .explain => p.explain.isSome

def populatedSlots (p : QueryParams) : List String := (Slot.all.filter p.uses).map Slot.key

def isEmpty (p : QueryParams) : Bool := p.populatedSlots.isEmpty

end QueryParams

end RemoteQuery
