import RemoteQuery.Builder.Basic

namespace RemoteQuery.Builder

def drain : List String → Fields Value → List Predicate × Fields Value
  | [], filter => ([], filter)
  | field :: order, filter =>
      match filter.get? field with
      | some value =>
          let (predicates, left) := drain order (filter.erase field)
          (Predicate.eq field value :: predicates, left)
      | none => drain order filter

def equalities (b : Builder) : List Predicate :=
  (drain b.filterOrder (b.params.filter.getD [])).1

def leftover (b : Builder) : Fields Value :=
  (drain b.filterOrder (b.params.filter.getD [])).2

def conditions (b : Builder) : List Condition :=
  b.equalities.map .predicate
    ++ b.leftover.map (fun (field, value) => .predicate (Predicate.eq field value))
    ++ (b.params.predicates.getD []).map .predicate
    ++ (b.params.groups.getD []).map BooleanGroup.toCondition

def toGroup (b : Builder) (combinator : Combinator) : BooleanGroup := ⟨combinator, b.conditions⟩

def whereGroup (b : Builder) (combinator : Combinator) (within : Builder → Builder) : Builder :=
  let group := (within b.scope).toGroup combinator
  if group.isEmpty then b else b.addGroup group

def orWhere (b : Builder) (within : Builder → Builder) : Builder := b.whereGroup .any within

def andWhere (b : Builder) (within : Builder → Builder) : Builder := b.whereGroup .all within

def whereSubquery (b : Builder) (table : String) (on : Option JoinCondition) (negated : Bool)
    (within : Builder → Builder) : Builder :=
  b.addSubquery { table, query := (within (new table)).params, on, negated }

def whereExists (b : Builder) (table : String) (within : Builder → Builder) : Builder :=
  b.whereSubquery table none false within

def whereNotExists (b : Builder) (table : String) (within : Builder → Builder) : Builder :=
  b.whereSubquery table none true within

def whereExistsJoin (b : Builder) (table left right : String) (within : Builder → Builder) :
    Builder :=
  b.whereSubquery table (some ⟨left, .equal, right⟩) false within

def whereNotExistsJoin (b : Builder) (table left right : String) (within : Builder → Builder) :
    Builder :=
  b.whereSubquery table (some ⟨left, .equal, right⟩) true within

end RemoteQuery.Builder
