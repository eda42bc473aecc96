import RemoteQuery.Clause.Condition
import RemoteQuery.Json.Descent

namespace RemoteQuery

open Wire

inductive Condition where
  | predicate (p : Predicate)
  | group (combinator : Combinator) (conditions : List Condition)

structure BooleanGroup where
  combinator : Combinator
  conditions : List Condition

namespace BooleanGroup

def toCondition (g : BooleanGroup) : Condition := .group g.combinator g.conditions

def isEmpty (g : BooleanGroup) : Bool := g.conditions.isEmpty

def push (g : BooleanGroup) (c : Condition) : BooleanGroup :=
  { g with conditions := g.conditions ++ [c] }

def record (combinator : Combinator) (conditions : List Json) : Json :=
  .record [("conditions", some (.list conditions)), ("type", some (Token.toStructure combinator))]

def ofStructureWith (read : Json → Decoded Condition) (j : Json) : Decoded BooleanGroup := do
  let fields ← object "boolean group" j
  let combinator ← required fields "type" "boolean group" Token.ofStructure
  let conditions ← required fields "conditions" "boolean group" (listOf "boolean group" read)
  return ⟨combinator, conditions⟩

theorem ofStructureWith_congr {f g : Json → Decoded Condition} {j : Json}
    (h : Json.AgreeBelow j.depth f g) : ofStructureWith f j = ofStructureWith g j := by
  cases j with
  | object fields =>
      have hc : required fields "conditions" "boolean group" (listOf "boolean group" f)
          = required fields "conditions" "boolean group" (listOf "boolean group" g) :=
        required_congr fun k hk => listOf_congr (agreeBelow_of_get? h hk)
      simp only [ofStructureWith, object, Decoded.ok_bind, hc]
  | _ => rfl

end BooleanGroup

namespace Condition

mutual
/-- Predicates alone make a group of depth one. -/
def depth : Condition → Nat
  | .predicate _ => 0
  | .group _ conditions => depths conditions + 1
def depths : List Condition → Nat
  | [] => 0
  | c :: rest => max c.depth (depths rest)
end

mutual
def toStructure : Condition → Json
  | .predicate p => p.toStructure
  | .group combinator conditions => BooleanGroup.record combinator (toStructures conditions)
def toStructures : List Condition → List Json
  | [] => []
  | c :: rest => c.toStructure :: toStructures rest
end

theorem toStructures_eq_map (cs : List Condition) : toStructures cs = cs.map toStructure := by
  induction cs with
  | nil => rfl
  | cons c rest ih => simp [toStructures, ih]

def layer (read : Json → Decoded Condition) (j : Json) : Decoded Condition := do
  let fields ← object "group condition" j
  if fields.has "conditions" then
    let group ← BooleanGroup.ofStructureWith read j
    return group.toCondition
  else
    let p ← Predicate.ofStructure j
    return .predicate p

theorem layer_local : Json.Local layer := by
  intro f g j h
  simp only [layer, BooleanGroup.ofStructureWith_congr h]

def ofStructure : Json → Decoded Condition :=
  Json.descend layer (.error (.wrongType "group condition" "a mapping" .null))

theorem ofStructure_eq (j : Json) : ofStructure j = layer ofStructure j :=
  Json.descend_eq layer_local _ j

instance : Structural Condition := ⟨toStructure, ofStructure⟩

end Condition

namespace BooleanGroup

def depth (g : BooleanGroup) : Nat := g.toCondition.depth

def toStructure (g : BooleanGroup) : Json := g.toCondition.toStructure

def ofStructure (j : Json) : Decoded BooleanGroup := ofStructureWith Condition.ofStructure j

instance : Structural BooleanGroup := ⟨toStructure, ofStructure⟩

end BooleanGroup

end RemoteQuery
