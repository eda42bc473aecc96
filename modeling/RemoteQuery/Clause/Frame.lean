import RemoteQuery.Clause.Vocabulary
import RemoteQuery.Clause.Order

namespace RemoteQuery

open Wire

inductive FrameBound where
  | unboundedPreceding
  | preceding (offset : UInt64)
  | currentRow
  | following (offset : UInt64)
  | unboundedFollowing
  deriving DecidableEq, Repr

namespace FrameBound

def precedingSuffix : List Char := " PRECEDING".toList

def followingSuffix : List Char := " FOLLOWING".toList

def text : FrameBound → String
  | .unboundedPreceding => "UNBOUNDED PRECEDING"
  | .preceding n => String.ofList (Decimal.digits n.toNat ++ precedingSuffix)
  | .currentRow => "CURRENT ROW"
  | .following n => String.ofList (Decimal.digits n.toNat ++ followingSuffix)
  | .unboundedFollowing => "UNBOUNDED FOLLOWING"

def stripSuffix? (suffix cs : List Char) : Option (List Char) :=
  if suffix.isSuffixOf cs then some (cs.take (cs.length - suffix.length)) else none

def offset? (cs : List Char) : Option UInt64 :=
  match Decimal.parse? UInt64.size cs with
  | some n => if Decimal.digits n = cs then some (UInt64.ofNat n) else none
  | none => none

def ofChars? (cs : List Char) : Option FrameBound :=
  match stripSuffix? precedingSuffix cs with
  | some front => (offset? front).map .preceding
  | none =>
      match stripSuffix? followingSuffix cs with
      | some front => (offset? front).map .following
      | none => none

def ofText? (s : String) : Option FrameBound :=
  if s = "UNBOUNDED PRECEDING" then some .unboundedPreceding
  else if s = "CURRENT ROW" then some .currentRow
  else if s = "UNBOUNDED FOLLOWING" then some .unboundedFollowing
  else ofChars? s.toList

def parse (s : String) : Decoded FrameBound :=
  match ofText? s with
  | some b => .ok b
  | none => .error (.unknownToken "frame bound" s)

def toStructure (b : FrameBound) : Json := .str b.text

def ofStructure (j : Json) : Decoded FrameBound :=
  match j with
  | .str s => parse s
  | _ => .error (.unknownToken "frame bound" j.text)

instance : Structural FrameBound := ⟨toStructure, ofStructure⟩

end FrameBound

structure FrameSpec where
  mode : FrameMode
  start : FrameBound
  stop : Option FrameBound

namespace FrameSpec

def running : FrameSpec := ⟨.rows, .unboundedPreceding, some .currentRow⟩

def toStructure (f : FrameSpec) : Json :=
  .record [
    ("end", f.stop.map FrameBound.toStructure),
    ("mode", some (Token.toStructure f.mode)),
    ("start", some f.start.toStructure)]

def ofStructure (j : Json) : Decoded FrameSpec := do
  let fields ← object "frame spec" j
  let mode ← required fields "mode" "frame spec" Token.ofStructure
  let start ← required fields "start" "frame spec" FrameBound.ofStructure
  let stop ← optional fields "end" FrameBound.ofStructure
  return ⟨mode, start, stop⟩

instance : Structural FrameSpec := ⟨toStructure, ofStructure⟩

end FrameSpec

structure OverClause where
  partitionBy : List String := []
  orderBy : List OrderSpec := []
  frame : Option FrameSpec := none

namespace OverClause

def partitionStructure (o : OverClause) : Option Json := Json.unlessEmpty .strings o.partitionBy

def orderStructure (o : OverClause) : Option Json :=
  Json.unlessEmpty (.listOf OrderSpec.toStructure) o.orderBy

def frameStructure (o : OverClause) : Option Json := o.frame.map FrameSpec.toStructure

def toStructure (o : OverClause) : Json :=
  .record [
    ("frame", o.frameStructure),
    ("orderBy", o.orderStructure),
    ("partitionBy", o.partitionStructure)]

def ofFields (context : String) (fields : Fields Json) : Decoded OverClause := do
  let partitionBy ← orElse fields "partitionBy" [] (strings context)
  let orderBy ← orElse fields "orderBy" [] (listOf context OrderSpec.ofStructure)
  let frame ← optional fields "frame" FrameSpec.ofStructure
  return ⟨partitionBy, orderBy, frame⟩

def ofStructure (j : Json) : Decoded OverClause := do
  let fields ← object "over clause" j
  ofFields "over clause" fields

instance : Structural OverClause := ⟨toStructure, ofStructure⟩

end OverClause

end RemoteQuery
