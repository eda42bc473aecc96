import RemoteQuery.Number.Shortest

namespace RemoteQuery

inductive Number where
  | unsigned (n : UInt64)
  | negative (n : Int64) (below : n < 0)
  | float (x : Binary64)
  deriving DecidableEq

namespace Number

def ofInt64 (n : Int64) : Number :=
  if h : n < 0 then .negative n h else .unsigned n.toUInt64

def toInt64? : Number → Option Int64
  | .unsigned n => if n.toNat < UInt64.size / 2 then some n.toInt64 else none
  | .negative n _ => some n
  | .float _ => none

def toBinary64 : Number → Binary64
  | .unsigned n => Binary64.ofNat n.toNat
  | .negative n _ => Binary64.ofInt n.toInt
  | .float x => x

def render : Number → List Char
  | .unsigned n => Decimal.digits n.toNat
  | .negative n _ => '-' :: Decimal.digits n.toInt.natAbs
  | .float x => x.render

def equal : Number → Number → Bool
  | .float x, .float y => x.equal y
  | a, b => a == b

end Number

end RemoteQuery
