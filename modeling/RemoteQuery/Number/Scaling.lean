import RemoteQuery.Number.Binary
/-!
Scaling by powers of ten. A decimal read by scaling is rounded up to three times, in its coefficient,
in the power and in the result, so it may come out next to the nearest number.
-/

namespace RemoteQuery.Binary64

def units (x : Binary64) : Nat := x.mantissa * Nat.pow 2 x.exponent

def maxPower : Nat := 308

def powerOfTen (k : Nat) : Binary64 := ofNat (Nat.pow 10 k)

def timesPower? (x : Binary64) (k : Nat) : Option Binary64 :=
  ofRatio? x.negative (x.units * (powerOfTen k).units) (Nat.pow 2 (2 * 1074))

def overPower (x : Binary64) (k : Nat) : Binary64 :=
  (ofRatio? x.negative x.units (powerOfTen k).units).getD (zero x.negative)

/-- No coefficient of one word survives a second division by the greatest power. -/
def scaleDown (x : Binary64) (k : Nat) : Binary64 :=
  if k ≤ maxPower then x.overPower k
  else if k ≤ 2 * maxPower then (x.overPower maxPower).overPower (k - maxPower)
  else zero x.negative

def scale? (x : Binary64) (power : Int) : Option Binary64 :=
  if power < 0 then some (x.scaleDown power.natAbs)
  else if power ≤ maxPower then x.timesPower? power.toNat
  else if x.isZero then some x
  else none

def ofScaled? (d : Decimal) : Option Binary64 := do
  let x ← ofRatio? d.negative d.coefficient 1
  x.scale? d.exponent

end RemoteQuery.Binary64
