import RemoteQuery.Number.Decimal
/-!
Finite binary floating-point numbers and the rounding of exact fractions to them, half to even.
A `Binary64` is `± mantissa · 2 ^ (exponent - 1074)` with the mantissa as long as the exponent allows,
so equal magnitudes have equal parts.
-/

namespace RemoteQuery

structure BinaryFormat where
  precision : Nat
  scale : Nat
  maxExponent : Nat

namespace BinaryFormat

def double : BinaryFormat := ⟨53, 1074, 2045⟩

def single : BinaryFormat := ⟨24, 149, 253⟩

def bitLength (n : Nat) : Nat := if n = 0 then 0 else n.log2 + 1

def roundDiv (num den : Nat) : Nat :=
  let q := num / den
  let r := num % den
  if 2 * r < den then q
  else if den < 2 * r then q + 1
  else q + q % 2

def round (f : BinaryFormat) (num den : Nat) : Nat × Nat :=
  let units := num * Nat.pow 2 f.scale
  let e := bitLength (units / den) - f.precision
  let m := roundDiv units (den * Nat.pow 2 e)
  if m = Nat.pow 2 f.precision then (m / 2, e + 1) else (m, e)

def Canonical (f : BinaryFormat) (m e : Nat) : Prop :=
  (e = 0 ∨ Nat.pow 2 (f.precision - 1) ≤ m) ∧ m < Nat.pow 2 f.precision ∧ e ≤ f.maxExponent

instance (f : BinaryFormat) (m e : Nat) : Decidable (f.Canonical m e) := by
  unfold Canonical
  infer_instance

end BinaryFormat

structure Binary64 where
  negative : Bool
  mantissa : Nat
  exponent : Nat
  canonical : BinaryFormat.double.Canonical mantissa exponent
  deriving DecidableEq

namespace Binary64

instance : Repr Binary64 where
  reprPrec x _ := repr (x.negative, x.mantissa, x.exponent)

def zero (negative : Bool) : Binary64 := ⟨negative, 0, 0, by decide⟩

def ofParts? (negative : Bool) (m e : Nat) : Option Binary64 :=
  if h : BinaryFormat.double.Canonical m e then some ⟨negative, m, e, h⟩ else none

def ofRatio? (negative : Bool) (num den : Nat) : Option Binary64 :=
  let (m, e) := BinaryFormat.double.round num den
  ofParts? negative m e

/-- The nearest number, or nothing beyond the largest one. Far outside the range the answer does not
need the power of ten. -/
def ofDecimal? (d : Decimal) : Option Binary64 :=
  if d.coefficient = 0 then some (zero d.negative)
  else if d.point < -330 then some (zero d.negative)
  else if 310 < d.point then none
  else if d.exponent < 0 then ofRatio? d.negative d.coefficient (Nat.pow 10 (-d.exponent).toNat)
  else ofRatio? d.negative (d.coefficient * Nat.pow 10 d.exponent.toNat) 1

def ofNat (n : Nat) : Binary64 := (ofRatio? false n 1).getD (zero false)

def neg (x : Binary64) : Binary64 := { x with negative := !x.negative }

def ofInt (n : Int) : Binary64 := if n < 0 then (ofNat n.natAbs).neg else ofNat n.natAbs

def isZero (x : Binary64) : Bool := x.mantissa == 0

/-- Both zeros are one number. -/
def equal (x y : Binary64) : Bool := (x.isZero && y.isZero) || x == y

def exactDecimal (x : Binary64) : Decimal :=
  if x.exponent < 1074 then
    ⟨x.negative, x.mantissa * Nat.pow 5 (1074 - x.exponent), (x.exponent : Int) - 1074⟩
  else ⟨x.negative, x.mantissa * Nat.pow 2 (x.exponent - 1074), 0⟩

def ofDecimalSingle? (d : Decimal) : Option Binary64 :=
  if d.coefficient = 0 then some (zero d.negative)
  else if d.point < -330 then some (zero d.negative)
  else if 310 < d.point then none
  else
    let (m, e) := if d.exponent < 0
      then BinaryFormat.single.round d.coefficient (Nat.pow 10 (-d.exponent).toNat)
      else BinaryFormat.single.round (d.coefficient * Nat.pow 10 d.exponent.toNat) 1
    if BinaryFormat.single.Canonical m e
      then ofRatio? d.negative (m * Nat.pow 2 e) (Nat.pow 2 149)
      else none

end Binary64

end RemoteQuery
