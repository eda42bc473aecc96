import RemoteQuery.Number.Binary
/-!
The shortest decimal that reads back as a given number, and of those the nearest to it. Digits are
dropped from the exact decimal, as many as reading back allows; with none dropped it is exact.
-/

namespace RemoteQuery.Binary64

def reads (x : Binary64) (d : Decimal) : Bool := ofDecimal? d == some x

def pickNearest (x : Binary64) (below above : Decimal) (rest unit : Nat) : Option Decimal :=
  match x.reads below, rest != 0 && x.reads above with
  | true, false => some below
  | false, true => some above
  | false, false => none
  | true, true =>
      if 2 * rest < unit then some below
      else if unit < 2 * rest then some above
      else if below.coefficient % 2 = 0 then some below
      else some above

def dropDigits? (x : Binary64) (exact : Decimal) (dropped : Nat) : Option Decimal :=
  let unit := Nat.pow 10 dropped
  let floor := exact.coefficient / unit
  let exponent := exact.exponent + dropped
  pickNearest x ⟨exact.negative, floor, exponent⟩ ⟨exact.negative, floor + 1, exponent⟩
    (exact.coefficient % unit) unit

def shortestFrom (x : Binary64) (exact : Decimal) : Nat → Decimal
  | 0 => exact
  | dropped + 1 => (dropDigits? x exact (dropped + 1)).getD (shortestFrom x exact dropped)

def shortest (x : Binary64) : Decimal :=
  let exact := x.exactDecimal
  shortestFrom x exact ((Decimal.digits exact.coefficient).length - 1)

def shortestDigits (d : Decimal) : List Char := Decimal.dropZeros (Decimal.digits d.coefficient)

/-- Positional for `10⁻⁵ ≤ |x| < 10¹⁶`, else with an exponent. -/
def render (x : Binary64) : List Char :=
  if x.isZero then Decimal.sign x.negative ++ ['0', '.', '0']
  else
    let d := x.shortest
    let body := if -5 < d.point && d.point ≤ 16
      then Decimal.positional (shortestDigits d) d.point
      else Decimal.scientific (shortestDigits d) d.point
    Decimal.sign x.negative ++ body

end RemoteQuery.Binary64
