namespace RemoteQuery

structure Decimal where
  negative : Bool
  coefficient : Nat
  exponent : Int
  deriving DecidableEq, Repr

namespace Decimal

def digits (n : Nat) : List Char := Nat.toDigits 10 n

def ofDigits (ds : List Char) : Nat := Nat.ofDigitChars 10 ds 0

def unsigned? (limit : Nat) (cs : List Char) : Option Nat :=
  if cs.isEmpty || !cs.all Char.isDigit then none
  else if ofDigits cs < limit then some (ofDigits cs) else none

/-- A number below the limit; a plus sign is allowed. -/
def parse? (limit : Nat) : List Char → Option Nat
  | '+' :: rest => unsigned? limit rest
  | cs => unsigned? limit cs

def natText (n : Nat) : String := String.ofList (digits n)

def dropZeros (ds : List Char) : List Char := (ds.reverse.dropWhile (· = '0')).reverse

def sign (negative : Bool) : List Char := if negative then ['-'] else []

def zeros (n : Nat) : List Char := List.replicate n '0'

/-- Digits `d₁d₂…` stand for `0.d₁d₂… · 10 ^ point`. -/
def positional (ds : List Char) (point : Int) : List Char :=
  if point ≤ 0 then '0' :: '.' :: (zeros (-point).toNat ++ ds)
  else if ds.length ≤ point.toNat then ds ++ zeros (point.toNat - ds.length) ++ ['.', '0']
  else ds.take point.toNat ++ '.' :: ds.drop point.toNat

def scientific (ds : List Char) (point : Int) : List Char :=
  let power := point - 1
  let tail := match ds.drop 1 with
    | [] => []
    | rest => '.' :: rest
  ds.take 1 ++ tail ++ 'e' :: (if power < 0 then '-' else '+') :: digits power.natAbs

def point (d : Decimal) : Int := (digits d.coefficient).length + d.exponent

end Decimal

end RemoteQuery
