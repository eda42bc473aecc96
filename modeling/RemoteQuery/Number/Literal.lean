import RemoteQuery.Number.Basic
import RemoteQuery.Number.Scaling
/-!
Number literals. The spelling decides the kind: without point and exponent a literal in word range is
a whole number, every other one is a double. A double is scaled from the leading digits that fit a
word; out of range it is no number.
-/

namespace RemoteQuery

structure Literal where
  negative : Bool
  whole : List Char
  fraction : Option (List Char)
  exponent : Option Int
  deriving DecidableEq, Repr

namespace Literal

def decimal (l : Literal) : Decimal :=
  let fraction := l.fraction.getD []
  ⟨l.negative, Decimal.ofDigits (l.whole ++ fraction), l.exponent.getD 0 - fraction.length⟩

def wholeNumber? (negative : Bool) (n : Nat) : Option Number :=
  if negative then
    if h : 0 < n ∧ n ≤ UInt64.size / 2 ∧ Int64.ofInt (-n) < 0
      then some (.negative (Int64.ofInt (-n)) h.2.2)
      else none
  else if n < UInt64.size then some (.unsigned (UInt64.ofNat n)) else none

/-- The coefficient with the digits that still fit a word, and the digits left over. -/
def fillWord (coefficient : Nat) : List Char → Nat × List Char
  | [] => (coefficient, [])
  | d :: ds =>
      let next := coefficient * 10 + Decimal.ofDigits [d]
      if next < UInt64.size then fillWord next ds else (coefficient, d :: ds)

/-- Digits left over before the point count as zeros, and digits after it are filled in anew. -/
def leading (l : Literal) : Decimal :=
  let fraction := l.fraction.getD []
  let (whole, passed) := fillWord 0 l.whole
  let (coefficient, dropped) := fillWord whole fraction
  let exponent := l.exponent.getD 0 + passed.length + dropped.length - fraction.length
  ⟨l.negative, coefficient, exponent⟩

def floatNumber? (l : Literal) : Option Number := (Binary64.ofScaled? l.leading).map .float

def number? (l : Literal) : Option Number :=
  match l.fraction, l.exponent with
  | none, none =>
      match wholeNumber? l.negative (Decimal.ofDigits l.whole) with
      | some n => some n
      | none => l.floatNumber?
  | _, _ => l.floatNumber?

def readDigits (cs : List Char) : List Char × List Char :=
  (cs.takeWhile Char.isDigit, cs.dropWhile Char.isDigit)

def readDigits1? (cs : List Char) : Option (List Char × List Char) :=
  match readDigits cs with
  | ([], _) => none
  | found => some found

/-- No zero stands in front of another digit. -/
def readWhole? (cs : List Char) : Option (List Char × List Char) :=
  match readDigits cs with
  | ([], _) => none
  | ('0' :: _ :: _, _) => none
  | found => some found

def readFraction? : List Char → Option (Option (List Char) × List Char)
  | '.' :: rest => (readDigits1? rest).map fun (ds, rest) => (some ds, rest)
  | cs => some (none, cs)

def readPower? (negative : Bool) (cs : List Char) : Option (Option Int × List Char) :=
  (readDigits1? cs).map fun (ds, rest) =>
    let n : Int := Decimal.ofDigits ds
    (some (if negative then -n else n), rest)

def readExponent? : List Char → Option (Option Int × List Char)
  | c :: rest =>
      if c = 'e' ∨ c = 'E' then
        match rest with
        | '+' :: rest => readPower? false rest
        | '-' :: rest => readPower? true rest
        | rest => readPower? false rest
      else some (none, c :: rest)
  | [] => some (none, [])

def readUnsigned? (negative : Bool) (cs : List Char) : Option (Literal × List Char) := do
  let (whole, rest) ← readWhole? cs
  let (fraction, rest) ← readFraction? rest
  let (exponent, rest) ← readExponent? rest
  return (⟨negative, whole, fraction, exponent⟩, rest)

def read? : List Char → Option (Literal × List Char)
  | '-' :: rest => readUnsigned? true rest
  | cs => readUnsigned? false cs

end Literal

end RemoteQuery
