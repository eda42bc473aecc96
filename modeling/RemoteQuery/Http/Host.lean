import RemoteQuery.Number.Decimal
import RemoteQuery.Text.Percent
import RemoteQuery.Text.Pieces

namespace RemoteQuery.Http

open Text

namespace Host

def numberIn? (base : Nat) (ds : List Char) : Option Nat :=
  ds.foldlM (fun n c => do
    let d ← hexValue? c
    if d < base then return n * base + d else none) 0

/-- A leading zero makes the number octal, and `0x` makes it hexadecimal. -/
def number? : List Char → Option Nat
  | [] => none
  | '0' :: 'x' :: ds => numberIn? 16 ds
  | '0' :: 'X' :: ds => numberIn? 16 ds
  | '0' :: d :: ds => numberIn? 8 (d :: ds)
  | ds => numberIn? 10 ds

def labels (name : List Char) : List (List Char) :=
  let parts := pieces (· = '.') name
  if parts.getLast? = some [] then parts.dropLast else parts

def endsInNumber (name : List Char) : Bool :=
  match (labels name).getLast? with
  | some last => (!last.isEmpty && last.all Char.isDigit) || (number? last).isSome
  | none => false

/-- The last number fills all octets that the numbers before it leave. -/
def isOctets (name : List Char) : Bool :=
  match ((labels name).mapM number?).map List.reverse with
  | some (last :: rest) =>
      rest.length < 4 && rest.all (· < 256) && last < Nat.pow 256 (4 - rest.length)
  | _ => false

def isGroup (ds : List Char) : Bool :=
  !ds.isEmpty && ds.length ≤ 4 && ds.all fun c => (hexValue? c).isSome

def isOctet (ds : List Char) : Bool :=
  !ds.isEmpty && ds.all Char.isDigit && Decimal.ofDigits ds < 256
    && (ds.head? != some '0' || ds.length = 1)

def isDotted (cs : List Char) : Bool :=
  let parts := pieces (· = '.') cs
  parts.length = 4 && parts.all isOctet

/-- Four octets at the end stand for two groups. -/
def countGroups? : List (List Char) → Option Nat
  | [] => some 0
  | [last] => if isGroup last then some 1 else if isDotted last then some 2 else none
  | group :: rest => if isGroup group then (countGroups? rest).map (· + 1) else none

def groups (cs : List Char) : List (List Char) :=
  if cs.isEmpty then [] else pieces (· = ':') cs

def cutAtGap? : List Char → Option (List Char × List Char)
  | ':' :: ':' :: rest => some ([], rest)
  | c :: rest => (cutAtGap? rest).map fun (before, after) => (c :: before, after)
  | [] => none

/-- A double colon stands for at least one group of zeros. -/
def isGroups (cs : List Char) : Bool :=
  match cutAtGap? cs with
  | some (before, after) =>
      (groups before).all isGroup
        && (countGroups? (groups after)).any fun n => (groups before).length + n < 8
  | none => countGroups? (groups cs) == some 8

def isForbidden (c : Char) : Bool :=
  c.toNat ≤ 32 || c.toNat = 127 || "%#/:<>?@[\\]^|\"`\x7b\x7d".toList.contains c

def isName (name : List Char) : Bool :=
  !name.isEmpty && name.all (fun c => !isForbidden c) && (!endsInNumber name || isOctets name)

def isHost : List Char → Bool
  | '[' :: rest => rest.getLast? == some ']' && isGroups rest.dropLast
  | cs =>
      match Percent.decode cs with
      | .ok name => isName name
      | .error _ => false

end Host

namespace Authority

def afterUser (cs : List Char) : List Char := (cs.reverse.takeWhile (· ≠ '@')).reverse

def splitHost (bracketed : Bool) : List Char → List Char × List Char
  | [] => ([], [])
  | c :: rest =>
      if c = ':' && !bracketed then ([], c :: rest)
      else
        let (host, number) := splitHost (c = '[' || (bracketed && c ≠ ']')) rest
        (c :: host, number)

def isSocketNumber (cs : List Char) : Bool := cs.all Char.isDigit && Decimal.ofDigits cs < 65536

def isAuthority (cs : List Char) : Bool :=
  let (host, number) := splitHost false (afterUser cs)
  Host.isHost host && isSocketNumber (number.drop 1)

end Authority

end RemoteQuery.Http
