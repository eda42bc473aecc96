namespace RemoteQuery.Text.Utf8

inductive Fault where
  | invalid (index length : Nat)
  | incomplete (index : Nat)
  deriving DecidableEq, Repr

def Fault.message : Fault → String
  | .invalid index length =>
      "invalid utf-8 sequence of " ++ toString length ++ " bytes from index " ++ toString index
  | .incomplete index => "incomplete utf-8 byte sequence from index " ++ toString index

def encodeChar (c : Char) : List Nat :=
  let n := c.toNat
  if n < 0x80 then [n]
  else if n < 0x800 then [0xC0 + n / 64, 0x80 + n % 64]
  else if n < 0x10000 then [0xE0 + n / 4096, 0x80 + n / 64 % 64, 0x80 + n % 64]
  else [0xF0 + n / 262144, 0x80 + n / 4096 % 64, 0x80 + n / 64 % 64, 0x80 + n % 64]

def encode (cs : List Char) : List Nat := cs.flatMap encodeChar

def isTail (b : Nat) : Bool := 0x80 ≤ b && b < 0xC0

def lead? (a : Nat) : Option (Nat × Nat × Nat) :=
  if a < 0xC2 then none
  else if a < 0xE0 then some (1, 0x80, 0xBF)
  else if a = 0xE0 then some (2, 0xA0, 0xBF)
  else if a = 0xED then some (2, 0x80, 0x9F)
  else if a < 0xF0 then some (2, 0x80, 0xBF)
  else if a = 0xF0 then some (3, 0x90, 0xBF)
  else if a < 0xF4 then some (3, 0x80, 0xBF)
  else if a = 0xF4 then some (3, 0x80, 0x8F)
  else none

def decodeAt (index : Nat) : List Nat → Except Fault (List Char)
  | [] => .ok []
  | a :: rest =>
      if a < 0x80 then (decodeAt (index + 1) rest).map (Char.ofNat a :: ·)
      else match lead? a with
        | none => .error (.invalid index 1)
        | some (more, low, high) =>
            match rest with
            | [] => .error (.incomplete index)
            | b :: rest =>
                if b < low ∨ high < b then .error (.invalid index 1)
                else if more = 1 then
                  (decodeAt (index + 2) rest).map (Char.ofNat (a % 32 * 64 + b % 64) :: ·)
                else match rest with
                  | [] => .error (.incomplete index)
                  | c :: rest =>
                      if !isTail c then .error (.invalid index 2)
                      else if more = 2 then
                        (decodeAt (index + 3) rest).map
                          (Char.ofNat (a % 16 * 4096 + b % 64 * 64 + c % 64) :: ·)
                      else match rest with
                        | [] => .error (.incomplete index)
                        | d :: rest =>
                            if !isTail d then .error (.invalid index 3)
                            else (decodeAt (index + 4) rest).map
                              (Char.ofNat (a % 8 * 262144 + b % 64 * 4096 + c % 64 * 64 + d % 64)
                                :: ·)

def decode (octets : List Nat) : Except Fault (List Char) := decodeAt 0 octets

end RemoteQuery.Text.Utf8
