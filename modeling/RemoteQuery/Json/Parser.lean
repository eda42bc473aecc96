import RemoteQuery.Json.Basic
import RemoteQuery.Number.Literal
import RemoteQuery.Text.Hex
/-!
Strict JSON reading. A reader takes a value off the front of a text and gives the rest back. Nesting
is bounded by `depth`. Every two steps take a character, so a `fuel` of twice the length is enough.
-/

namespace RemoteQuery.Json

def isSpace (c : Char) : Bool := c = ' ' || c = '\t' || c = '\n' || c = '\r'

def skipSpace (cs : List Char) : List Char := cs.dropWhile isSpace

def readHex4? : List Char → Option (Nat × List Char)
  | a :: b :: c :: d :: rest => do
      let a ← Text.hexValue? a
      let b ← Text.hexValue? b
      let c ← Text.hexValue? c
      let d ← Text.hexValue? d
      return (((a * 16 + b) * 16 + c) * 16 + d, rest)
  | _ => none

def isHighSurrogate (n : Nat) : Bool := 0xD800 ≤ n && n < 0xDC00

def isLowSurrogate (n : Nat) : Bool := 0xDC00 ≤ n && n < 0xE000

/-- Of the halves of a surrogate pair neither may stand alone. -/
def readUnicode? (cs : List Char) : Option (Char × List Char) := do
  let (n, rest) ← readHex4? cs
  if isHighSurrogate n then
    match rest with
    | '\\' :: 'u' :: rest => do
        let (low, rest) ← readHex4? rest
        if isLowSurrogate low
          then return (Char.ofNat (0x10000 + (n - 0xD800) * 1024 + (low - 0xDC00)), rest)
          else none
    | _ => none
  else if isLowSurrogate n then none
  else return (Char.ofNat n, rest)

def readEscape? : List Char → Option (Char × List Char)
  | '"' :: rest => some ('"', rest)
  | '\\' :: rest => some ('\\', rest)
  | '/' :: rest => some ('/', rest)
  | 'b' :: rest => some (Char.ofNat 8, rest)
  | 'f' :: rest => some (Char.ofNat 12, rest)
  | 'n' :: rest => some ('\n', rest)
  | 'r' :: rest => some ('\r', rest)
  | 't' :: rest => some ('\t', rest)
  | 'u' :: rest => readUnicode? rest
  | _ => none

def readChars? : Nat → List Char → Option (List Char × List Char)
  | 0, _ => none
  | _ + 1, [] => none
  | fuel + 1, c :: rest =>
      if c = '"' then some ([], rest)
      else if c = '\\' then do
        let (d, rest) ← readEscape? rest
        let (ds, rest) ← readChars? fuel rest
        return (d :: ds, rest)
      else if c.toNat < 32 then none
      else do
        let (ds, rest) ← readChars? fuel rest
        return (c :: ds, rest)

def readString? (cs : List Char) : Option (String × List Char) :=
  (readChars? (cs.length + 1) cs).map fun (ds, rest) => (String.ofList ds, rest)

def readWord? (word : List Char) (j : Json) (cs : List Char) : Option (Json × List Char) :=
  if word.isPrefixOf cs then some (j, cs.drop word.length) else none

def readNumber? (cs : List Char) : Option (Json × List Char) := do
  let (literal, rest) ← Literal.read? cs
  let n ← literal.number?
  return (.num n, rest)

def readColon? (cs : List Char) : Option (List Char) :=
  match skipSpace cs with
  | ':' :: rest => some rest
  | _ => none

def readKey? (cs : List Char) : Option (String × List Char) :=
  match skipSpace cs with
  | '"' :: rest => do
      let (key, rest) ← readString? rest
      let rest ← readColon? rest
      return (key, rest)
  | _ => none

mutual
def readValue? : Nat → Nat → List Char → Option (Json × List Char)
  | 0, _, _ => none
  | fuel + 1, depth, cs =>
      match skipSpace cs with
      | [] => none
      | c :: rest =>
          if c = 'n' then readWord? ['u', 'l', 'l'] .null rest
          else if c = 't' then readWord? ['r', 'u', 'e'] (.bool true) rest
          else if c = 'f' then readWord? ['a', 'l', 's', 'e'] (.bool false) rest
          else if c = '"' then (readString? rest).map fun (s, rest) => (.str s, rest)
          else if c = '[' then
            match depth with
            | 0 => none
            | depth + 1 => readList? fuel depth rest
          else if c = '{' then
            match depth with
            | 0 => none
            | depth + 1 => readObject? fuel depth rest
          else readNumber? (c :: rest)
def readList? : Nat → Nat → List Char → Option (Json × List Char)
  | 0, _, _ => none
  | fuel + 1, depth, cs =>
      match skipSpace cs with
      | ']' :: rest => some (.list [], rest)
      | cs => do
          let (j, rest) ← readValue? fuel depth cs
          let (js, rest) ← readItems? fuel depth rest
          return (.list (j :: js), rest)
def readItems? : Nat → Nat → List Char → Option (List Json × List Char)
  | 0, _, _ => none
  | fuel + 1, depth, cs =>
      match skipSpace cs with
      | ']' :: rest => some ([], rest)
      | ',' :: rest => do
          let (j, rest) ← readValue? fuel depth rest
          let (js, rest) ← readItems? fuel depth rest
          return (j :: js, rest)
      | _ => none
def readObject? : Nat → Nat → List Char → Option (Json × List Char)
  | 0, _, _ => none
  | fuel + 1, depth, cs =>
      match skipSpace cs with
      | '}' :: rest => some (.object [], rest)
      | cs => do
          let (key, rest) ← readKey? cs
          let (j, rest) ← readValue? fuel depth rest
          let (members, rest) ← readMembers? fuel depth rest
          return (.object (Fields.ofPairs ((key, j) :: members)), rest)
def readMembers? : Nat → Nat → List Char → Option (List (String × Json) × List Char)
  | 0, _, _ => none
  | fuel + 1, depth, cs =>
      match skipSpace cs with
      | '}' :: rest => some ([], rest)
      | ',' :: rest => do
          let (key, rest) ← readKey? rest
          let (j, rest) ← readValue? fuel depth rest
          let (members, rest) ← readMembers? fuel depth rest
          return ((key, j) :: members, rest)
      | _ => none
end

def readFront? (depth : Nat) (cs : List Char) : Option (Json × List Char) :=
  readValue? (2 * cs.length + 2) depth cs

def parseWithin? (depth : Nat) (cs : List Char) : Option Json :=
  match readFront? depth cs with
  | some (j, rest) => if (skipSpace rest).isEmpty then some j else none
  | none => none

def maxDepth : Nat := 127

def parse? (s : String) : Option Json := parseWithin? maxDepth s.toList

end RemoteQuery.Json
