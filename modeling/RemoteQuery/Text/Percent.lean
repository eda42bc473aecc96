import RemoteQuery.Text.Hex
import RemoteQuery.Text.Utf8

namespace RemoteQuery.Text.Percent

def isUnreserved (c : Char) : Bool := c.isAlphanum || c = '-' || c = '_' || c = '.' || c = '~'

def escapeOctet (n : Nat) : List Char := ['%', upperHex (n / 16), upperHex (n % 16)]

def encodeChar (c : Char) : List Char :=
  if isUnreserved c then [c] else (Utf8.encodeChar c).flatMap escapeOctet

def encode (cs : List Char) : List Char := cs.flatMap encodeChar

def octets : List Char → List Nat
  | '%' :: a :: b :: rest =>
      match hexValue? a, hexValue? b with
      | some x, some y => (x * 16 + y) :: octets rest
      | _, _ => 37 :: octets (a :: b :: rest)
  | c :: rest => Utf8.encodeChar c ++ octets rest
  | [] => []
termination_by structural cs => cs

def decode (cs : List Char) : Except Utf8.Fault (List Char) := Utf8.decode (octets cs)

end RemoteQuery.Text.Percent
