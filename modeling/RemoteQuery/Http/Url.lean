import RemoteQuery.Http.Host
import RemoteQuery.Service.Request

namespace RemoteQuery.Http

open Text

def trimSlashes (cs : List Char) : List Char := (cs.reverse.dropWhile (· = '/')).reverse

def endpoint (baseUrl : String) (request : Request) : String :=
  String.ofList (trimSlashes baseUrl.toList) ++ request.target

namespace Url

def isSlash (c : Char) : Bool := c = '/' || c = '\\'

def endsPath (c : Char) : Bool := c = '?' || c = '#'

def isTrimmed (c : Char) : Bool := c.toNat ≤ 32

def isSkipped (c : Char) : Bool := c = '\t' || c = '\n' || c = '\r'

def normalText (cs : List Char) : List Char :=
  ((cs.dropWhile isTrimmed).reverse.dropWhile isTrimmed).reverse.filter (fun c => !isSkipped c)

def afterScheme? (cs : List Char) : Option (List Char) :=
  if startsWith "https:".toList cs then some (cs.drop 6)
  else if startsWith "http:".toList cs then some (cs.drop 5)
  else none

def dots? : List Char → Option Nat
  | [] => some 0
  | '.' :: rest => (dots? rest).map (· + 1)
  | '%' :: '2' :: 'e' :: rest => (dots? rest).map (· + 1)
  | '%' :: '2' :: 'E' :: rest => (dots? rest).map (· + 1)
  | _ => none

def parent (stack : List (List Char)) : List (List Char) := stack.drop 1

def resolveFrom (stack : List (List Char)) : List (List Char) → List (List Char)
  | [] => stack.reverse
  | [s] =>
      match dots? s with
      | some 1 => ([] :: stack).reverse
      | some 2 => ([] :: parent stack).reverse
      | _ => (s :: stack).reverse
  | s :: rest =>
      match dots? s with
      | some 1 => resolveFrom stack rest
      | some 2 => resolveFrom (parent stack) rest
      | _ => resolveFrom (s :: stack) rest

def resolve (segments : List (List Char)) : List (List Char) := resolveFrom [] segments

def segments (path : List Char) : List (List Char) := resolve (pieces isSlash (path.drop 1))

def isPlain (escaped : List Char) (c : Char) : Bool :=
  32 < c.toNat && c.toNat < 127 && !escaped.contains c

def escape (escaped cs : List Char) : List Char :=
  cs.flatMap fun c =>
    if isPlain escaped c then [c] else (Utf8.encodeChar c).flatMap Percent.escapeOctet

def pathEscapes : List Char := ['"', '#', '<', '>', '?', '`', '{', '}']

def queryEscapes : List Char := ['"', '#', '<', '>', '\'']

def pathText (path : List Char) : List Char :=
  (segments path).flatMap fun s => '/' :: escape pathEscapes s

def queryText : List Char → List Char
  | '?' :: rest => '?' :: escape queryEscapes (rest.takeWhile (· ≠ '#'))
  | _ => []

def targetText (cs : List Char) : List Char :=
  pathText (cs.takeWhile (fun c => !endsPath c)) ++ queryText (cs.dropWhile (fun c => !endsPath c))

def endsAuthority (c : Char) : Bool := isSlash c || endsPath c

/-- Beyond this length an address is not asked for. -/
def maxLength : Nat := 65534

def split? (url : String) : Option (String × String) := do
  let cs := normalText url.toList
  let rest ← afterScheme? cs
  let scheme := cs.length - rest.length + 2
  let rest := rest.dropWhile isSlash
  let authority := rest.takeWhile (fun c => !endsAuthority c)
  let server := Authority.afterUser authority
  let target := targetText (rest.dropWhile (fun c => !endsAuthority c))
  if Authority.isAuthority authority && scheme + server.length + target.length ≤ maxLength
    then return (String.ofList server, String.ofList target)
    else none

def target? (url : String) : Option String := (split? url).map (·.2)

end Url

end RemoteQuery.Http
