import RemoteQuery.Json.Parser
import RemoteQuery.Text.Percent
import RemoteQuery.Text.Pieces
import RemoteQuery.Wire.Structural

namespace RemoteQuery.QueryString

open Text

def component : Json → List Char
  | .str s => Percent.encode s.toList
  | .list items => Percent.encode (Json.list items).render
  | .object fields => Percent.encode (Json.object fields).render
  | j => j.render

def pairs : Json → List (String × String)
  | .object fields => fields.map fun (key, j) => (key, String.ofList (component j))
  | _ => []

def joinPair (pair : String × String) : List Char :=
  Percent.encode pair.1.toList ++ '=' :: pair.2.toList

def join (pairs : List (String × String)) : String :=
  String.ofList (joinWith '&' (pairs.map joinPair))

def encode (structure_ : Json) : String := join (pairs structure_)

def decodePiece (cs : List Char) : Decoded String :=
  match Percent.decode cs with
  | .ok ds => .ok (String.ofList ds)
  | .error fault => .error (.badOctets (String.ofList cs) fault)

def valueOf (text : String) : Json := (Json.parse? text).getD (.str text)

def cutPair (cs : List Char) : List Char × List Char := (cutAt '=' cs).getD (cs, [])

def decodePair (cs : List Char) : Decoded (String × Json) := do
  let key ← decodePiece (cutPair cs).1
  let text ← decodePiece (cutPair cs).2
  return (key, valueOf text)

def split (cs : List Char) : List (List Char) :=
  (pieces (· = '&') (cs.dropWhile (· = '?'))).filter (fun p => !p.isEmpty)

def decodeFields (query : String) : Decoded (Fields Json) := do
  let entries ← Wire.readAll decodePair (split query.toList)
  return Fields.ofPairs entries

def decode (query : String) : Decoded Json := do
  let fields ← decodeFields query
  return .object fields

end RemoteQuery.QueryString
