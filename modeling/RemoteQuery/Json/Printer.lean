import RemoteQuery.Json.Basic
import RemoteQuery.Text.Hex

namespace RemoteQuery.Json

def escapeChar (c : Char) : List Char :=
  if c = '"' then ['\\', '"']
  else if c = '\\' then ['\\', '\\']
  else if c.toNat = 8 then ['\\', 'b']
  else if c.toNat = 12 then ['\\', 'f']
  else if c = '\n' then ['\\', 'n']
  else if c = '\r' then ['\\', 'r']
  else if c = '\t' then ['\\', 't']
  else if c.toNat < 32 then ['\\', 'u', '0', '0', Text.lowerHex (c.toNat / 16), Text.lowerHex (c.toNat % 16)]
  else [c]

def quote (s : String) : List Char := '"' :: (s.toList.flatMap escapeChar ++ ['"'])

mutual
def render : Json → List Char
  | .null => ['n', 'u', 'l', 'l']
  | .bool true => ['t', 'r', 'u', 'e']
  | .bool false => ['f', 'a', 'l', 's', 'e']
  | .num n => n.render
  | .str s => quote s
  | .list [] => ['[', ']']
  | .list (j :: rest) => '[' :: (render j ++ renderItems rest)
  | .object [] => ['{', '}']
  | .object ((key, j) :: rest) => '{' :: (quote key ++ ':' :: (render j ++ renderFields rest))
def renderItems : List Json → List Char
  | [] => [']']
  | j :: rest => ',' :: (render j ++ renderItems rest)
def renderFields : List (String × Json) → List Char
  | [] => ['}']
  | (key, j) :: rest => ',' :: (quote key ++ ':' :: (render j ++ renderFields rest))
end

def text (j : Json) : String := String.ofList j.render

end RemoteQuery.Json
