import RemoteQuery.Clause.Vocabulary
import RemoteQuery.Text.Blank
import RemoteQuery.Text.Cased
import RemoteQuery.Text.Lower

namespace RemoteQuery

namespace Operator

def normalized (text : String) : List Char :=
  Text.lower Text.endsWord (Text.joinWith ' ' (Text.words text.toList))

def aliases : List (List Char × Operator) := [(['<', '>'], .notEqual), (['=', '='], .equal)]

def ofNormal? (cs : List Char) : Option Operator :=
  match aliases.lookup cs with
  | some op => some op
  | none => (Token.ofText (α := Operator) (String.ofList cs)).toOption

def parse (text : String) : Decoded Operator :=
  match ofNormal? (normalized text) with
  | some op => .ok op
  | none => .error (.unknownToken "operator" text)

end Operator

end RemoteQuery
