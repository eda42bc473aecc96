import RemoteQuery.Query.Params
import RemoteQuery.Text.Word

namespace RemoteQuery

namespace Json

mutual
def mentions (name : String) : Json → Bool
  | .str s => Text.namesWord s name
  | .list items => mentionsIn name items
  | .object fields => mentionsInFields name fields
  | _ => false
def mentionsIn (name : String) : List Json → Bool
  | [] => false
  | j :: rest => mentions name j || mentionsIn name rest
def mentionsInFields (name : String) : List (String × Json) → Bool
  | [] => false
  | (key, j) :: rest =>
      Text.namesWord key name || mentions name j || mentionsInFields name rest
end

end Json

def RecursiveCte.referencesSelf (c : RecursiveCte QueryParams) : Bool :=
  c.recursiveTable = some c.name || c.recursive.toStructure.mentions c.name

end RemoteQuery
