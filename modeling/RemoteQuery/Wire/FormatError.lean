import RemoteQuery.Json.Printer
import RemoteQuery.Text.Utf8

namespace RemoteQuery

inductive FormatError where
  | unknownToken (kind token : String)
  | missingKey (context key : String)
  | wrongType (context expected : String) (found : Json)
  | badOctets (piece : String) (fault : Text.Utf8.Fault)
  | malformedJson

namespace FormatError

def value : FormatError → String
  | .unknownToken _ token => token
  | .missingKey _ key => key
  | .wrongType _ _ found => found.text
  | .badOctets piece _ => piece
  | .malformedJson => ""

def detail : FormatError → String
  | .unknownToken kind token => "unknown " ++ kind ++ " token '" ++ token ++ "'"
  | .missingKey context key => "missing required key '" ++ key ++ "' in " ++ context
  | .wrongType context expected found =>
      "expected " ++ expected ++ " in " ++ context ++ ", found " ++ found.text
  | .badOctets _ fault => "invalid percent-encoding in query string: " ++ fault.message
  | .malformedJson => "malformed JSON"

def message (e : FormatError) : String := "Format error: " ++ e.detail

end FormatError

abbrev Decoded (α : Type) := Except FormatError α

namespace Decoded

variable {α β : Type}

@[simp] theorem ok_bind (a : α) (f : α → Decoded β) : (Except.ok a >>= f : Decoded β) = f a := rfl

@[simp] theorem error_bind (e : FormatError) (f : α → Decoded β) :
    ((Except.error e : Decoded α) >>= f) = .error e := rfl

@[simp] theorem pure_eq_ok (a : α) : (pure a : Decoded α) = .ok a := rfl

end Decoded

end RemoteQuery
