import RemoteQuery.Wire.Structural

namespace RemoteQuery

class Token (α : Type) where
  kind : String
  all : List α
  token : α → String
  mem_all : ∀ a, a ∈ all
  token_injective : ∀ a b, token a = token b → a = b

namespace Token

variable {α : Type} [Token α]

def ofText (text : String) : Decoded α :=
  match (all (α := α)).find? (fun a => token a == text) with
  | some a => .ok a
  | none => .error (.unknownToken (kind α) text)

def ofStructure (j : Json) : Decoded α :=
  match j with
  | .str text => ofText text
  | _ => .error (.unknownToken (kind α) j.text)

def toStructure (a : α) : Json := .str (token a)

theorem ofText_token (a : α) : ofText (token a) = .ok a := by
  simp only [ofText]
  cases h : (all (α := α)).find? (fun b => token b == token a) with
  | none =>
      have := List.find?_eq_none.1 h a (mem_all a)
      simp at this
  | some b =>
      have hb := List.find?_some h
      rw [token_injective b a (by simpa using hb)]

theorem token_of_ofText {text : String} {a : α} (h : ofText text = .ok a) : token a = text := by
  simp only [ofText] at h
  cases hf : (all (α := α)).find? (fun b => token b == text) with
  | none => rw [hf] at h; simp at h
  | some b =>
      rw [hf] at h
      simp only [Except.ok.injEq] at h
      subst h
      simpa using List.find?_some hf

instance : Structural α where
  toStructure := toStructure
  ofStructure := ofStructure

end Token

end RemoteQuery
