namespace RemoteQuery.Text

def pieces (sep : Char → Bool) : List Char → List (List Char)
  | [] => [[]]
  | c :: rest =>
      if sep c then [] :: pieces sep rest
      else match pieces sep rest with
        | [] => [[c]]
        | p :: ps => (c :: p) :: ps

def joinWith (sep : Char) : List (List Char) → List Char
  | [] => []
  | [p] => p
  | p :: q :: ps => p ++ sep :: joinWith sep (q :: ps)

def cutAt (sep : Char) : List Char → Option (List Char × List Char)
  | [] => none
  | c :: rest =>
      if c = sep then some ([], rest)
      else (cutAt sep rest).map fun (before, after) => (c :: before, after)

def startsWith (cs : List Char) : List Char → Bool := cs.isPrefixOf

theorem pieces_ne_nil (sep : Char → Bool) (cs : List Char) : pieces sep cs ≠ [] := by
  induction cs with
  | nil => simp [pieces]
  | cons c rest ih =>
      simp only [pieces]
      split
      · simp
      · cases h : pieces sep rest with
        | nil => exact absurd h ih
        | cons p ps => simp

theorem pieces_of_none {sep : Char → Bool} {cs : List Char} (h : ∀ c ∈ cs, sep c = false) :
    pieces sep cs = [cs] := by
  induction cs with
  | nil => rfl
  | cons c rest ih =>
      have hc := h c (List.mem_cons_self ..)
      have hrest := ih (fun d hd => h d (List.mem_cons_of_mem _ hd))
      simp [pieces, hc, hrest]

theorem pieces_append_cons {sep : Char → Bool} {cs : List Char} {s : Char} (rest : List Char)
    (h : ∀ c ∈ cs, sep c = false) (hs : sep s = true) :
    pieces sep (cs ++ s :: rest) = cs :: pieces sep rest := by
  induction cs with
  | nil => simp [pieces, hs]
  | cons c cs ih =>
      have hc := h c (List.mem_cons_self ..)
      have hcs := ih (fun d hd => h d (List.mem_cons_of_mem _ hd))
      simp [pieces, hc, hcs]

theorem cutAt_append {sep : Char} {cs : List Char} (rest : List Char) (h : ∀ c ∈ cs, c ≠ sep) :
    cutAt sep (cs ++ sep :: rest) = some (cs, rest) := by
  induction cs with
  | nil => simp [cutAt]
  | cons c cs ih =>
      have hc := h c (List.mem_cons_self ..)
      have hcs := ih (fun d hd => h d (List.mem_cons_of_mem _ hd))
      simp [cutAt, hc, hcs]

end RemoteQuery.Text
