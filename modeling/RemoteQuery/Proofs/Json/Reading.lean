import RemoteQuery.Proofs.Fields
import RemoteQuery.Proofs.Json.Basic
import RemoteQuery.Proofs.Json.Quoted
import RemoteQuery.Proofs.Number.Literal

namespace RemoteQuery.Json

theorem skipSpace_cons {c : Char} (h : isSpace c = false) (cs : List Char) :
    skipSpace (c :: cs) = c :: cs := by
  simp only [skipSpace, List.dropWhile_cons, h, Bool.false_eq_true, if_false]

def Literals (j : Json) : Prop := ∀ n, Within (.num n) j → n.IsLiteral

def LiteralItems (js : List Json) : Prop := ∀ j ∈ js, j.Literals

def LiteralFields (fields : Fields Json) : Prop := ∀ entry ∈ fields, entry.2.Literals

theorem Literals.items {js : List Json} (h : (list js).Literals) : LiteralItems js :=
  fun _ hj n hn => h n (.item hj hn)

theorem Literals.fields {fields : Fields Json} (h : (object fields).Literals) :
    LiteralFields fields :=
  fun _ hentry n hn => h n (.field hentry hn)

theorem number_render_eq_cons {n : Number} (h : n.IsLiteral) :
    ∃ c cs, n.render = c :: cs ∧ isNumeric c = true := by
  obtain ⟨l, hread, _⟩ := h
  cases hrender : n.render with
  | nil =>
      rw [hrender] at hread
      cases hread
  | cons c cs =>
      refine ⟨c, cs, rfl, Numeric.render n c ?_⟩
      rw [hrender]
      exact List.mem_cons_self ..

theorem isNumeric_ne {c d : Char} (hc : isNumeric c = true) (hd : isNumeric d = false) : c ≠ d := by
  rintro rfl
  rw [hc] at hd
  cases hd

theorem isSpace_of_isNumeric {c : Char} (h : isNumeric c = true) : isSpace c = false := by
  have hne : ∀ d, isNumeric d = false → c ≠ d := fun _ => isNumeric_ne h
  simp [isSpace, hne ' ' (by decide), hne '\t' (by decide), hne '\n' (by decide),
    hne '\r' (by decide)]

theorem render_eq_cons {j : Json} (h : j.Literals) :
    ∃ c cs, j.render = c :: cs ∧ isSpace c = false ∧ c ≠ ']' := by
  cases j with
  | null => exact ⟨_, _, rfl, by decide, by decide⟩
  | bool b => cases b <;> exact ⟨_, _, rfl, by decide, by decide⟩
  | num n =>
      obtain ⟨c, cs, hrender, hc⟩ := number_render_eq_cons (h n (.refl _))
      exact ⟨c, cs, hrender, isSpace_of_isNumeric hc, isNumeric_ne hc (by decide)⟩
  | str s => exact ⟨_, _, rfl, by decide, by decide⟩
  | list js => cases js <;> exact ⟨_, _, rfl, by decide, by decide⟩
  | object fields => cases fields <;> exact ⟨_, _, rfl, by decide, by decide⟩

theorem stops_renderItems (js : List Json) (rest : List Char) : Stops (renderItems js ++ rest) := by
  cases js <;> exact Stops.cons (by decide)

theorem stops_renderFields (fields : Fields Json) (rest : List Char) :
    Stops (renderFields fields ++ rest) := by
  cases fields <;> exact Stops.cons (by decide)

theorem read_both {α β γ : Type} {p q : Prop} [Decidable p] [Decidable q] {a : α} {b : β}
    {middle rest : List Char} {first : Option (α × List Char)}
    {next : List Char → Option (β × List Char)} (join : α → β → γ)
    (hfirst : first = if p then some (a, middle) else none)
    (hnext : next middle = if q then some (b, rest) else none) :
    (do
      let (a, rest) ← first
      let (b, rest) ← next rest
      return (join a b, rest)) = if p ∧ q then some (join a b, rest) else none := by
  rw [hfirst]
  by_cases hp : p
  · simp only [hp, if_true, Option.bind_eq_bind, Option.bind_some, hnext, true_and]
    split <;> rfl
  · simp only [hp, if_false, false_and]
    rfl

section Steps

variable (fuel d : Nat)

theorem readValue?_num {n : Number} (h : n.IsLiteral) {rest : List Char} (hrest : Stops rest) :
    readValue? (fuel + 1) d (n.render ++ rest) = some (.num n, rest) := by
  obtain ⟨c, cs, hrender, hc⟩ := number_render_eq_cons h
  obtain ⟨l, hread, hnumber⟩ := h
  have hne : ∀ e, isNumeric e = false → c ≠ e := fun _ => isNumeric_ne hc
  have hnumberRead : readNumber? (n.render ++ rest) = some (.num n, rest) := by
    simp only [readNumber?, Literal.read?_append hrest hread, Option.bind_eq_bind, Option.bind_some,
      hnumber]
    rfl
  rw [hrender, List.cons_append] at hnumberRead ⊢
  simp only [readValue?, skipSpace_cons (isSpace_of_isNumeric hc), hne 'n' (by decide),
    hne 't' (by decide), hne 'f' (by decide), hne '"' (by decide), hne '[' (by decide),
    hne '{' (by decide), if_false, hnumberRead]

theorem readValue?_str (s : String) (rest : List Char) :
    readValue? (fuel + 1) d (quote s ++ rest) = some (.str s, rest) := by
  have hskip : skipSpace (quote s ++ rest) = '"' :: (s.toList.flatMap escapeChar ++ '"' :: rest) := by
    rw [quote, List.cons_append, List.append_assoc]
    rfl
  have hread := readString?_quoted s rest
  simp [readValue?, hskip, hread]

theorem readValue?_bracket (cs : List Char) : readValue? (fuel + 1) (d + 1) ('[' :: cs)
    = readList? fuel d cs := by
  simp [readValue?, skipSpace_cons (c := '[') (by decide)]

theorem readValue?_brace (cs : List Char) : readValue? (fuel + 1) (d + 1) ('{' :: cs)
    = readObject? fuel d cs := by
  simp [readValue?, skipSpace_cons (c := '{') (by decide)]

theorem readList?_cons {c : Char} (hspace : isSpace c = false) (hclose : c ≠ ']') (cs : List Char) :
    readList? (fuel + 1) d (c :: cs) = do
      let (j, rest) ← readValue? fuel d (c :: cs)
      let (js, rest) ← readItems? fuel d rest
      return (.list (j :: js), rest) := by
  rw [readList?, skipSpace_cons hspace]
  split
  · rename_i heq
    exact absurd (List.cons.inj heq).1 hclose
  · rfl

theorem readItems?_comma (cs : List Char) :
    readItems? (fuel + 1) d (',' :: cs) = do
      let (j, rest) ← readValue? fuel d cs
      let (js, rest) ← readItems? fuel d rest
      return (j :: js, rest) := by
  rw [readItems?, skipSpace_cons (c := ',') (by decide)]
  rfl

theorem readObject?_quote (key : String) (cs : List Char) :
    readObject? (fuel + 1) d (quote key ++ ':' :: cs) = do
      let (j, rest) ← readValue? fuel d cs
      let (members, rest) ← readMembers? fuel d rest
      return (.object (Fields.ofPairs ((key, j) :: members)), rest) := by
  have hskip : skipSpace (quote key ++ ':' :: cs) = quote key ++ ':' :: cs := rfl
  rw [readObject?, hskip]
  split
  · rename_i heq
    exact absurd (List.cons.inj heq).1 (by decide)
  · rw [readKey?_quote]
    rfl

theorem readMembers?_comma (key : String) (cs : List Char) :
    readMembers? (fuel + 1) d (',' :: (quote key ++ ':' :: cs)) = do
      let (j, rest) ← readValue? fuel d cs
      let (members, rest) ← readMembers? fuel d rest
      return ((key, j) :: members, rest) := by
  rw [readMembers?, skipSpace_cons (c := ',') (by decide)]
  simp only [readKey?_quote]
  rfl

end Steps

def ReadsBack (j : Json) : Prop := ∀ fuel d rest, 2 * j.render.length ≤ fuel → Stops rest →
  readValue? fuel d (j.render ++ rest) = if j.depth ≤ d then some (j, rest) else none

theorem readItems?_render {js : List Json} (h : ∀ j ∈ js, j.ReadsBack) :
    ∀ fuel d rest, 2 * (renderItems js).length ≤ fuel →
      readItems? fuel d (renderItems js ++ rest)
        = if depthItems js ≤ d then some (js, rest) else none := by
  induction js with
  | nil =>
      intro fuel d rest hfuel
      simp only [renderItems, List.length_cons, List.length_nil] at hfuel
      obtain ⟨fuel, rfl⟩ : ∃ n, fuel = n + 1 := ⟨fuel - 1, by omega⟩
      simp [renderItems, depthItems, readItems?, skipSpace_cons (c := ']') (by decide)]
  | cons j js ih =>
      intro fuel d rest hfuel
      simp only [renderItems, List.length_cons, List.length_append] at hfuel
      obtain ⟨fuel, rfl⟩ : ∃ n, fuel = n + 1 := ⟨fuel - 1, by omega⟩
      have hj := h j (List.mem_cons_self ..) fuel d (renderItems js ++ rest) (by omega)
        (stops_renderItems js rest)
      have hjs := ih (fun k hk => h k (List.mem_cons_of_mem _ hk)) fuel d rest (by omega)
      simp only [renderItems, List.cons_append, List.append_assoc, readItems?_comma, depthItems,
        Nat.max_le]
      exact read_both List.cons hj hjs

theorem readMembers?_render {fields : Fields Json} (h : ∀ entry ∈ fields, entry.2.ReadsBack) :
    ∀ fuel d rest, 2 * (renderFields fields).length ≤ fuel →
      readMembers? fuel d (renderFields fields ++ rest)
        = if depthFields fields ≤ d then some (fields, rest) else none := by
  induction fields with
  | nil =>
      intro fuel d rest hfuel
      simp only [renderFields, List.length_cons, List.length_nil] at hfuel
      obtain ⟨fuel, rfl⟩ : ∃ n, fuel = n + 1 := ⟨fuel - 1, by omega⟩
      simp [renderFields, depthFields, readMembers?, skipSpace_cons (c := '}') (by decide)]
  | cons entry fields ih =>
      obtain ⟨key, j⟩ := entry
      intro fuel d rest hfuel
      simp only [renderFields, List.length_cons, List.length_append] at hfuel
      obtain ⟨fuel, rfl⟩ : ∃ n, fuel = n + 1 := ⟨fuel - 1, by omega⟩
      have hback : j.ReadsBack := h (key, j) (List.mem_cons_self ..)
      have hj := hback fuel d (renderFields fields ++ rest) (by omega)
        (stops_renderFields fields rest)
      have hfields := ih (fun e he => h e (List.mem_cons_of_mem _ he)) fuel d rest (by omega)
      simp only [renderFields, List.cons_append, List.append_assoc, readMembers?_comma, depthFields,
        Nat.max_le]
      exact read_both (fun j members => (key, j) :: members) hj hfields

theorem readsBack_of_step {j : Json} (hscalar : j.isScalar = true) (hrender : j.render ≠ [])
    (h : ∀ fuel d rest, Stops rest → readValue? (fuel + 1) d (j.render ++ rest) = some (j, rest)) :
    j.ReadsBack := by
  intro fuel d rest hfuel hrest
  have hlength : 0 < j.render.length := List.length_pos_iff.2 hrender
  obtain ⟨fuel, rfl⟩ : ∃ n, fuel = n + 1 := ⟨fuel - 1, by omega⟩
  rw [depth_of_isScalar hscalar, if_pos (Nat.zero_le d)]
  exact h fuel d rest hrest

theorem readsBack_num {n : Number} (h : n.IsLiteral) : (num n).ReadsBack := by
  obtain ⟨c, cs, hrender, _⟩ := number_render_eq_cons h
  refine readsBack_of_step rfl ?_ fun fuel d rest hrest => ?_
  · rw [render, hrender]
    exact List.cons_ne_nil c cs
  · rw [render]
    exact readValue?_num fuel d h hrest

theorem readsBack_str (s : String) : (str s).ReadsBack := by
  refine readsBack_of_step rfl (List.cons_ne_nil _ _) fun fuel d rest _ => ?_
  rw [render]
  exact readValue?_str fuel d s rest

theorem readsBack_null : null.ReadsBack := by
  refine readsBack_of_step rfl (List.cons_ne_nil _ _) fun fuel d rest _ => ?_
  simp [render, readValue?, skipSpace_cons (c := 'n') (by decide), readWord?]

theorem readsBack_bool (b : Bool) : (bool b).ReadsBack := by
  cases b with
  | true =>
      refine readsBack_of_step rfl (List.cons_ne_nil _ _) fun fuel d rest _ => ?_
      simp [render, readValue?, skipSpace_cons (c := 't') (by decide), readWord?]
  | false =>
      refine readsBack_of_step rfl (List.cons_ne_nil _ _) fun fuel d rest _ => ?_
      simp [render, readValue?, skipSpace_cons (c := 'f') (by decide), readWord?]

theorem readsBack_list {js : List Json} (h : ∀ j ∈ js, j.ReadsBack) (hliterals : LiteralItems js) :
    (list js).ReadsBack := by
  intro fuel d rest hfuel _
  cases js with
  | nil =>
      simp only [render, List.length_cons, List.length_nil] at hfuel
      obtain ⟨fuel, rfl⟩ : ∃ n, fuel = n + 2 := ⟨fuel - 2, by omega⟩
      cases d with
      | zero => simp [render, depth, readValue?, skipSpace_cons (c := '[') (by decide)]
      | succ d =>
          simp [render, depth, depthItems, readValue?_bracket, readList?,
            skipSpace_cons (c := ']') (by decide)]
  | cons j js =>
      simp only [render, List.length_cons, List.length_append] at hfuel
      obtain ⟨fuel, rfl⟩ : ∃ n, fuel = n + 2 := ⟨fuel - 2, by omega⟩
      cases d with
      | zero => simp [render, depth, readValue?, skipSpace_cons (c := '[') (by decide)]
      | succ d =>
          obtain ⟨c, cs, hrender, hspace, hclose⟩ :=
            render_eq_cons (hliterals j (List.mem_cons_self ..))
          have hj := h j (List.mem_cons_self ..) fuel d (renderItems js ++ rest) (by omega)
            (stops_renderItems js rest)
          have hjs := readItems?_render (fun k hk => h k (List.mem_cons_of_mem _ hk)) fuel d rest
            (by omega)
          have hlist : readList? (fuel + 1) d (j.render ++ (renderItems js ++ rest))
              = (do
                let (j, rest) ← readValue? fuel d (j.render ++ (renderItems js ++ rest))
                let (js, rest) ← readItems? fuel d rest
                return (.list (j :: js), rest)) := by
            rw [hrender, List.cons_append]
            exact readList?_cons fuel d hspace hclose _
          simp only [render, List.cons_append, List.append_assoc, readValue?_bracket, hlist, depth,
            depthItems, Nat.add_le_add_iff_right, Nat.max_le]
          exact read_both (fun j js => list (j :: js)) hj hjs

theorem readsBack_object {fields : Fields Json} (h : ∀ entry ∈ fields, entry.2.ReadsBack)
    (hsorted : fields.Sorted) : (object fields).ReadsBack := by
  intro fuel d rest hfuel _
  cases fields with
  | nil =>
      simp only [render, List.length_cons, List.length_nil] at hfuel
      obtain ⟨fuel, rfl⟩ : ∃ n, fuel = n + 2 := ⟨fuel - 2, by omega⟩
      cases d with
      | zero => simp [render, depth, readValue?, skipSpace_cons (c := '{') (by decide)]
      | succ d =>
          simp [render, depth, depthFields, readValue?_brace, readObject?,
            skipSpace_cons (c := '}') (by decide)]
  | cons entry fields =>
      obtain ⟨key, j⟩ := entry
      simp only [render, List.length_cons, List.length_append] at hfuel
      obtain ⟨fuel, rfl⟩ : ∃ n, fuel = n + 2 := ⟨fuel - 2, by omega⟩
      cases d with
      | zero => simp [render, depth, readValue?, skipSpace_cons (c := '{') (by decide)]
      | succ d =>
          have hback : j.ReadsBack := h (key, j) (List.mem_cons_self ..)
          have hj := hback fuel d (renderFields fields ++ rest) (by omega)
            (stops_renderFields fields rest)
          have hfields := readMembers?_render (fun e he => h e (List.mem_cons_of_mem _ he)) fuel d rest
            (by omega)
          have hpairs : object (Fields.ofPairs ((key, j) :: fields)) = object ((key, j) :: fields) := by
            rw [Fields.ofPairs_of_sorted hsorted]
          simp only [render, List.cons_append, List.append_assoc, readValue?_brace,
            readObject?_quote, depth, depthFields, Nat.add_le_add_iff_right, Nat.max_le]
          rw [← hpairs]
          exact read_both (fun j members => object (Fields.ofPairs ((key, j) :: members))) hj hfields

theorem readsBack {j : Json} : j.Ordered → j.Literals → j.ReadsBack := by
  induction j using induct with
  | null => exact fun _ _ => readsBack_null
  | bool b => exact fun _ _ => readsBack_bool b
  | num n => exact fun _ h => readsBack_num (h n (.refl _))
  | str s => exact fun _ _ => readsBack_str s
  | list js ih =>
      intro hordered hliterals
      rw [ordered_list] at hordered
      exact readsBack_list (fun j hj => ih j hj (hordered j hj) (hliterals.items j hj))
        hliterals.items
  | object fields ih =>
      intro hordered hliterals
      rw [ordered_object] at hordered
      exact readsBack_object (fun e he => ih e he (hordered.2 e he) (hliterals.fields e he))
        hordered.1

theorem parse?_text {j : Json} (hordered : j.Ordered) (hliterals : j.Literals) :
    parse? j.text = if j.depth ≤ maxDepth then some j else none := by
  have hread := readsBack hordered hliterals (2 * j.render.length + 2) maxDepth [] (by omega) .nil
  rw [List.append_nil] at hread
  rw [parse?, text, String.toList_ofList, parseWithin?, readFront?, hread]
  by_cases hdepth : j.depth ≤ maxDepth
  · simp only [hdepth, if_true]
    rfl
  · simp only [hdepth, if_false]

mutual
def floats : Json → List Binary64
  | .num (.float x) => [x]
  | .list items => floatsIn items
  | .object fields => floatsInFields fields
  | _ => []
def floatsIn : List Json → List Binary64
  | [] => []
  | j :: rest => j.floats ++ floatsIn rest
def floatsInFields : List (String × Json) → List Binary64
  | [] => []
  | (_, j) :: rest => j.floats ++ floatsInFields rest
end

theorem mem_floatsIn {x : Binary64} {j : Json} {items : List Json} (hj : j ∈ items)
    (hx : x ∈ j.floats) : x ∈ floatsIn items := by
  induction items with
  | nil => cases hj
  | cons i rest ih =>
      rw [floatsIn, List.mem_append]
      rcases List.mem_cons.1 hj with rfl | hj
      · exact .inl hx
      · exact .inr (ih hj)

theorem mem_floatsInFields {x : Binary64} {key : String} {j : Json} {fields : Fields Json}
    (hj : (key, j) ∈ fields) (hx : x ∈ j.floats) : x ∈ floatsInFields fields := by
  induction fields with
  | nil => cases hj
  | cons entry rest ih =>
      rw [floatsInFields, List.mem_append]
      rcases List.mem_cons.1 hj with rfl | hj
      · exact .inl hx
      · exact .inr (ih hj)

theorem mem_floats_of_within {x : Binary64} {j : Json} (h : Within (.num (.float x)) j) :
    x ∈ j.floats := by
  induction h with
  | refl =>
      rw [floats]
      exact List.mem_singleton_self x
  | item hmem _ ih =>
      rw [floats]
      exact mem_floatsIn hmem ih
  | field hmem _ ih =>
      rw [floats]
      exact mem_floatsInFields hmem ih

theorem eq_of_floats {x y : Binary64} {j : Json} (hj : j.floats = [y])
    (h : Within (.num (.float x)) j) : x = y := by
  have hx := mem_floats_of_within h
  rw [hj] at hx
  exact List.mem_singleton.1 hx

theorem Literals.of_floats {j : Json}
    (h : ∀ x, Within (.num (.float x)) j → (Number.float x).IsLiteral) : j.Literals := by
  intro n hn
  cases n with
  | unsigned n => exact Number.isLiteral_unsigned n
  | negative n below => exact Number.isLiteral_negative n below
  | float x => exact h x hn

end RemoteQuery.Json
