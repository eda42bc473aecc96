import RemoteQuery.Http.Url
import RemoteQuery.Proofs.Text.Percent
import RemoteQuery.Proofs.Text.Pieces

namespace RemoteQuery

open Text

namespace Http.Url

/-- A segment that path resolution takes for a step, to the same place or to the one above. -/
def IsStep (s : List Char) : Prop := dots? s = some 1 ∨ dots? s = some 2

section Dots

theorem dots?_cons_of_ne {c : Char} (hdot : c ≠ '.') (hpercent : c ≠ '%') (rest : List Char) :
    dots? (c :: rest) = none := by
  rw [dots?.eq_def]
  split <;> simp_all

theorem dots?_escapeOctet {n : Nat} (hn : n < 256) (hdot : n ≠ 46) (rest : List Char) :
    dots? (Percent.escapeOctet n ++ rest) = none := by
  have hhigh := hexValue?_upperHex (show n / 16 < 16 by omega)
  have hlow := hexValue?_upperHex (show n % 16 < 16 by omega)
  have hdigits : upperHex (n / 16) = '2' →
      upperHex (n % 16) ≠ 'e' ∧ upperHex (n % 16) ≠ 'E' := by
    intro h2
    rw [h2] at hhigh
    have htwo : 2 = n / 16 := Option.some.inj hhigh
    constructor <;>
    · intro he
      rw [he] at hlow
      have hfourteen : 14 = n % 16 := Option.some.inj hlow
      omega
  rw [Percent.escapeOctet, List.cons_append, List.cons_append, List.cons_append, List.nil_append,
    dots?.eq_def]
  split <;> simp_all

theorem exists_encodeChar (c : Char) :
    ∃ b bs, Utf8.encodeChar c = b :: bs ∧ b < 256 ∧ (b = 46 → c = '.') := by
  have hscalar := Utf8.scalar_lt c
  rw [Utf8.encodeChar]
  split
  · exact ⟨_, _, rfl, by omega, fun hc => Char.toNat_inj.1 hc⟩
  · split
    · exact ⟨_, _, rfl, by omega, by omega⟩
    · split
      · exact ⟨_, _, rfl, by omega, by omega⟩
      · exact ⟨_, _, rfl, by omega, by omega⟩

theorem dots?_encodeChar {c : Char} (h : c ≠ '.') (rest : List Char) :
    dots? (Percent.encodeChar c ++ rest) = none := by
  rw [Percent.encodeChar]
  split
  · rename_i hc
    exact dots?_cons_of_ne h (Percent.ne_percent_of_isUnreserved hc) rest
  · obtain ⟨b, bs, hbs, hlt, hb⟩ := exists_encodeChar c
    rw [hbs, List.flatMap_cons, List.append_assoc, dots?_escapeOctet hlt fun hdot => h (hb hdot)]

/-- Coding makes no dots of other characters, and hides none. -/
theorem dots?_encode {cs : List Char} {n : Nat} :
    dots? (Percent.encode cs) = some n ↔ cs = List.replicate n '.' := by
  induction cs generalizing n with
  | nil => cases n <;> simp [Percent.encode, dots?, List.replicate_succ]
  | cons c cs ih =>
      have hencode : Percent.encode (c :: cs) = Percent.encodeChar c ++ Percent.encode cs := rfl
      rw [hencode]
      by_cases hc : c = '.'
      · subst hc
        have hdot : dots? (Percent.encodeChar '.' ++ Percent.encode cs)
            = (dots? (Percent.encode cs)).map (· + 1) := rfl
        rw [hdot]
        cases n with
        | zero => simp
        | succ n => simp [ih, List.replicate_succ]
      · rw [dots?_encodeChar hc]
        cases n with
        | zero => simp
        | succ n => simp [hc, List.replicate_succ]

theorem isStep_encode_iff {s : String} :
    IsStep (Percent.encode s.toList) ↔ s = "." ∨ s = ".." := by
  rw [IsStep, dots?_encode, dots?_encode, ← String.toList_inj, ← String.toList_inj]
  rfl

end Dots

section Resolution

/-- Where a path has led, the last segment first, after one more segment that others follow. -/
def descend (stack : List (List Char)) (s : List Char) : List (List Char) :=
  match dots? s with
  | some 1 => stack
  | some 2 => parent stack
  | _ => s :: stack

def directory (segments : List (List Char)) : List (List Char) := (segments.foldl descend []).reverse

def written (segments : List (List Char)) : List Char :=
  segments.flatMap fun s => '/' :: escape pathEscapes s

variable {s : List Char} {stack segments base : List (List Char)}

theorem descend_of_not_step (h : ¬IsStep s) : descend stack s = s :: stack := by
  rw [IsStep, not_or] at h
  rw [descend]
  split <;> simp_all

theorem resolveFrom_cons (h : segments ≠ []) :
    resolveFrom stack (s :: segments) = resolveFrom (descend stack s) segments := by
  rw [resolveFrom.eq_3 _ _ _ h, descend]
  split <;> simp_all

theorem resolveFrom_last (h : ¬IsStep s) : resolveFrom stack [s] = (s :: stack).reverse := by
  rw [IsStep, not_or] at h
  rw [resolveFrom]
  split <;> simp_all

theorem resolveFrom_step (h : IsStep s) :
    resolveFrom stack [s] = ([] :: descend stack s).reverse := by
  rcases h with h | h <;> simp only [resolveFrom, descend, h]

theorem resolveFrom_append (h : segments ≠ []) :
    resolveFrom stack (base ++ segments) = resolveFrom (base.foldl descend stack) segments := by
  induction base generalizing stack with
  | nil => rfl
  | cons s base ih =>
      rw [List.cons_append, resolveFrom_cons (List.append_ne_nil_of_right_ne_nil base h), ih,
        List.foldl_cons]

theorem resolveFrom_of_not_step (h : ∀ s ∈ segments, ¬IsStep s) :
    resolveFrom stack segments = stack.reverse ++ segments := by
  induction segments generalizing stack with
  | nil => exact (List.append_nil _).symm
  | cons s segments ih =>
      obtain ⟨hs, hsegments⟩ := List.forall_mem_cons.1 h
      cases segments with
      | nil => rw [resolveFrom_last hs, List.reverse_cons]
      | cons t segments =>
          rw [resolveFrom_cons (List.cons_ne_nil _ _), descend_of_not_step hs, ih hsegments,
            List.reverse_cons, List.append_assoc, List.singleton_append]

def width (segments : List (List Char)) : Nat := (written segments).length

theorem width_cons :
    width (s :: segments) = (escape pathEscapes s).length + 1 + width segments := by
  rw [width, written, List.flatMap_cons, ← written, List.length_append, ← width, List.length_cons]

theorem width_append : width (base ++ segments) = width base + width segments := by
  rw [width, written, List.flatMap_append, List.length_append]
  rfl

theorem width_reverse : width stack.reverse = width stack := by
  induction stack with
  | nil => rfl
  | cons s stack ih =>
      have hlast : width [s] = (escape pathEscapes s).length + 1 := width_cons
      rw [List.reverse_cons, width_append, ih, hlast, width_cons, Nat.add_comm]

theorem width_parent_le (stack : List (List Char)) : width (parent stack) ≤ width stack := by
  cases stack with
  | nil => exact Nat.le_refl _
  | cons s stack =>
      rw [width_cons]
      exact Nat.le_add_left _ _

theorem escape_ne_nil (escaped : List Char) {cs : List Char} (h : cs ≠ []) :
    escape escaped cs ≠ [] := by
  cases cs with
  | nil => exact absurd rfl h
  | cons c cs =>
      rw [escape, List.flatMap_cons]
      refine List.append_ne_nil_of_left_ne_nil ?_ _
      split
      · exact List.cons_ne_nil _ _
      · obtain ⟨b, bs, hbs, -⟩ := exists_encodeChar c
        rw [hbs]
        exact List.cons_ne_nil _ _

theorem IsStep.width_descend_lt (h : IsStep s) (stack : List (List Char)) :
    width (descend stack s) + 1 < width (s :: stack) := by
  have hlength : 0 < (escape pathEscapes s).length := by
    refine List.length_pos_iff.2 (escape_ne_nil _ ?_)
    rintro rfl
    rcases h with h | h <;> cases h
  have hdescend : width (descend stack s) ≤ width stack := by
    rcases h with h | h
    · simp only [descend, h, Nat.le_refl]
    · simp only [descend, h, width_parent_le stack]
  rw [width_cons]
  omega

theorem width_descend_le (stack : List (List Char)) (s : List Char) :
    width (descend stack s) ≤ width (s :: stack) := by
  by_cases h : IsStep s
  · have hstep := h.width_descend_lt stack
    omega
  · exact Nat.le_of_eq (congrArg width (descend_of_not_step h))

theorem width_last_step (h : IsStep s) (stack : List (List Char)) :
    width (resolveFrom stack [s]) < width (s :: stack) := by
  have hstep := h.width_descend_lt stack
  have hempty : width ([] :: descend stack s) = 1 + width (descend stack s) := width_cons
  rw [resolveFrom_step h, width_reverse, hempty]
  omega

theorem width_resolveFrom_le (stack segments : List (List Char)) :
    width (resolveFrom stack segments) ≤ width segments + width stack := by
  induction segments generalizing stack with
  | nil =>
      rw [resolveFrom, width_reverse]
      exact Nat.le_add_left _ _
  | cons s segments ih =>
      have hcons : width (s :: stack) ≤ width (s :: segments) + width stack := by
        rw [width_cons, width_cons]
        omega
      cases segments with
      | nil =>
          by_cases h : IsStep s
          · exact Nat.le_trans (Nat.le_of_lt (width_last_step h stack)) hcons
          · rwa [resolveFrom_last h, width_reverse]
      | cons t segments =>
          have hdescend := width_descend_le stack s
          have htail := ih (descend stack s)
          rw [resolveFrom_cons (List.cons_ne_nil _ _)]
          rw [width_cons] at hdescend ⊢
          omega

theorem width_resolveFrom_lt (h : ∃ s ∈ segments, IsStep s) (stack : List (List Char)) :
    width (resolveFrom stack segments) < width segments + width stack := by
  induction segments generalizing stack with
  | nil => simp at h
  | cons s segments ih =>
      cases segments with
      | nil =>
          have hs : IsStep s := by simpa using h
          have hlast := width_last_step hs stack
          rw [width_cons] at hlast ⊢
          omega
      | cons t segments =>
          rw [resolveFrom_cons (List.cons_ne_nil _ _)]
          obtain ⟨u, hu, hstep⟩ := h
          rcases List.mem_cons.1 hu with rfl | hu
          · have hdescend := hstep.width_descend_lt stack
            have htail := width_resolveFrom_le (descend stack u) (t :: segments)
            rw [width_cons] at hdescend ⊢
            omega
          · have hdescend := width_descend_le stack s
            have htail := ih ⟨u, hu, hstep⟩ (descend stack s)
            rw [width_cons] at hdescend ⊢
            omega

end Resolution

section Names

variable {names : List String}

def coded (names : List String) : List (List Char) := names.map fun s => Percent.encode s.toList

def namedPath (names : List String) : List Char := names.flatMap Request.segment

theorem forall_coded_iff :
    (∀ s ∈ coded names, ¬IsStep s) ↔ ∀ name ∈ names, name ≠ "." ∧ name ≠ ".." := by
  simp only [coded, List.forall_mem_map, isStep_encode_iff, not_or]

structure Kept (c : Char) : Prop where
  isPlain : isPlain pathEscapes c = true
  isSlash : isSlash c = false
  isSkipped : isSkipped c = false
  isTrimmed : isTrimmed c = false
  endsPath : endsPath c = false

theorem kept_of_mem_encode {s : String} {c : Char} (h : c ∈ Percent.encode s.toList) : Kept c := by
  have hascii : ∀ n < 128, Percent.isUnreserved (Char.ofNat n) = true ∨ Char.ofNat n = '%' →
      isPlain pathEscapes (Char.ofNat n) = true ∧ isSlash (Char.ofNat n) = false ∧
        isSkipped (Char.ofNat n) = false ∧ isTrimmed (Char.ofNat n) = false ∧
        endsPath (Char.ofNat n) = false := by decide
  have hc := (Percent.Coded.encode s.toList).of_mem h
  have hlt : c.toNat < 128 := by
    rcases hc with hc | rfl
    · exact Percent.toNat_lt_of_isUnreserved hc
    · decide
  have hkept := hascii c.toNat hlt
  rw [Char.ofNat_toNat] at hkept
  obtain ⟨hplain, hslash, hskipped, htrimmed, hends⟩ := hkept hc
  exact ⟨hplain, hslash, hskipped, htrimmed, hends⟩

theorem escape_of_isPlain {escaped cs : List Char} (h : ∀ c ∈ cs, isPlain escaped c = true) :
    escape escaped cs = cs := by
  induction cs with
  | nil => rfl
  | cons c cs ih =>
      obtain ⟨hc, hcs⟩ := List.forall_mem_cons.1 h
      rw [escape, List.flatMap_cons, if_pos hc, ← escape, ih hcs, List.singleton_append]

theorem written_coded (names : List String) : written (coded names) = namedPath names := by
  have hname : ∀ name : String,
      '/' :: escape pathEscapes (Percent.encode name.toList) = Request.segment name :=
    fun name => congrArg ('/' :: ·) (escape_of_isPlain fun _ hc => (kept_of_mem_encode hc).isPlain)
  rw [written, coded, List.flatMap_map]
  exact congrArg (names.flatMap ·) (funext hname)

theorem pieces_encode (s : String) :
    pieces isSlash (Percent.encode s.toList) = [Percent.encode s.toList] :=
  pieces_of_none fun _ hc => (kept_of_mem_encode hc).isSlash

theorem pieces_append_namedPath (as : List Char) (names : List String) :
    pieces isSlash (as ++ namedPath names) = pieces isSlash as ++ coded names := by
  induction names generalizing as with
  | nil => simp [coded, namedPath]
  | cons name names ih =>
      rw [namedPath, List.flatMap_cons, ← namedPath, Request.segment, List.cons_append,
        pieces_append_sep rfl, ih, pieces_encode]
      rfl

theorem resolve_coded_iff (hne : names ≠ []) (base : List (List Char)) :
    written (resolve (base ++ coded names)) = written (directory base ++ coded names) ↔
      ∀ name ∈ names, name ≠ "." ∧ name ≠ ".." := by
  have hcoded : coded names ≠ [] := fun h => hne (List.map_eq_nil_iff.1 h)
  rw [resolve, resolveFrom_append hcoded, ← forall_coded_iff]
  constructor
  · intro h s hs hstep
    have hshort := width_resolveFrom_lt ⟨s, hs, hstep⟩ (base.foldl descend [])
    have hlength := congrArg List.length h
    rw [← width, ← width, width_append, directory, width_reverse] at hlength
    omega
  · intro h
    rw [resolveFrom_of_not_step h, directory]

end Names

end Http.Url

end RemoteQuery
