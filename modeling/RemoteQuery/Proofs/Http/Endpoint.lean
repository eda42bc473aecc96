import Mathlib.Data.List.DropRight
import Mathlib.Data.List.TakeWhile
import RemoteQuery.Client.Config
import RemoteQuery.Http.Url
import RemoteQuery.Proofs.Text.Pieces
/-!
Where requests go. A request of a client is addressed below the base URL. If that names anything after
its scheme, the address keeps the scheme; if it names a host, the server is found in the base URL
alone, whatever the table. A base URL of a scheme and slashes names nothing, and is accepted.
-/

namespace RemoteQuery

inductive Request.Built : Request → Prop
  | read (table : String) (params : QueryParams) : Built (read table params)
  | create (table : String) (body : Json) : Built (create table body)
  | update (table id : String) (body : Json) : Built (update table id body)
  | delete (table id : String) (body : Option Json) : Built (delete table id body)

theorem Request.Built.exists_path {r : Request} (h : r.Built) :
    ∃ rest, r.path.toList = '/' :: rest := by
  cases h with
  | read table _ => exact ⟨_, String.toList_ofList⟩
  | create table _ => exact ⟨_, String.toList_ofList⟩
  | update table id _ => exact ⟨_, String.toList_ofList⟩
  | delete table id _ => exact ⟨_, String.toList_ofList⟩

theorem Request.Built.exists_target {r : Request} (h : r.Built) :
    ∃ rest, r.target.toList = '/' :: rest := by
  obtain ⟨rest, hpath⟩ := h.exists_path
  rw [Request.target]
  split
  · exact ⟨rest, hpath⟩
  · rw [String.toList_append, String.toList_append, hpath]
    exact ⟨_, rfl⟩

namespace Http

open Text ClientConfig

structure Trimmed (cs kept : List Char) : Prop where
  slashes : ∃ slashes, cs = kept ++ slashes ∧ ∀ c ∈ slashes, c = '/'
  last : kept.getLast? ≠ some '/'

theorem trimmed_trimSlashes (cs : List Char) : Trimmed cs (trimSlashes cs) where
  slashes := by
    refine ⟨cs.rtakeWhile (· = '/'), List.rdropWhile_append_rtakeWhile.symm, fun c hc => ?_⟩
    simpa using List.mem_rtakeWhile_imp hc
  last := by
    intro hlast
    obtain ⟨front, hfront⟩ := List.getLast?_eq_some_iff.1 hlast
    have hne : cs.rdropWhile (· = '/') ≠ [] := by
      intro hnil
      have h : front ++ ['/'] = [] := hfront.symm.trans hnil
      simp at h
    have hnot := List.rdropWhile_last_not (· = '/') cs hne
    have hslash : (cs.rdropWhile (· = '/')).getLast hne = '/' := by
      have h : (cs.rdropWhile (· = '/')).getLast? = some '/' := hlast
      rw [List.getLast?_eq_getLast_of_ne_nil hne] at h
      exact Option.some.inj h
    rw [hslash] at hnot
    exact hnot (by decide)

theorem trimSlashes_append_of_exists {cs rest : List Char} (h : ∃ c ∈ rest, c ≠ '/') :
    trimSlashes (cs ++ rest) = cs ++ trimSlashes rest := by
  obtain ⟨c, hc, hne⟩ := h
  rw [trimSlashes, trimSlashes, List.reverse_append,
    dropWhile_append_of_exists ⟨c, List.mem_reverse.2 hc, decide_eq_false hne⟩,
    List.reverse_append, List.reverse_reverse]

theorem trimSlashes_append_of_forall {cs rest : List Char} (h : ∀ c ∈ rest, c = '/') :
    trimSlashes (cs ++ rest) = trimSlashes cs := by
  have hall : ∀ c ∈ rest.reverse, decide (c = '/') = true := fun c hc =>
    decide_eq_true (h c (List.mem_reverse.1 hc))
  rw [trimSlashes, trimSlashes, List.reverse_append, List.dropWhile_append_of_pos hall]

def IsScheme (cs : List Char) : Prop :=
  cs = ['h', 't', 't', 'p', ':'] ∨ cs = ['h', 't', 't', 'p', 's', ':']

theorem IsScheme.rest_unique {scheme scheme' rest rest' : List Char} (h : IsScheme scheme)
    (h' : IsScheme scheme') (heq : scheme ++ '/' :: rest = scheme' ++ '/' :: rest') :
    rest = rest' := by
  rcases h with rfl | rfl <;> rcases h' with rfl | rfl
  · simpa using heq
  · simp at heq
  · simp at heq
  · simpa using heq

theorem hasHttpScheme_iff {url : String} : hasHttpScheme url = true ↔
    ∃ scheme rest, IsScheme scheme ∧ url.toList = scheme ++ '/' :: '/' :: rest := by
  have hstarts : ∀ front, startsWith front url.toList = true ↔
      ∃ rest, url.toList = front ++ rest := by
    intro front
    rw [startsWith, List.isPrefixOf_iff_prefix, List.IsPrefix]
    simp only [eq_comm]
  rw [hasHttpScheme, Bool.or_eq_true, hstarts, hstarts]
  constructor
  · rintro (⟨rest, h⟩ | ⟨rest, h⟩)
    · exact ⟨_, rest, .inl rfl, h⟩
    · exact ⟨_, rest, .inr rfl, h⟩
  · rintro ⟨_, rest, rfl | rfl, h⟩
    · exact .inl ⟨rest, h⟩
    · exact .inr ⟨rest, h⟩

section

variable {scheme rest : List Char}

theorem trimSlashes_of_named (h : ∃ c ∈ rest, c ≠ '/') :
    trimSlashes (scheme ++ '/' :: '/' :: rest) = scheme ++ '/' :: '/' :: trimSlashes rest := by
  have hfront : ∀ cs, (scheme ++ ['/', '/']) ++ cs = scheme ++ '/' :: '/' :: cs := by simp
  rw [← hfront, trimSlashes_append_of_exists h, hfront]

theorem trimSlashes_of_bare (hscheme : IsScheme scheme) (h : ∀ c ∈ rest, c = '/') :
    trimSlashes (scheme ++ '/' :: '/' :: rest) = scheme := by
  have hall : ∀ c ∈ '/' :: '/' :: rest, c = '/' := by simpa using h
  rw [trimSlashes_append_of_forall hall]
  rcases hscheme with rfl | rfl <;> rfl

theorem toList_endpoint (baseUrl : String) (r : Request) :
    (endpoint baseUrl r).toList = trimSlashes baseUrl.toList ++ r.target.toList := by
  rw [endpoint, String.toList_append, String.toList_ofList]

end

namespace Url

def cleaned (cs : List Char) : List Char := cs.filter fun c => !isSkipped c

def authority (rest : List Char) : List Char :=
  ((cleaned rest).dropWhile isSlash).takeWhile fun c => !endsAuthority c

def NamesHost (rest : List Char) : Prop := ∃ c ∈ rest, isSlash c = false ∧ isSkipped c = false

theorem normalText_append {scheme : List Char} (h : IsScheme scheme) (rest tail : List Char) :
    ∃ tail', normalText (scheme ++ (rest ++ '/' :: tail))
      = scheme ++ (cleaned rest ++ '/' :: tail') := by
  have hstart : (scheme ++ (rest ++ '/' :: tail)).dropWhile isTrimmed
      = scheme ++ (rest ++ '/' :: tail) := by
    rcases h with rfl | rfl <;> rfl
  -- Trimming ends at the slash, so it leaves what is before the slash.
  have hend : (scheme ++ (rest ++ '/' :: tail)).reverse.dropWhile isTrimmed
      = tail.reverse.dropWhile isTrimmed ++ '/' :: (scheme ++ rest).reverse := by
    rw [← List.append_assoc, List.reverse_append, List.reverse_cons, List.append_assoc]
    exact dropWhile_append_cons (by decide)
  have hscheme : cleaned scheme = scheme := by
    rcases h with rfl | rfl <;> rfl
  refine ⟨cleaned (tail.reverse.dropWhile isTrimmed).reverse, ?_⟩
  rw [normalText, hstart, hend, List.reverse_append, List.reverse_cons, List.reverse_reverse,
    List.append_assoc, List.append_assoc, List.filter_append, List.filter_append]
  exact congrArg (· ++ _) hscheme

theorem afterScheme?_append {scheme rest : List Char} (h : IsScheme scheme) :
    afterScheme? (scheme ++ rest) = some rest := by
  rcases h with rfl | rfl <;> rfl

theorem exists_rest_of_split? {url server target : String}
    (h : split? url = some (server, target)) :
    ∃ rest, afterScheme? (normalText url.toList) = some rest ∧
      server = String.ofList (Authority.afterUser
        ((rest.dropWhile isSlash).takeWhile fun c => !endsAuthority c)) := by
  rw [split?] at h
  obtain ⟨rest, hrest, h⟩ := Option.bind_eq_some_iff.1 h
  refine ⟨rest, hrest, ?_⟩
  dsimp only at h
  split at h
  · exact (congrArg Prod.fst (Option.some.inj h)).symm
  · cases h

theorem takeWhile_cleaned {rest : List Char} (h : NamesHost rest) (tail : List Char) :
    ((cleaned rest ++ '/' :: tail).dropWhile isSlash).takeWhile (fun c => !endsAuthority c)
      = authority rest := by
  obtain ⟨c, hc, hslash, hskipped⟩ := h
  have hclean : c ∈ cleaned rest := List.mem_filter.2 ⟨hc, by rw [hskipped]; rfl⟩
  rw [dropWhile_append_of_exists ⟨c, hclean, hslash⟩, takeWhile_append_cons (by decide), authority]

theorem authority_append {rest slashes : List Char} (h : NamesHost rest)
    (hslashes : ∀ c ∈ slashes, c = '/') : authority (rest ++ slashes) = authority rest := by
  cases slashes with
  | nil => rw [List.append_nil]
  | cons c slashes =>
      obtain rfl := hslashes c List.mem_cons_self
      have hcleaned : cleaned (rest ++ '/' :: slashes) = cleaned rest ++ '/' :: cleaned slashes :=
        List.filter_append ..
      rw [authority, hcleaned, takeWhile_cleaned h]

theorem NamesHost.of_append {rest slashes : List Char} (h : NamesHost (rest ++ slashes))
    (hslashes : ∀ c ∈ slashes, c = '/') : NamesHost rest := by
  obtain ⟨c, hc, hslash, hskipped⟩ := h
  rcases List.mem_append.1 hc with hc | hc
  · exact ⟨c, hc, hslash, hskipped⟩
  · rw [hslashes c hc] at hslash
    exact absurd hslash (by decide)

theorem NamesHost.exists_ne {rest : List Char} (h : NamesHost rest) : ∃ c ∈ rest, c ≠ '/' := by
  obtain ⟨c, hc, hslash, -⟩ := h
  refine ⟨c, hc, ?_⟩
  rintro rfl
  exact absurd hslash (by decide)

theorem server_of_split? {url : String} {scheme rest tail : List Char} {server target : String}
    (hscheme : IsScheme scheme) (hhost : NamesHost rest)
    (hurl : url.toList = scheme ++ ('/' :: '/' :: rest ++ '/' :: tail))
    (h : split? url = some (server, target)) :
    server = String.ofList (Authority.afterUser (authority rest)) := by
  obtain ⟨tail', hnormal⟩ := normalText_append hscheme ('/' :: '/' :: rest) tail
  obtain ⟨rest', hrest', rfl⟩ := exists_rest_of_split? h
  rw [hurl, hnormal, afterScheme?_append hscheme] at hrest'
  obtain rfl := Option.some.inj hrest'
  have hslashes : (cleaned ('/' :: '/' :: rest) ++ '/' :: tail').dropWhile isSlash
      = (cleaned rest ++ '/' :: tail').dropWhile isSlash := rfl
  rw [hslashes, takeWhile_cleaned hhost]

theorem server_of_endpoint {baseUrl server target : String} {r : Request}
    {scheme rest tail : List Char} (hscheme : IsScheme scheme)
    (hbase : baseUrl.toList = scheme ++ '/' :: '/' :: rest) (hhost : NamesHost rest)
    (htail : r.target.toList = '/' :: tail)
    (h : split? (endpoint baseUrl r) = some (server, target)) :
    server = String.ofList (Authority.afterUser (authority rest)) := by
  obtain ⟨slashes, hrest, hslashes⟩ := (trimmed_trimSlashes rest).slashes
  have hfront : NamesHost (trimSlashes rest) := by
    rw [hrest] at hhost
    exact hhost.of_append hslashes
  have hauthority : authority rest = authority (trimSlashes rest) := by
    rw [← authority_append hfront hslashes, ← hrest]
  have hurl : (endpoint baseUrl r).toList
      = scheme ++ ('/' :: '/' :: trimSlashes rest ++ '/' :: tail) := by
    rw [toList_endpoint, hbase, trimSlashes_of_named hhost.exists_ne, htail, List.append_assoc]
  rw [hauthority]
  exact server_of_split? hscheme hfront hurl h

end Url

theorem validate_eq_ok {c : ClientConfig} : c.validate = .ok () ↔
    (trim c.baseUrl.toList).isEmpty = false ∧ hasHttpScheme c.baseUrl = true ∧
      c.timeoutSecs ≠ 0 := by
  rw [validate]
  split
  · simp [*]
  · split
    · simp_all
    · split <;> simp_all

theorem endpoint_of_validate {c : ClientConfig} (h : c.validate = .ok ()) :
    ∃ scheme rest, IsScheme scheme ∧ c.baseUrl.toList = scheme ++ '/' :: '/' :: rest ∧
      ∀ r : Request, r.Built → ∃ kept, Trimmed c.baseUrl.toList kept ∧
        (endpoint c.baseUrl r).toList = kept ++ r.target.toList ∧
        (∃ tail, r.target.toList = '/' :: tail) ∧
        ((∃ ch ∈ rest, ch ≠ '/') →
          kept = scheme ++ '/' :: '/' :: trimSlashes rest ∧
            hasHttpScheme (endpoint c.baseUrl r) = true) ∧
        ((∀ ch ∈ rest, ch = '/') → kept = scheme) ∧
        (Url.NamesHost rest → ∀ server target,
          Url.split? (endpoint c.baseUrl r) = some (server, target) →
            server = String.ofList (Authority.afterUser (Url.authority rest))) := by
  obtain ⟨scheme, rest, hscheme, hbase⟩ := hasHttpScheme_iff.1 (validate_eq_ok.1 h).2.1
  refine ⟨scheme, rest, hscheme, hbase, fun r hr => ?_⟩
  obtain ⟨tail, htail⟩ := hr.exists_target
  refine ⟨trimSlashes c.baseUrl.toList, trimmed_trimSlashes _, toList_endpoint _ _, ⟨tail, htail⟩,
    fun hnamed => ?_, fun hbare => ?_,
    fun hhost _ _ hsplit => Url.server_of_endpoint hscheme hbase hhost htail hsplit⟩
  · have hkept : trimSlashes (scheme ++ '/' :: '/' :: rest) = _ := trimSlashes_of_named hnamed
    rw [← hbase] at hkept
    refine ⟨hkept, hasHttpScheme_iff.2 ⟨scheme, trimSlashes rest ++ r.target.toList, hscheme, ?_⟩⟩
    rw [toList_endpoint, hkept, List.append_assoc]
    rfl
  · rw [hbase, trimSlashes_of_bare hscheme hbare]

theorem endpoint_of_validate_api :
    let c := ClientConfig.new "http://localhost:8000/api//"
    c.validate = .ok () ∧ ∀ table,
      let url := endpoint c.baseUrl (.read table {})
      hasHttpScheme url = true ∧
        ∀ server target, Url.split? url = some (server, target) → server = "localhost:8000" := by
  intro c
  have h : c.validate = .ok () := validate_eq_ok.2 ⟨by decide, by decide, by decide⟩
  obtain ⟨scheme, rest, hscheme, hbase, hall⟩ := endpoint_of_validate h
  have hlocal : c.baseUrl.toList
      = ['h', 't', 't', 'p', ':'] ++ '/' :: '/' :: "localhost:8000/api//".toList := by decide
  obtain rfl : "localhost:8000/api//".toList = rest :=
    List.tail_eq_of_cons_eq (IsScheme.rest_unique (.inl rfl) hscheme (hlocal.symm.trans hbase))
  refine ⟨h, fun table => ?_⟩
  obtain ⟨kept, -, -, -, hnamed, -, hserver⟩ := hall _ (.read table {})
  refine ⟨(hnamed ⟨'l', by decide, by decide⟩).2, fun server target hsplit => ?_⟩
  exact hserver ⟨'l', by decide, by decide, by decide⟩ server target hsplit

theorem table_in_place_of_host :
    let c := ClientConfig.new "http://"
    let url := endpoint c.baseUrl (.read "users" {})
    c.validate = .ok () ∧ url = "http:/users" ∧ hasHttpScheme url = false ∧
      Url.split? url = some ("users", "/") := by
  refine ⟨validate_eq_ok.2 ⟨by decide, by decide, by decide⟩, ?_, ?_, ?_⟩
  · decide +kernel
  · decide +kernel
  · decide +kernel

end Http

end RemoteQuery
