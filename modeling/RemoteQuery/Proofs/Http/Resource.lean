import RemoteQuery.Proofs.Http.Endpoint
import RemoteQuery.Proofs.Http.Segments
/-!
The resource that a request addresses. Its path has one segment for each name, and below a base URL
these follow the segments of the base. Path resolution keeps them exactly when no name is `.` or `..`:
such a name is a step in the path, and what is left is another resource.
-/

namespace RemoteQuery

open Text

namespace Request

inductive Addresses : Request → List String → Prop
  | read (table : String) (params : QueryParams) : Addresses (read table params) [table]
  | create (table : String) (body : Json) : Addresses (create table body) [table]
  | update (table id : String) (body : Json) : Addresses (update table id body) [table, id]
  | delete (table id : String) (body : Option Json) : Addresses (delete table id body) [table, id]
  | withPair {r : Request} {names : List String} (key value : String) :
      Addresses r names → Addresses (r.withPair key value) names

variable {r : Request} {names : List String}

theorem Addresses.path (h : r.Addresses names) : r.path.toList = Http.Url.namedPath names := by
  induction h with
  | read table _ => exact String.toList_ofList.trans (List.append_nil _).symm
  | create table _ => exact String.toList_ofList.trans (List.append_nil _).symm
  | update table id _ =>
      exact String.toList_ofList.trans (congrArg (segment table ++ ·) (List.append_nil _).symm)
  | delete table id _ =>
      exact String.toList_ofList.trans (congrArg (segment table ++ ·) (List.append_nil _).symm)
  | withPair _ _ _ ih => exact ih

theorem Addresses.ne_nil (h : r.Addresses names) : names ≠ [] := by
  induction h with
  | withPair _ _ _ ih => exact ih
  | _ => exact List.cons_ne_nil _ _

end Request

namespace Text

theorem rdropWhile_append_of_forall {p : Char → Bool} {bs : List Char} (hne : bs ≠ [])
    (h : ∀ b ∈ bs, p b = false) (as cs : List Char) :
    (as ++ (bs ++ cs)).rdropWhile p = as ++ (bs ++ cs.rdropWhile p) := by
  obtain ⟨front, b, rfl⟩ := (List.eq_nil_or_concat' bs).resolve_left hne
  have hb : p b = false := h b (List.mem_append_right _ List.mem_cons_self)
  have hreverse : (as ++ (front ++ [b] ++ cs)).reverse
      = cs.reverse ++ b :: (as ++ front).reverse := by
    simp
  rw [List.rdropWhile, hreverse, dropWhile_append_cons hb, List.rdropWhile]
  simp

end Text

namespace Http.Url

section Below

variable {names : List String} {rest : List Char}

theorem segments_path {r : Request} (h : r.Addresses names) :
    segments r.path.toList = resolve (coded names) := by
  cases names with
  | nil => exact absurd rfl h.ne_nil
  | cons name names =>
      rw [segments, h.path, namedPath, List.flatMap_cons, ← namedPath, Request.segment,
        List.cons_append, List.drop_succ_cons, List.drop_zero, pieces_append_namedPath, pieces_encode]
      rfl

structure IsBase (baseUrl : String) (rest : List Char) : Prop where
  scheme : ∃ scheme, IsScheme scheme ∧ baseUrl.toList = scheme ++ '/' :: '/' :: rest
  host : NamesHost rest
  path : ∀ c ∈ rest, endsPath c = false

def basePath (rest : List Char) : List Char :=
  ((cleaned rest).dropWhile isSlash).dropWhile fun c => !endsAuthority c

def baseSegments (rest : List Char) : List (List Char) :=
  (pieces isSlash (basePath (trimSlashes rest))).drop 1

def IsQuery (cs : List Char) : Prop := ∀ c ∈ cs.head?, c = '?'

theorem exists_query_of_addresses {r : Request} (h : r.Addresses names) :
    ∃ query, r.target.toList = namedPath names ++ query ∧ IsQuery query := by
  rw [Request.target]
  split
  · refine ⟨[], by rw [h.path, List.append_nil], ?_⟩
    rintro c ⟨⟩
  · refine ⟨'?' :: r.queryString.toList, ?_, ?_⟩
    · rw [String.toList_append, String.toList_append, h.path, List.append_assoc]
      rfl
    · rintro c ⟨⟩
      rfl

theorem kept_of_mem_namedPath {c : Char} (h : c ∈ namedPath names) :
    isSkipped c = false ∧ isTrimmed c = false ∧ endsPath c = false := by
  obtain ⟨name, _, hc⟩ := List.mem_flatMap.1 h
  rcases List.mem_cons.1 hc with rfl | hc
  · decide
  · have hkept := kept_of_mem_encode hc
    exact ⟨hkept.isSkipped, hkept.isTrimmed, hkept.endsPath⟩

theorem namedPath_eq_cons (h : names ≠ []) : ∃ path, namedPath names = '/' :: path := by
  cases names with
  | nil => exact absurd rfl h
  | cons name names => exact ⟨_, rfl⟩

theorem IsQuery.cleaned {query : List Char} (h : IsQuery query) :
    IsQuery (cleaned (query.rdropWhile isTrimmed)) := by
  cases query with
  | nil => exact h
  | cons c query =>
      obtain rfl := h c rfl
      have htrimmed : ('?' :: query).rdropWhile isTrimmed = '?' :: query.rdropWhile isTrimmed :=
        rdropWhile_append_of_forall (List.cons_ne_nil '?' []) (List.forall_mem_singleton.2 rfl) []
          query
      rw [htrimmed]
      rintro d ⟨⟩
      rfl

theorem normalText_path {scheme query : List Char} (hscheme : IsScheme scheme) (hne : names ≠ []) :
    normalText (scheme ++ (rest ++ (namedPath names ++ query)))
      = scheme ++ (cleaned rest ++ (namedPath names ++ cleaned (query.rdropWhile isTrimmed))) := by
  obtain ⟨path, hpath⟩ := namedPath_eq_cons hne
  have hstart : (scheme ++ (rest ++ (namedPath names ++ query))).dropWhile isTrimmed
      = (scheme ++ rest) ++ (namedPath names ++ query) := by
    rw [List.append_assoc]
    rcases hscheme with rfl | rfl <;> rfl
  have hend : ((scheme ++ rest) ++ (namedPath names ++ query)).rdropWhile isTrimmed
      = (scheme ++ rest) ++ (namedPath names ++ query.rdropWhile isTrimmed) := by
    refine rdropWhile_append_of_forall ?_ (fun c hc => (kept_of_mem_namedPath hc).2.1) _ _
    rw [hpath]
    exact List.cons_ne_nil _ _
  have hcleaned : cleaned scheme = scheme ∧ cleaned (namedPath names) = namedPath names := by
    refine ⟨by rcases hscheme with rfl | rfl <;> rfl, List.filter_eq_self.2 fun c hc => ?_⟩
    rw [(kept_of_mem_namedPath hc).1]
    rfl
  have hnormal : normalText (scheme ++ (rest ++ (namedPath names ++ query)))
      = cleaned (((scheme ++ (rest ++ (namedPath names ++ query))).dropWhile isTrimmed).rdropWhile
          isTrimmed) := rfl
  rw [hnormal, hstart, hend, List.append_assoc]
  simp only [cleaned, List.filter_append] at hcleaned ⊢
  rw [hcleaned.1, hcleaned.2]

theorem exists_target_of_split? {url server target : String}
    (h : split? url = some (server, target)) :
    ∃ rest, afterScheme? (normalText url.toList) = some rest ∧ target.toList
      = targetText ((rest.dropWhile isSlash).dropWhile fun c => !endsAuthority c) := by
  rw [split?] at h
  obtain ⟨rest, hrest, h⟩ := Option.bind_eq_some_iff.1 h
  refine ⟨rest, hrest, ?_⟩
  dsimp only at h
  split at h
  · obtain ⟨-, rfl⟩ := Prod.mk.inj (Option.some.inj h)
    exact String.toList_ofList
  · cases h

theorem dropWhile_authority (h : NamesHost rest) (tail : List Char) :
    ((cleaned ('/' :: '/' :: rest) ++ '/' :: tail).dropWhile isSlash).dropWhile
      (fun c => !endsAuthority c) = basePath rest ++ '/' :: tail := by
  obtain ⟨c, hc, hslash, hskipped⟩ := h
  have hclean : c ∈ cleaned rest := List.mem_filter.2 ⟨hc, by rw [hskipped]; rfl⟩
  have hslashes : (cleaned ('/' :: '/' :: rest) ++ '/' :: tail).dropWhile isSlash
      = (cleaned rest ++ '/' :: tail).dropWhile isSlash := rfl
  rw [hslashes, dropWhile_append_of_exists ⟨c, hclean, hslash⟩, dropWhile_append_cons (by decide),
    basePath]

theorem mem_of_mem_basePath {c : Char} (h : c ∈ basePath rest) : c ∈ rest :=
  List.mem_of_mem_filter ((List.dropWhile_sublist _).subset ((List.dropWhile_sublist _).subset h))

theorem exists_slash_below (hpath : ∀ c ∈ rest, endsPath c = false) (hne : names ≠ []) :
    ∃ c path, basePath rest ++ namedPath names = c :: path ∧ isSlash c = true := by
  cases hbase : basePath rest with
  | nil =>
      obtain ⟨path, hcons⟩ := namedPath_eq_cons hne
      exact ⟨'/', path, hcons, rfl⟩
  | cons c base =>
      have hends := List.head?_dropWhile_not (fun c => !endsAuthority c)
        ((cleaned rest).dropWhile isSlash)
      rw [← basePath, hbase] at hends
      have hmem : c ∈ rest := mem_of_mem_basePath (by rw [hbase]; exact List.mem_cons_self)
      exact ⟨c, _, rfl, by simpa [endsAuthority, hpath c hmem] using hends⟩

theorem segments_below (hpath : ∀ c ∈ rest, endsPath c = false) (hne : names ≠ []) :
    segments (basePath rest ++ namedPath names)
      = resolve ((pieces isSlash (basePath rest)).drop 1 ++ coded names) := by
  obtain ⟨c, path, hcons, hc⟩ := exists_slash_below hpath hne
  have hpieces : pieces isSlash (basePath rest) ++ coded names = [] :: pieces isSlash path := by
    rw [← pieces_append_namedPath, hcons, pieces, if_pos hc]
  cases hbase : pieces isSlash (basePath rest) with
  | nil => exact absurd hbase (pieces_ne_nil _ _)
  | cons first base =>
      rw [hbase] at hpieces
      rw [segments, hcons, List.drop_succ_cons, List.drop_zero, ← (List.cons.inj hpieces).2]
      rfl

theorem targetText_below {query : List Char} (hpath : ∀ c ∈ rest, endsPath c = false)
    (hne : names ≠ []) (hquery : IsQuery query) :
    targetText (basePath rest ++ (namedPath names ++ query))
      = written (resolve ((pieces isSlash (basePath rest)).drop 1 ++ coded names))
        ++ queryText query := by
  have hkept : ∀ c ∈ basePath rest ++ namedPath names, (!endsPath c) = true := by
    intro c hc
    rcases List.mem_append.1 hc with hc | hc
    · rw [hpath c (mem_of_mem_basePath hc)]
      rfl
    · rw [(kept_of_mem_namedPath hc).2.2]
      rfl
  have hstop : query.takeWhile (fun c => !endsPath c) = [] ∧
      query.dropWhile (fun c => !endsPath c) = query := by
    cases query with
    | nil => exact ⟨rfl, rfl⟩
    | cons c query =>
        obtain rfl := hquery c rfl
        exact ⟨rfl, rfl⟩
  rw [targetText, ← List.append_assoc, List.takeWhile_append_of_pos hkept,
    List.dropWhile_append_of_pos hkept, hstop.1, hstop.2, List.append_nil, pathText,
    segments_below hpath hne]
  rfl

theorem isQuery_queryText (cs : List Char) : IsQuery (queryText cs) := by
  rw [queryText.eq_def]
  split
  · rintro c ⟨⟩
    rfl
  · exact nofun

theorem target_below {baseUrl server target : String} {r : Request} (hbase : IsBase baseUrl rest)
    (hr : r.Addresses names) (h : split? (endpoint baseUrl r) = some (server, target)) :
    ∃ query, IsQuery query ∧
      target.toList = written (resolve (baseSegments rest ++ coded names)) ++ query := by
  obtain ⟨scheme, hscheme, hurl⟩ := hbase.scheme
  obtain ⟨query, htarget, hquery⟩ := exists_query_of_addresses hr
  obtain ⟨path, hcons⟩ := namedPath_eq_cons hr.ne_nil
  obtain ⟨slashes, hrest, hslashes⟩ := (trimmed_trimSlashes rest).slashes
  have hhost : NamesHost (trimSlashes rest) := by
    have hnamed := hbase.host
    rw [hrest] at hnamed
    exact hnamed.of_append hslashes
  have hpath : ∀ c ∈ trimSlashes rest, endsPath c = false := by
    intro c hc
    refine hbase.path c ?_
    rw [hrest]
    exact List.mem_append_left _ hc
  have haddress : (endpoint baseUrl r).toList
      = scheme ++ ('/' :: '/' :: trimSlashes rest ++ (namedPath names ++ query)) := by
    rw [toList_endpoint, hurl, trimSlashes_of_named hbase.host.exists_ne, htarget, List.append_assoc]
  obtain ⟨rest', hrest', htext⟩ := exists_target_of_split? h
  rw [haddress, normalText_path hscheme hr.ne_nil, afterScheme?_append hscheme] at hrest'
  obtain rfl := Option.some.inj hrest'
  have hauthority := dropWhile_authority hhost (path ++ cleaned (query.rdropWhile isTrimmed))
  rw [← List.cons_append, ← hcons] at hauthority
  rw [hauthority, targetText_below hpath hr.ne_nil hquery.cleaned] at htext
  exact ⟨_, isQuery_queryText _, htext⟩

theorem mark_not_mem_written (segments : List (List Char)) : '?' ∉ written segments := by
  intro h
  obtain ⟨s, _, hs⟩ := List.mem_flatMap.1 h
  have hescape : '?' ∈ escape pathEscapes s := by simpa using hs
  obtain ⟨c, _, hc⟩ := List.mem_flatMap.1 hescape
  split at hc
  · rename_i hplain
    rw [← List.mem_singleton.1 hc] at hplain
    exact absurd hplain (by decide)
  · have hcoded : Percent.Coded ((Utf8.encodeChar c).flatMap Percent.escapeOctet) :=
      .escapeOctets fun _ => Utf8.lt_of_mem_encodeChar
    exact hcoded.ne_of_mem (by decide) (by decide) hc rfl

theorem written_of_append_query {as bs : List (List Char)} {query query' : List Char}
    (hquery : IsQuery query) (hquery' : IsQuery query')
    (h : written as ++ query = written bs ++ query') :
    written as = written bs := by
  have hcut : ∀ (segments : List (List Char)) (query : List Char), IsQuery query →
      (written segments ++ query).takeWhile (· ≠ '?') = written segments := by
    intro segments query hquery
    have hne : ∀ c ∈ written segments, decide (c ≠ '?') = true := by
      intro c hc
      refine decide_eq_true ?_
      rintro rfl
      exact mark_not_mem_written segments hc
    rw [List.takeWhile_append_of_pos hne]
    cases query with
    | nil => exact List.append_nil _
    | cons c query =>
        obtain rfl := hquery c rfl
        exact List.append_nil _
  rw [← hcut as query hquery, h, hcut bs query' hquery']

end Below

end Http.Url

namespace Http

open Url

theorem addressed_iff {r : Request} {names : List String} (hr : r.Addresses names) :
    (segments r.path.toList = coded names ↔ ∀ name ∈ names, name ≠ "." ∧ name ≠ "..") ∧
      ∀ baseUrl rest server target, IsBase baseUrl rest →
        split? (endpoint baseUrl r) = some (server, target) →
        ((∃ query, IsQuery query ∧
          target.toList = written (directory (baseSegments rest)) ++ r.path.toList ++ query) ↔
            ∀ name ∈ names, name ≠ "." ∧ name ≠ "..") := by
  have hbelow : ∀ place, written (directory place) ++ r.path.toList
      = written (directory place ++ coded names) := by
    intro place
    rw [hr.path, ← written_coded, written, written, written, List.flatMap_append]
  constructor
  · have hresolve := resolve_coded_iff hr.ne_nil []
    rw [segments_path hr, ← hresolve]
    refine ⟨fun h => congrArg written h, fun h => ?_⟩
    exact resolveFrom_of_not_step (forall_coded_iff.2 (hresolve.1 h))
  · intro baseUrl rest server target hbase hsplit
    obtain ⟨query, hquery, htarget⟩ := target_below hbase hr hsplit
    rw [← resolve_coded_iff hr.ne_nil (baseSegments rest)]
    constructor
    · rintro ⟨query', hquery', h⟩
      rw [hbelow, htarget] at h
      exact written_of_append_query hquery hquery' h
    · intro h
      exact ⟨query, hquery, by rw [hbelow, ← h, htarget]⟩

theorem addressed_iff_escaped_dots :
    let baseUrl := "http://localhost:8000/api/"
    let r := Request.delete "a/b" "%2e%2e" none
    r.Addresses ["a/b", "%2e%2e"] ∧ IsBase baseUrl "localhost:8000/api/".toList ∧
      split? (endpoint baseUrl r) = some ("localhost:8000", "/api/a%2Fb/%252e%252e") ∧
      segments r.path.toList = coded ["a/b", "%2e%2e"] ∧
      ∃ query, IsQuery query ∧ "/api/a%2Fb/%252e%252e".toList
        = written (directory (baseSegments "localhost:8000/api/".toList)) ++ r.path.toList ++ query := by
  intro baseUrl r
  have hr : r.Addresses ["a/b", "%2e%2e"] := .delete "a/b" "%2e%2e" none
  have hends : "localhost:8000/api/".toList.all (fun c => !endsPath c) = true := by decide
  have hbase : IsBase baseUrl "localhost:8000/api/".toList :=
    ⟨⟨_, .inl rfl, by decide⟩, ⟨'l', by decide, by decide, by decide⟩,
      fun c hc => by simpa using List.all_eq_true.1 hends c hc⟩
  have hsplit : split? (endpoint baseUrl r)
      = some ("localhost:8000", "/api/a%2Fb/%252e%252e") := by decide +kernel
  have hnames : ∀ name ∈ ["a/b", "%2e%2e"], name ≠ "." ∧ name ≠ ".." := by decide
  obtain ⟨hpath, hbelow⟩ := addressed_iff hr
  exact ⟨hr, hbase, hsplit, hpath.2 hnames, (hbelow _ _ _ _ hbase hsplit).2 hnames⟩

theorem record_above_table :
    let c := ClientConfig.new "http://localhost:8000/api"
    let r := Request.delete "users" ".." none
    c.validate = .ok () ∧ r.Addresses ["users", ".."] ∧
      segments r.path.toList ≠ coded ["users", ".."] ∧
      target? (endpoint c.baseUrl r) = some "/api/" := by
  refine ⟨validate_eq_ok.2 ⟨by decide, by decide, by decide⟩, .delete "users" ".." none, ?_, ?_⟩
  · decide +kernel
  · decide +kernel

end Http

end RemoteQuery
