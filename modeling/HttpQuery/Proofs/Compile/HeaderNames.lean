import HttpQuery.Proofs.Compile.Arguments
import HttpQuery.Proofs.Http.Requests
import HttpQuery.Proofs.Query.Literals

/-! # The headers of a query in its request

A request keeps its header names in lower case, so two headers of a descriptor whose names differ in
letter case only would become one. The descriptor of a query has no such headers: its names are
literals of tokens, and these have no capital letters. So every header of a query stands in the
request under its own name and before all other values, and a default header of that name is gone.

* `exists_command_of_compile`: the command of a query that compiles.
* `map_toLower_of_mem_headers`: the header names of a compiled query have no capital letters.
* `request_headers`: the headers of a query in its request. -/

namespace HttpQuery

open Text Headers

/-! ### The descriptor of a query -/

variable {mode : Mode} {query : String} {arguments : List Argument} {d : Descriptor}

/-- **A query that compiles spells a command** when its placeholders are filled, and its descriptor
is assembled from the fields of this command. -/
theorem exists_command_of_compile (h : compile mode query arguments = .ok d) :
    ∃ (bound : String) (command : Command),
      substitute query (arguments.filterMap Argument.text?) = .ok bound ∧
        command.SpelledBy mode (tokenize bound) ∧
        command.fields.assemble (arguments.findSome? Argument.value?) = .ok d := by
  rw [compile_eq_ofTokens] at h
  obtain ⟨bound, hbound, h⟩ := exists_of_bind_eq_ok h
  rcases Descriptor.ofTokens_error_or mode (tokenize bound) with
    ⟨cause, hcause⟩ | ⟨command, hspelled, hassemble⟩
  · cases (hcause _).symm.trans h
  · exact ⟨bound, command, hbound, hspelled, (hassemble _).symm.trans h⟩

/-- **A header of a descriptor is a clause** of the command that the descriptor is assembled from.
-/
theorem Command.header_mem_clauses {command : Command} {offered : Option Json}
    (h : command.fields.assemble offered = .ok d) {entry : String × String}
    (hentry : entry ∈ d.headers.toList) : .header entry.1 entry.2 ∈ command.clauses := by
  rw [Fields.headers_of_assemble h, command.zip_headers_fields] at hentry
  obtain ⟨clause, hclause, hheader⟩ :=
    List.mem_filterMap.1 (KeyMap.mem_of_mem_toList_ofList hentry)
  -- Only a header clause has a key that becomes the name of a header.
  cases clause with
  | json key value => cases hheader
  | payload source => cases hheader
  | header key value =>
    obtain rfl : (key, value) = entry := Option.some.inj hheader
    exact hclause

/-- **The header names of a compiled query have no capital letters.** -/
theorem map_toLower_of_mem_headers (h : compile mode query arguments = .ok d)
    {entry : String × String} (hentry : entry ∈ d.headers.toList) :
    entry.1.map Char.toLower = entry.1 := by
  obtain ⟨bound, command, -, hspelled, hassemble⟩ := exists_command_of_compile h
  have htext : Token.text entry.1 ∈ command.tokens :=
    Command.mem_tokens_of_mem_clauses (command.header_mem_clauses hassemble hentry)
      (by simp [Clause.tokens])
  obtain ⟨token, htoken, hliteral⟩ := hspelled.exists_literal htext
  rw [← hliteral]
  exact map_toLower_literal htoken

/-! ### The request of a query -/

/-- A descriptor whose header names have no capital letters is read as it is. -/
theorem Descriptor.readHeaders_eq_of_lower {queryHeaders : List (String × Bytes)}
    (h : d.readHeaders = .ok queryHeaders)
    (hlower : ∀ entry ∈ d.headers.toList, entry.1.map Char.toLower = entry.1) :
    queryHeaders = d.headers.toList.map fun entry => (entry.1, utf8Bytes entry.2) := by
  rw [readHeaders_eq h]
  exact List.map_congr_left fun entry hentry => by rw [hlower entry hentry]

/-- The value that such a descriptor sets for a name. -/
theorem Descriptor.last?_readHeaders {queryHeaders : List (String × Bytes)}
    (h : d.readHeaders = .ok queryHeaders)
    (hlower : ∀ entry ∈ d.headers.toList, entry.1.map Char.toLower = entry.1)
    {key value : String} (hentry : (key, value) ∈ d.headers.toList) :
    last? queryHeaders key = some (utf8Bytes value) := by
  rw [readHeaders_eq_of_lower h hlower]
  refine last?_eq_some_of_unique (List.mem_map_of_mem hentry) fun pair hpair hname => ?_
  obtain ⟨other, hother, rfl⟩ := List.mem_map.1 hpair
  -- There is one value under a key.
  have hvalue : d.headers.find? key = some other.2 := by
    rw [← hname]
    exact KeyMap.find?_eq_some_iff.2 hother
  rw [KeyMap.find?_eq_some_iff.2 hentry] at hvalue
  rw [Option.some.inj hvalue]

/-- **No header of a query is lost or altered.** In a request of a compiled query, each header
stands under its own name and before any other value; there is another value only if it is the
credentials of the query. No two headers of the query have names that are the same but for the
letter case, so none of them replaces another. -/
theorem request_headers (client : Client) (r : Request)
    (hcompile : compile mode query arguments = .ok d) (hrequest : client.request d = .ok r) :
    ∀ key value, (key, value) ∈ d.headers.toList →
      headerName? key = some key ∧
        r.headers.values key = utf8Bytes value ::
          (if key = "authorization" then
            (d.basicAuth.map fun c => utf8Bytes (basicAuthorization c.login c.password)).toList
          else []) ∧
        ∀ other ∈ d.headers.toList, SameName other.1 key → other.1 = key := by
  intro key value hentry
  have hlower : ∀ entry ∈ d.headers.toList, entry.1.map Char.toLower = entry.1 :=
    fun _ => map_toLower_of_mem_headers hcompile
  obtain ⟨queryHeaders, url, hread, rfl⟩ := Client.exists_of_request_eq_ok hrequest
  refine ⟨?_, ?_, fun other hother hsame => ?_⟩
  · obtain ⟨hname, -⟩ := of_headerPair (Descriptor.headerPair_of_readHeaders hread hentry)
    rwa [hlower _ hentry] at hname
  · have hlast : last? queryHeaders key = some (utf8Bytes value) :=
      Descriptor.last?_readHeaders hread hlower hentry
    rw [Client.requestOf, client.values_assembleHeaders, hlast, Option.toList_some, cons_layer,
      values_basicAuthHeaders]
    rfl
  · calc other.1
      _ = other.1.map Char.toLower := (hlower other hother).symm
      _ = key.map Char.toLower := hsame
      _ = key := hlower _ hentry

/-- A query that writes its header names in capital letters and has credentials. -/
def shoutsHeaders : String :=
  "from 'http://localhost' where header ACCEPT = '*' and header 'Authorization' = Token" ++
    " with basicauth eve, one"

/-- A client with default headers of the same names. -/
def acceptsText : Client where
  userAgent := none
  defaultHeaders := [("accept", utf8Bytes "text/plain"), ("authorization", [])]
  readUrl := Url.parse?

/-- The request of this query from this client. -/
theorem request_headers_shoutsHeaders :
    ∃ d r, compile .body shoutsHeaders [] = .ok d ∧ acceptsText.request d = .ok r ∧
      d.headers.toList = [("accept", "*"), ("authorization", "token")] ∧
      r.headers.values "accept" = [utf8Bytes "*"] ∧
      r.headers.values "authorization" =
        [utf8Bytes "token", utf8Bytes (basicAuthorization "eve" "one")] := by
  have hparts : (compile .body shoutsHeaders []).toOption.map (fun d =>
        (d.headers.toList, d.basicAuth, (acceptsText.request d).toOption.isSome)) =
      some ([("accept", "*"), ("authorization", "token")], some ⟨"eve", "one"⟩, true) := by
    decide +kernel
  cases hcompile : compile .body shoutsHeaders [] with
  | error cause =>
    rw [hcompile] at hparts
    cases hparts
  | ok d =>
    rw [hcompile] at hparts
    simp only [Except.toOption, Option.map_some, Option.some.injEq, Prod.mk.injEq] at hparts
    obtain ⟨hheaders, hauth, hbuilt⟩ := hparts
    cases hrequest : acceptsText.request d with
    | error cause =>
      rw [hrequest] at hbuilt
      cases hbuilt
    | ok r =>
      have hkept := request_headers acceptsText r hcompile hrequest
      rw [hheaders, hauth] at hkept
      obtain ⟨-, haccept, -⟩ := hkept "accept" "*" (by decide)
      obtain ⟨-, htoken, -⟩ := hkept "authorization" "token" (by decide)
      exact ⟨d, r, rfl, hrequest, hheaders, haccept, htoken⟩

end HttpQuery
