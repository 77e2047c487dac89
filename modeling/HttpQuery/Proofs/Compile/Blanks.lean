import HttpQuery.Proofs.Compile.HeaderNames

/-! # The texts of a descriptor

The texts of a descriptor are literals of tokens, and these are cut at the blanks of the query. So
there is no blank in the URL, in a header, in the login or in the name of a header to extract.

* `Descriptor.Blankless`: a descriptor without blanks in its texts.
* `blankless_of_compile`: the descriptors of queries are of this sort. -/

namespace HttpQuery

/-- **A descriptor without blanks** in its texts. -/
structure Descriptor.Blankless (d : Descriptor) : Prop where
  url : HttpQuery.Blankless d.url
  headers : ∀ entry ∈ d.headers.toList,
    HttpQuery.Blankless entry.1 ∧ HttpQuery.Blankless entry.2
  login : ∀ c, d.basicAuth = some c → HttpQuery.Blankless c.login
  outputHeaders : ∀ name ∈ d.outputHeaders, HttpQuery.Blankless name

variable {mode : Mode} {query : String} {arguments : List Argument} {d : Descriptor}

/-- **Credentials are those of an option.** -/
theorem Command.exists_basicAuth_mem_options {command : Command} {c : Credentials}
    (h : command.fields.credentials = some c) :
    .basicAuth c.login c.password ∈ command.options := by
  rw [Fields.credentials] at h
  split at h
  · cases h
  · next hboth =>
    obtain rfl := Option.some.inj h
    -- Without an option both parts are empty.
    cases hlast : (command.options.filterMap QueryOption.basicAuth?).getLast? with
    | none => exact absurd (.inl (by rw [fields, hlast]; rfl)) hboth
    | some pair =>
      obtain ⟨option, hoption, hpair⟩ := List.mem_filterMap.1 (List.mem_of_getLast? hlast)
      cases option with
      | method verb => cases hpair
      | timeout literal => cases hpair
      | basicAuth login password =>
        obtain rfl : (login, password) = pair := Option.some.inj hpair
        rw [fields, hlast]
        exact hoption

/-- **The descriptor of a query has no blanks in its texts.** -/
theorem blankless_of_compile (h : compile mode query arguments = .ok d) : d.Blankless := by
  obtain ⟨bound, command, -, hspelled, hassemble⟩ := exists_command_of_compile h
  have htext : ∀ text, Token.text text ∈ command.tokens → Blankless text := by
    intro text hmem
    obtain ⟨token, htoken, rfl⟩ := hspelled.exists_literal hmem
    exact blankless_literal htoken
  have hheaders : ∀ entry ∈ d.headers.toList, Blankless entry.1 ∧ Blankless entry.2 := by
    intro entry hentry
    have hclause := command.header_mem_clauses hassemble hentry
    exact ⟨htext _ (Command.mem_tokens_of_mem_clauses hclause (by simp [Clause.tokens])),
      htext _ (Command.mem_tokens_of_mem_clauses hclause (by simp [Clause.tokens]))⟩
  obtain ⟨payload, seconds, -, -, rfl⟩ := Fields.eq_of_assemble_eq_ok hassemble
  refine ⟨htext _ (by simp [Command.tokens, Command.fields]), hheaders, fun c hc => ?_,
    fun name hname => ?_⟩
  · exact htext _ (Command.mem_tokens_of_mem_options
      (Command.exists_basicAuth_mem_options hc) (by simp [QueryOption.tokens]))
  · exact htext _ (List.mem_append_left _ (mem_listOfNames hname))

end HttpQuery
