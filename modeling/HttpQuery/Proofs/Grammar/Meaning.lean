import HttpQuery.Proofs.Grammar.Steps
import HttpQuery.Query.Command

/-! # What a query means

A reader that has read a part of a command has collected the fields that this part denotes: each
name, clause or option that it reads next takes these to the fields of the longer part. The way
through a clause starts at any place with the clause starts after it and ends at a place with
`afterClause` after it, and the same holds of the options.

* `run_clause`, `run_option`: the run through one clause, and through one option.
* `ofTokens_tokens`: the tokens of a command are read to its fields.
* `ofTokens_eq_ok_congr`: only the kinds of the tokens and the literals of the values count.
* `ofTokens_eq_command_fields`: the two together. -/

namespace HttpQuery

/-! ### The fields of a longer part -/

namespace Clause

/-- The fields after a clause. -/
def addTo (fields : Fields) : Clause → Fields
  | .header key value =>
    { fields with
      headerKeys := fields.headerKeys ++ [key]
      headerValues := fields.headerValues ++ [value] }
  | .json key value =>
    { fields with
      jsonKeys := fields.jsonKeys ++ [key]
      jsonValues := fields.jsonValues ++ [value] }
  | .payload _ => { fields with payload := true }

end Clause

namespace QueryOption

/-- The fields after an option. -/
def addTo (fields : Fields) : QueryOption → Fields
  | .method verb => { fields with method := some verb }
  | .basicAuth login password => { fields with basicLogin := login, basicPassword := password }
  | .timeout literal => { fields with timeout := some literal }

end QueryOption

namespace Command

theorem fields_append_clause (names : List String) (url : String) (clauses : List Clause)
    (clause : Clause) :
    (⟨names, url, clauses ++ [clause], []⟩ : Command).fields =
      clause.addTo (⟨names, url, clauses, []⟩ : Command).fields := by
  cases clause <;>
    simp [fields, Clause.addTo, Clause.header?, Clause.json?, Clause.isPayload]

theorem fields_append_option (names : List String) (url : String) (clauses : List Clause)
    (options : List QueryOption) (option : QueryOption) :
    (⟨names, url, clauses, options ++ [option]⟩ : Command).fields =
      option.addTo (⟨names, url, clauses, options⟩ : Command).fields := by
  cases option <;>
    simp [fields, QueryOption.addTo, QueryOption.method?, QueryOption.basicAuth?,
      QueryOption.timeout?]

end Command

/-! ### Runs from place to place -/

variable {mode : Mode} {place next : Place} {fields : Fields}

theorem run_of_step {token : Token} {tokens : List Token}
    (h : place.step mode token.kind = some next) :
    (grammar mode).run ⟨place.index, fields⟩ (token :: tokens) =
      (grammar mode).run
        ⟨next.index, fields.applyOption token.literal (next.rule mode).action⟩ tokens := by
  rw [Graph.run_cons, grammar_step, h]; rfl

/-- Places with the same places after them have the same steps. -/
theorem Place.step_congr {other : Place} (h : (place.rule mode).next = (other.rule mode).next) :
    place.step mode = other.step mode := by
  funext kind
  rw [Place.step, h, Place.step]

/-- An option may follow wherever the query may end. -/
theorem Place.step_withWord (h : .finish ∈ (place.rule mode).next) :
    place.step mode .withWord = some .option := by
  cases mode <;> cases place <;> first | rfl | exact absurd h (by decide)

/-- **The run through one clause.** -/
theorem run_clause (hplace : (place.rule mode).next = Place.clauseStarts) (fields : Fields)
    (clause : Clause) :
    ∃ last : Place, (last.rule mode).next = Place.afterClause ∧
      (grammar mode).run ⟨place.index, fields⟩ clause.tokens =
        some ⟨last.index, clause.addTo fields⟩ := by
  -- After `where` and after `and` a clause starts with the same steps.
  have hstep : place.step mode = Place.clauses.step mode := Place.step_congr hplace
  cases clause with
  | header key value =>
    refine ⟨.headerValue, rfl, ?_⟩
    rw [Clause.tokens, run_of_step (by rw [hstep]; rfl), run_of_step rfl, run_of_step rfl,
      run_of_step rfl]
    rfl
  | json key value =>
    refine ⟨.jsonValue, rfl, ?_⟩
    rw [Clause.tokens, run_of_step (by rw [hstep]; rfl), run_of_step rfl, run_of_step rfl]
    rfl
  | payload source =>
    cases source with
    | placeholder =>
      refine ⟨.payloadPlaceholder, rfl, ?_⟩
      rw [Clause.tokens, run_of_step (by rw [hstep]; rfl), run_of_step rfl, run_of_step rfl]
      rfl
    | literal text =>
      refine ⟨.payloadValue, rfl, ?_⟩
      rw [Clause.tokens, run_of_step (by rw [hstep]; rfl), run_of_step rfl, run_of_step rfl]
      rfl

/-- **The run through one option.** -/
theorem run_option (mode : Mode) (fields : Fields) (option : QueryOption) :
    ∃ last : Place, (last.rule mode).next = Place.afterOption ∧
      (grammar mode).run ⟨Place.option.index, fields⟩ option.tokens =
        some ⟨last.index, option.addTo fields⟩ := by
  cases option with
  | method verb => cases verb <;> exact ⟨_, rfl, by rw [QueryOption.tokens, run_of_step rfl]; rfl⟩
  | basicAuth login password =>
    refine ⟨.basicPassword, rfl, ?_⟩
    rw [QueryOption.tokens, run_of_step rfl, run_of_step rfl, run_of_step rfl, run_of_step rfl]
    rfl
  | timeout literal =>
    refine ⟨.timeoutValue, rfl, ?_⟩
    rw [QueryOption.tokens, run_of_step rfl, run_of_step rfl]
    rfl

/-! ### The parts of a command -/

variable {names : List String} {url : String}

/-- The run through the names after the first one. -/
theorem run_moreNames (mode : Mode) (done names : List String) :
    (grammar mode).run ⟨Place.outputHeader.index, (⟨done, "", [], []⟩ : Command).fields⟩
        (names.flatMap fun name => [.reserved .comma, .text name]) =
      some ⟨Place.outputHeader.index, (⟨done ++ names, "", [], []⟩ : Command).fields⟩ := by
  induction names generalizing done with
  | nil => rw [List.append_nil]; rfl
  | cons name names ih =>
    rw [List.flatMap_cons, List.cons_append, List.cons_append, List.nil_append,
      run_of_step rfl, run_of_step rfl, List.append_cons]
    exact ih (done ++ [name])

/-- The run through a clause after others. -/
theorem run_nextClause (hplace : (place.rule mode).next = Place.clauseStarts)
    (done : List Clause) (clause : Clause) :
    ∃ last : Place, (last.rule mode).next = Place.afterClause ∧
      (grammar mode).run ⟨place.index, (⟨names, url, done, []⟩ : Command).fields⟩ clause.tokens =
        some ⟨last.index, (⟨names, url, done ++ [clause], []⟩ : Command).fields⟩ := by
  rw [Command.fields_append_clause]
  exact run_clause hplace _ clause

/-- The run through the clauses after the first one. -/
theorem run_nextClauses (hplace : (place.rule mode).next = Place.afterClause)
    (done clauses : List Clause) :
    ∃ last : Place, (last.rule mode).next = Place.afterClause ∧
      (grammar mode).run ⟨place.index, (⟨names, url, done, []⟩ : Command).fields⟩
          (clauses.flatMap fun clause => .reserved .andWord :: clause.tokens) =
        some ⟨last.index, (⟨names, url, done ++ clauses, []⟩ : Command).fields⟩ := by
  induction clauses generalizing place done with
  | nil => exact ⟨place, hplace, by rw [List.append_nil]; rfl⟩
  | cons clause clauses ih =>
    have hand : place.step mode (Token.reserved .andWord).kind = some .nextClause := by
      rw [Place.step, hplace]; rfl
    have hnext : (Place.nextClause.rule mode).next = Place.clauseStarts := rfl
    obtain ⟨middle, hmiddle, hclause⟩ := run_nextClause hnext done clause
    obtain ⟨last, hlast, hrun⟩ := ih hmiddle (done ++ [clause])
    rw [List.append_assoc, List.singleton_append] at hrun
    refine ⟨last, hlast, ?_⟩
    rw [List.flatMap_cons, List.cons_append, run_of_step hand, Graph.run_append]
    exact Option.bind_eq_some_iff.2 ⟨_, hclause, hrun⟩

/-- **The run through the clauses.** -/
theorem run_clauses (mode : Mode) (names : List String) (url : String) (clauses : List Clause) :
    ∃ last : Place, .finish ∈ (last.rule mode).next ∧
      (grammar mode).run ⟨Place.url.index, (⟨names, url, [], []⟩ : Command).fields⟩
          (Clause.tokensOfList clauses) =
        some ⟨last.index, (⟨names, url, clauses, []⟩ : Command).fields⟩ := by
  cases clauses with
  | nil => exact ⟨.url, by simp [Place.rule], rfl⟩
  | cons clause clauses =>
    have hclauses : (Place.clauses.rule mode).next = Place.clauseStarts := rfl
    obtain ⟨middle, hmiddle, hclause⟩ := run_nextClause hclauses [] clause
    obtain ⟨last, hlast, hrun⟩ := run_nextClauses hmiddle [clause] clauses
    refine ⟨last, by rw [hlast]; decide, ?_⟩
    rw [Clause.tokensOfList, List.cons_append, run_of_step rfl, Graph.run_append]
    exact Option.bind_eq_some_iff.2 ⟨_, hclause, hrun⟩

/-- **The run through the options.** -/
theorem run_options {clauses : List Clause} (hplace : .finish ∈ (place.rule mode).next)
    (done options : List QueryOption) :
    ∃ last : Place, .finish ∈ (last.rule mode).next ∧
      (grammar mode).run ⟨place.index, (⟨names, url, clauses, done⟩ : Command).fields⟩
          (QueryOption.tokensOfList options) =
        some ⟨last.index, (⟨names, url, clauses, done ++ options⟩ : Command).fields⟩ := by
  induction options generalizing place done with
  | nil => exact ⟨place, hplace, by rw [List.append_nil]; rfl⟩
  | cons option options ih =>
    have hwith : place.step mode (Token.reserved .withWord).kind = some .option :=
      Place.step_withWord hplace
    obtain ⟨middle, hmiddle, hoption⟩ :=
      run_option mode (⟨names, url, clauses, done⟩ : Command).fields option
    obtain ⟨last, hlast, hrun⟩ := ih (by rw [hmiddle]; decide) (done ++ [option])
    rw [List.append_assoc, List.singleton_append, Command.fields_append_option] at hrun
    refine ⟨last, hlast, ?_⟩
    rw [QueryOption.tokensOfList, List.flatMap_cons, List.cons_append, run_of_step hwith,
      Graph.run_append]
    exact Option.bind_eq_some_iff.2 ⟨_, hoption, hrun⟩

/-- The run through the names of a command. -/
theorem run_listOfNames {command : Command} (h : command.Fits mode) :
    ∃ last : Place, last.step mode .fromWord = some .source ∧
      (grammar mode).run (grammar mode).initial (Token.listOfNames command.outputHeaders) =
        some ⟨last.index, (⟨command.outputHeaders, "", [], []⟩ : Command).fields⟩ := by
  cases mode with
  | body =>
    have hnames : command.outputHeaders = [] := h
    exact ⟨.start, rfl, by rw [hnames]; rfl⟩
  | headerSelection =>
    obtain ⟨name, names, hnames⟩ := List.exists_cons_of_ne_nil h
    have hinitial : (grammar .headerSelection).initial = ⟨Place.start.index, {}⟩ := rfl
    refine ⟨.outputHeader, rfl, ?_⟩
    rw [hnames, Token.listOfNames, hinitial, run_of_step rfl]
    exact run_moreNames .headerSelection [name] names

/-- **The tokens of a command are read to its fields.** -/
theorem ofTokens_tokens {command : Command} (h : command.Fits mode) :
    Fields.ofTokens mode command.tokens = .ok command.fields := by
  obtain ⟨before, hbefore, hrunNames⟩ := run_listOfNames h
  obtain ⟨middle, hmiddle, hrunClauses⟩ :=
    run_clauses mode command.outputHeaders command.url command.clauses
  obtain ⟨last, hlast, hrunOptions⟩ := run_options hmiddle [] command.options
  have hrun : (grammar mode).run (grammar mode).initial command.tokens =
      some ⟨last.index, command.fields⟩ := by
    rw [Command.tokens, Graph.run_append, hrunNames, Option.bind_some, run_of_step hbefore,
      run_of_step rfl, Graph.run_append]
    exact Option.bind_eq_some_iff.2 ⟨_, hrunClauses, hrunOptions⟩
  exact Graph.read_eq_ok_iff.2 ⟨_, hrun, (grammar_canEnd mode last).2 hlast, rfl⟩

/-! ### What counts of a token -/

/-- What counts of a token: its kind, and its literal if it is a value. -/
def Token.content (token : Token) : Kind × Option String :=
  (token.kind, if token.kind = .value then some token.literal else none)

/-- A place that does not accept values fires no action with the literal. -/
theorem Place.applyOption_action (h : (place.rule mode).kind ≠ .value) (literal other : String) :
    fields.applyOption literal (place.rule mode).action =
      fields.applyOption other (place.rule mode).action := by
  cases mode <;> cases place <;> first | rfl | exact absurd rfl h

/-- Tokens with the same content have the same step. -/
theorem grammar_step_congr {token other : Token} (h : token.content = other.content) :
    (grammar mode).step ⟨place.index, fields⟩ token =
      (grammar mode).step ⟨place.index, fields⟩ other := by
  obtain ⟨hkind, hliteral⟩ := Prod.mk.inj h
  rw [grammar_step, grammar_step, hkind]
  cases hstep : place.step mode other.kind with
  | none => rfl
  | some next =>
    have hnext := (Place.step_eq_some_iff.1 hstep).2
    rw [Option.map_some, Option.map_some]
    by_cases hvalue : other.kind = .value
    · rw [if_pos (hkind.trans hvalue), if_pos hvalue, Option.some.injEq] at hliteral
      rw [hliteral]
    · rw [Place.applyOption_action (by rwa [hnext]) token.literal other.literal]

/-- Lists of tokens with the same contents have the same run. -/
theorem grammar_run_congr {tokens others : List Token}
    (h : tokens.map Token.content = others.map Token.content) :
    (grammar mode).run ⟨place.index, fields⟩ tokens =
      (grammar mode).run ⟨place.index, fields⟩ others := by
  induction tokens generalizing others place fields with
  | nil => rw [List.map_eq_nil_iff.1 h.symm]
  | cons token tokens ih =>
    obtain ⟨other, others, rfl, hother, hothers⟩ := List.map_eq_cons_iff.1 h.symm
    rw [Graph.run_cons, Graph.run_cons, grammar_step_congr hother.symm, grammar_step]
    cases place.step mode other.kind with
    | none => rfl
    | some next => exact ih hothers.symm

/-- **Only the contents of the tokens count.** -/
theorem ofTokens_eq_ok_congr {tokens others : List Token} {fields : Fields}
    (h : tokens.map Token.content = others.map Token.content) :
    Fields.ofTokens mode tokens = .ok fields ↔ Fields.ofTokens mode others = .ok fields := by
  have hrun : (grammar mode).run (grammar mode).initial tokens =
      (grammar mode).run (grammar mode).initial others := grammar_run_congr h
  rw [Fields.ofTokens, Fields.ofTokens, Graph.read_eq_ok_iff, Graph.read_eq_ok_iff, hrun]

/-- **A query is read to the fields that its command denotes**: the names, keys and values are those
of the command, each once and in its order, of repeated options the last one counts, and nothing
else is set. The literals of the reserved words do not matter. -/
theorem ofTokens_eq_command_fields (mode : Mode) (command : Command) (tokens : List Token)
    (hfits : command.Fits mode)
    (hcontent : tokens.map Token.content = command.tokens.map Token.content) :
    Fields.ofTokens mode tokens = .ok command.fields :=
  (ofTokens_eq_ok_congr hcontent).2 (ofTokens_tokens hfits)

/-- A command with clauses of each kind and with repeated options. -/
def interleaved : Command where
  outputHeaders := ["etag", "date"]
  url := "http"
  clauses := [.json "name" "bob", .header "accept" "*", .payload .placeholder, .json "name" "eve",
    .payload (.literal "body")]
  options := [.basicAuth "bob" "one", .timeout "5", .method .put, .basicAuth "eve" "",
    .method .post, .timeout "x"]

/-- The fields of a command, however its reserved words are spelled. -/
theorem ofTokens_interleaved :
    interleaved.Fits .headerSelection ∧
      (interleaved.tokens.map fun token =>
          if token.kind = .value then token else ⟨token.kind, "WORD"⟩).map Token.content =
        interleaved.tokens.map Token.content ∧
      Fields.ofTokens .headerSelection (interleaved.tokens.map fun token =>
          if token.kind = .value then token else ⟨token.kind, "WORD"⟩) =
        .ok {
          outputHeaders := ["etag", "date"]
          headerKeys := ["accept"]
          headerValues := ["*"]
          jsonKeys := ["name", "name"]
          jsonValues := ["bob", "eve"]
          url := "http"
          method := some .post
          payload := true
          basicLogin := "eve"
          basicPassword := ""
          timeout := some "x" } :=
  ⟨List.cons_ne_nil _ _, by decide,
    ofTokens_eq_command_fields .headerSelection interleaved _ (List.cons_ne_nil _ _) (by decide)⟩

end HttpQuery
