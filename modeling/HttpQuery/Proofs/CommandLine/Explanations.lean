import HttpQuery.Proofs.CommandLine.Reports

/-! # Which explanations are reported

A query that is explained as JSON should come with one JSON object, whether it compiles or not. It
does if its arguments can be bound: then the object tells of the descriptor, or of any error that
comes later. If the texts are not as many as the placeholders, the explanation stops before it looks
at the format: the error stands on the error output, nothing is printed, and the run succeeds.

* `Outcome.Reports`: an outcome that prints one JSON object for the result of a query.
* `exists_bindArguments`, `bindArguments_of_ne`: when arguments can be bound, and the error if not.
* `runCommandLine_explain_bound`, `runCommandLine_explain_unbound`: the two ways to be explained.
* `explanation_reported_iff`: which explanations are reported.
* `explanation_unreported`: a query whose explanation prints nothing. -/

namespace HttpQuery

open Text

/-- **An outcome that reports a result**: one JSON object is printed and nothing else. It has the
fields and the request if the query compiles, and the text of the error if it does not. -/
def Outcome.Reports (outcome : Outcome) (result : Except CompileError Descriptor) : Prop :=
  ∃ report : KeyMap Json, outcome.output = utf8Bytes ((Json.ofMap report).indented ++ "\n") ∧
    (∀ d, result = .ok d → (∃ members, report.find? "fields" = some (.object members)) ∧
      ∃ members, members.Perm d.members ∧ report.find? "request" = some (.object members)) ∧
    ∀ cause, result = .error cause → report.find? "error" = some (.string cause.message)

/-! ### Binding -/

section

variable {query : String} {arguments : List Argument}

/-- Arguments can be bound if the texts are as many as the placeholders. -/
theorem exists_bindArguments
    (h : placeholderCount query.toList = (arguments.filterMap Argument.text?).length) :
    ∃ bound, bindArguments query arguments = .ok bound :=
  ⟨_, by rw [bindArguments, substitute, if_pos h]; rfl⟩

theorem bindArguments_of_ne
    (h : placeholderCount query.toList ≠ (arguments.filterMap Argument.text?).length) :
    bindArguments query arguments = .error (.placeholderCount (placeholderCount query.toList)
      (arguments.filterMap Argument.text?).length) := by
  rw [bindArguments, substitute, if_neg h]
  rfl

end

/-- The texts of an input are the texts among its arguments. -/
theorem QueryInput.filterMap_argumentsWith (input : QueryInput) (payload : Option Json) :
    (input.argumentsWith payload).filterMap Argument.text? = input.texts := by
  have htexts : input.texts.filterMap (Argument.text? ∘ Argument.text) = input.texts :=
    List.filterMap_some
  rw [argumentsWith, List.filterMap_append, List.filterMap_map, htexts]
  cases payload <;> exact List.append_nil _

/-! ### Explanations -/

variable {env : Environment} {line : List String} {input : QueryInput} {payload : Option Json}

/-- A line that is printed leaves some bytes. -/
theorem utf8Bytes_line_ne_nil (text : String) : utf8Bytes (text ++ "\n") ≠ [] := by
  have hbreak : utf8Bytes "\n" ≠ [] := by decide
  rw [utf8Bytes, String.toList_append, List.flatMap_append]
  exact List.append_ne_nil_of_right_ne_nil _ hbreak

section

variable (hline : Invocation.ofArguments env.configVariable line = some (.explain input))
  (hpayload : input.payload.mapM Json.parse = .ok payload)
include hline hpayload

/-- **An explanation that can be bound** reports the result of compiling. -/
theorem runCommandLine_explain_bound (hformat : input.format = .json)
    (hcount : placeholderCount input.query.toList = input.texts.length) :
    ∃ report : KeyMap Json,
      runCommandLine env line = { output := utf8Bytes ((Json.ofMap report).indented ++ "\n") } ∧
        (runCommandLine env line).Reports
          (compile input.mode input.query (input.argumentsWith payload)) := by
  rw [← input.filterMap_argumentsWith payload] at hcount
  obtain ⟨bound, hbound⟩ := exists_bindArguments hcount
  obtain ⟨report, hreport, htells⟩ := exists_explanationJson input.mode hbound
  have hrun : runCommandLine env line =
      { output := utf8Bytes ((Json.ofMap report).indented ++ "\n") } := by
    rw [runCommandLine, hline, ← hreport]
    simp only [Invocation.outcome, QueryInput.arguments_eq hpayload]
    exact explainOutcome_json hformat hbound
  refine ⟨report, hrun, report, by rw [hrun], fun d hd => ⟨?_, htells.request d hd⟩,
    fun cause hcause => (htells.error cause hcause).1⟩
  obtain ⟨fields, members, -, -, hfields⟩ := htells.fields d hd
  exact ⟨members, hfields⟩

/-- **An explanation that cannot be bound** prints nothing, in any format. -/
theorem runCommandLine_explain_unbound
    (hcount : placeholderCount input.query.toList ≠ input.texts.length) :
    compile input.mode input.query (input.argumentsWith payload) =
        .error (.placeholderCount (placeholderCount input.query.toList) input.texts.length) ∧
      runCommandLine env line =
        { errors := (Style.of .red).bolder.paint env.colours "Substitution Error:" ++ " " ++
            (CompileError.placeholderCount (placeholderCount input.query.toList)
              input.texts.length).message ++ "\n" } := by
  have htexts := input.filterMap_argumentsWith payload
  have hbind : bindArguments input.query (input.argumentsWith payload) =
      .error (.placeholderCount (placeholderCount input.query.toList) input.texts.length) := by
    rw [bindArguments_of_ne (by rwa [htexts]), htexts]
  constructor
  · rw [compile, hbind]
    rfl
  · rw [runCommandLine, hline]
    simp only [Invocation.outcome, QueryInput.arguments_eq hpayload, explainOutcome, hbind,
      compileErrorLines, linesText_singleton]
    rfl

/-- **An explanation is reported if and only if its arguments can be bound.** For every input that
asks for JSON and whose payload can be read, one JSON object is printed that has the fields and the
request, or the text of the error, exactly if the texts are as many as the placeholders; the run
succeeds and leaves the error output empty. Otherwise the number of texts is the error, and the run
prints nothing; it succeeds with the error on the error output. -/
theorem explanation_reported_iff (hformat : input.format = .json) :
    ((runCommandLine env line).Reports
          (compile input.mode input.query (input.argumentsWith payload)) ↔
        placeholderCount input.query.toList = input.texts.length) ∧
      ((runCommandLine env line).output ≠ [] ↔
        placeholderCount input.query.toList = input.texts.length) ∧
      (runCommandLine env line).status = 0 ∧
      (placeholderCount input.query.toList = input.texts.length →
        (runCommandLine env line).errors = "") ∧
      (placeholderCount input.query.toList ≠ input.texts.length →
        compile input.mode input.query (input.argumentsWith payload) =
            .error (.placeholderCount (placeholderCount input.query.toList) input.texts.length) ∧
          runCommandLine env line =
            { errors := (Style.of .red).bolder.paint env.colours "Substitution Error:" ++ " " ++
                (CompileError.placeholderCount (placeholderCount input.query.toList)
                  input.texts.length).message ++ "\n" }) := by
  by_cases hcount : placeholderCount input.query.toList = input.texts.length
  · obtain ⟨report, hrun, hreports⟩ := runCommandLine_explain_bound hline hpayload hformat hcount
    have houtput : (runCommandLine env line).output ≠ [] := by
      rw [hrun]
      exact utf8Bytes_line_ne_nil _
    exact ⟨iff_of_true hreports hcount, iff_of_true houtput hcount, by rw [hrun],
      fun _ => by rw [hrun], fun hne => absurd hcount hne⟩
  · obtain ⟨hcompile, hrun⟩ := runCommandLine_explain_unbound hline hpayload hcount
    have houtput : (runCommandLine env line).output = [] := by rw [hrun]
    refine ⟨iff_of_false ?_ hcount, iff_of_false (not_not_intro houtput) hcount, by rw [hrun],
      fun heq => absurd heq hcount, fun _ => ⟨hcompile, hrun⟩⟩
    rintro ⟨report, hreport, -⟩
    exact utf8Bytes_line_ne_nil _ (hreport.symm.trans houtput)

end

/-- A query without text arguments that is explained as JSON. -/
def explained (query : String) : QueryInput where
  query := query
  texts := []
  payload := none
  headersMode := false
  format := .json

/-- A bad timeout is reported, and a missing text is not. -/
theorem explanation_reported_iff_badTimeout :
    (runCommandLine noFiles ["explain", "-fjson", "from h with timeout x"]).Reports
        (compile .body "from h with timeout x" []) ∧
      ¬(runCommandLine noFiles ["explain", "-fjson", "from %s"]).Reports
        (compile .body "from %s" []) := by
  have hpayload : ∀ query, (explained query).payload.mapM Json.parse = .ok none := fun _ => rfl
  have htimeout : Invocation.ofArguments noFiles.configVariable
      ["explain", "-fjson", "from h with timeout x"] =
        some (.explain (explained "from h with timeout x")) := by decide +kernel
  have htext : Invocation.ofArguments noFiles.configVariable ["explain", "-fjson", "from %s"] =
      some (.explain (explained "from %s")) := by decide +kernel
  obtain ⟨hreported, -⟩ := explanation_reported_iff htimeout (hpayload _) rfl
  obtain ⟨hunreported, -⟩ := explanation_reported_iff htext (hpayload _) rfl
  exact ⟨hreported.2 (by decide +kernel), fun h => absurd (hunreported.1 h) (by decide +kernel)⟩

/-- **A failed explanation that prints nothing and succeeds**: a query without the text that it asks
for. -/
theorem explanation_unreported :
    Invocation.ofArguments none ["explain", "from %s", "-f", "json"] =
        some (.explain (explained "from %s")) ∧
      compile .body "from %s" [] = .error (.placeholderCount 1 0) ∧
      (runCommandLine noFiles ["explain", "from %s", "-f", "json"]).output = [] ∧
      (runCommandLine noFiles ["explain", "from %s", "-f", "json"]).status = 0 ∧
      ¬(runCommandLine noFiles ["explain", "from %s", "-f", "json"]).Reports
        (compile .body "from %s" []) := by
  have hpayload : (explained "from %s").payload.mapM Json.parse = .ok none := rfl
  have hline : Invocation.ofArguments noFiles.configVariable ["explain", "from %s", "-f", "json"] =
      some (.explain (explained "from %s")) := by decide +kernel
  have hone : placeholderCount (explained "from %s").query.toList = 1 := by decide +kernel
  obtain ⟨hcompile, hrun⟩ := runCommandLine_explain_unbound hline hpayload (by rw [hone]; decide)
  rw [hone] at hcompile
  refine ⟨hline, hcompile, by rw [hrun], by rw [hrun], ?_⟩
  rintro ⟨report, hreport, -⟩
  rw [hrun] at hreport
  exact utf8Bytes_line_ne_nil _ hreport.symm

end HttpQuery
