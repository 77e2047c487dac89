import HttpQuery.Proofs.Grammar.Steps

/-! # What an error says about a query

A list of kinds is *accepted* if a query of these kinds is read, and *viable* if it starts an
accepted list. The way from any place but the last can be completed, so the viable lists are those
that lead to such a place. An error therefore comes at the first token after which nothing could be
read any more, and it lists exactly what could have stood there.

* `viable_iff`: the viable lists by their ways.
* `ExactReport`: what a report of a token says.
* `ofTokens_errors_exact`: each report is exact, and a query is incomplete exactly if it is viable
  and not accepted. -/

namespace HttpQuery

/-- A list of kinds is accepted if a query of these kinds is read. -/
def Accepted (mode : Mode) (kinds : List Kind) : Prop :=
  ∃ tokens fields, tokens.map Token.kind = kinds ∧ Fields.ofTokens mode tokens = .ok fields

/-- A list of kinds is viable if it starts an accepted list. -/
def Viable (mode : Mode) (kinds : List Kind) : Prop :=
  ∃ accepted, Accepted mode accepted ∧ kinds <+: accepted

/-- **What a report of a token says**: the token is the first one after which nothing could be read
any more, the listed kinds are those that could have stood there, and what follows the token does
not count. -/
structure ExactReport (mode : Mode) (tokens : List Token) (position : Nat) (found : Kind)
    (expected : List Kind) : Prop where
  pos : 1 ≤ position
  le_length : position ≤ tokens.length
  found_eq : (tokens.map Token.kind)[position - 1]? = some found
  viable_before : Viable mode ((tokens.map Token.kind).take (position - 1))
  not_viable : ¬ Viable mode ((tokens.map Token.kind).take position)
  nodup : expected.Nodup
  found_not_mem : found ∉ expected
  mem_iff : ∀ kind, kind ≠ .finish →
    (kind ∈ expected ↔ Viable mode ((tokens.map Token.kind).take (position - 1) ++ [kind]))
  finish_mem_iff : .finish ∈ expected ↔ Accepted mode ((tokens.map Token.kind).take (position - 1))
  same : ∀ other : List Token,
    (other.map Token.kind).take position = (tokens.map Token.kind).take position →
      Fields.ofTokens mode other = .error (.unexpectedToken position found expected)

/-! ### Ways that can be completed -/

namespace Place

variable {mode : Mode} {place last : Place}

/-- A shortest list of kinds from a place to an end of the query. -/
def completion (mode : Mode) : Place → List Kind
  | .start =>
    match mode with
    | .body => [.fromWord, .value]
    | .headerSelection => [.value, .fromWord, .value]
  | .outputHeader => [.fromWord, .value]
  | .outputComma => [.value, .fromWord, .value]
  | .clauses | .nextClause | .header => [.value, .equal, .value]
  | .headerKey | .jsonKey | .payload => [.equal, .value]
  | .source | .headerEqual | .jsonEqual | .payloadEqual => [.value]
  | .option => [.get]
  | .basicAuth => [.value, .comma, .value]
  | .basicLogin => [.comma, .value]
  | .basicComma | .timeout => [.value]
  | _ => []

/-- **The way from any place but the last can be completed.** -/
theorem walk_completion (mode : Mode) (h : place ≠ .finish) :
    ∃ last, place.walk mode (place.completion mode) = some last ∧
      .finish ∈ (last.rule mode).next := by
  cases place with
  | finish => exact absurd rfl h
  | _ => cases mode <;> exact ⟨_, rfl, by decide⟩

/-- The last place is entered by the end of a query only. -/
theorem ne_finish_of_walk {kinds : List Kind} (h : place.walk mode kinds = some last)
    (hplace : place ≠ .finish) (hkinds : .finish ∉ kinds) : last ≠ .finish := by
  induction kinds generalizing place with
  | nil =>
    obtain rfl : place = last := by simpa using h
    exact hplace
  | cons kind kinds ih =>
    rw [walk_cons, Option.bind_eq_some_iff] at h
    obtain ⟨next, hstep, hwalk⟩ := h
    obtain ⟨hkind, hkinds⟩ : kind ≠ .finish ∧ .finish ∉ kinds := by
      simpa [eq_comm] using hkinds
    refine ih hwalk (fun hnext => hkind ?_) hkinds
    rw [← (step_eq_some_iff.1 hstep).2]
    exact kind_eq_finish_iff.2 hnext

/-- No way leads from the last place to an end of the query. -/
theorem not_end_of_walk_finish {kinds : List Kind}
    (h : Place.finish.walk mode kinds = some last) : .finish ∉ (last.rule mode).next := by
  cases kinds with
  | nil =>
    obtain rfl : Place.finish = last := by simpa using h
    simp [rule]
  | cons kind kinds => simp [step, rule] at h

/-- The end of the query is listed after a place where the query may end. -/
theorem finish_mem_expected_iff :
    .finish ∈ place.expected mode ↔ .finish ∈ (place.rule mode).next := by
  rw [expected, List.mem_map]
  constructor
  · rintro ⟨next, hmem, hkind⟩
    rwa [← kind_eq_finish_iff.1 hkind]
  · intro h
    exact ⟨.finish, h, rfl⟩

end Place

/-! ### Accepted and viable lists -/

variable {mode : Mode} {kinds : List Kind} {place : Place}

/-- **The accepted lists lead to a place where the query may end.** -/
theorem accepted_iff :
    Accepted mode kinds ↔
      ∃ place, Place.start.walk mode kinds = some place ∧ .finish ∈ (place.rule mode).next := by
  constructor
  · rintro ⟨tokens, fields, rfl, hread⟩
    obtain ⟨after, hrun, hend, -⟩ := Graph.read_eq_ok_iff.1 hread
    obtain ⟨place, hwalk, hplace⟩ := walk_of_grammar_run hrun
    exact ⟨place, hwalk, by rwa [← grammar_canEnd, hplace]⟩
  · rintro ⟨place, hwalk, hend⟩
    have hkinds : (kinds.map fun kind => (⟨kind, ""⟩ : Token)).map Token.kind = kinds := by
      simp [Function.comp_def]
    rw [← hkinds] at hwalk
    obtain ⟨after, hrun, hafter⟩ := grammar_run_of_walk hwalk
    refine ⟨_, after.fields, hkinds, Graph.read_eq_ok_iff.2 ⟨after, hrun, ?_, rfl⟩⟩
    rwa [hafter, grammar_canEnd]

/-- **The viable lists lead to a place other than the last.** -/
theorem viable_iff :
    Viable mode kinds ↔ ∃ place, Place.start.walk mode kinds = some place ∧ place ≠ .finish := by
  constructor
  · rintro ⟨_, hacc, rest, rfl⟩
    obtain ⟨last, hwalk, hend⟩ := accepted_iff.1 hacc
    rw [Place.walk_append, Option.bind_eq_some_iff] at hwalk
    obtain ⟨place, hplace, hrest⟩ := hwalk
    refine ⟨place, hplace, ?_⟩
    rintro rfl
    exact Place.not_end_of_walk_finish hrest hend
  · rintro ⟨place, hwalk, hne⟩
    obtain ⟨last, hlast, hend⟩ := Place.walk_completion mode hne
    refine ⟨kinds ++ place.completion mode, accepted_iff.2 ⟨last, ?_, hend⟩,
      List.prefix_append _ _⟩
    rw [Place.walk_append, hwalk]
    exact hlast

/-- After a list that leads to a place, a kind keeps the list viable if it is listed there. -/
theorem viable_append_singleton_iff (h : Place.start.walk mode kinds = some place) {kind : Kind}
    (hkind : kind ≠ .finish) : Viable mode (kinds ++ [kind]) ↔ kind ∈ place.expected mode := by
  rw [viable_iff, Place.walk_append, h, Option.bind_some, Place.walk_cons]
  constructor
  · rintro ⟨last, hwalk, -⟩
    by_contra hmem
    rw [Place.step_eq_none_iff.2 hmem] at hwalk
    simp at hwalk
  · intro hmem
    cases hstep : place.step mode kind with
    | none => exact absurd hmem (Place.step_eq_none_iff.1 hstep)
    | some next =>
      refine ⟨next, rfl, ?_⟩
      rintro rfl
      exact hkind (Place.step_eq_some_iff.1 hstep).2.symm

/-- A list that leads to a place is accepted if the end of the query is listed there. -/
theorem accepted_iff_finish_mem (h : Place.start.walk mode kinds = some place) :
    Accepted mode kinds ↔ .finish ∈ place.expected mode := by
  rw [accepted_iff, Place.finish_mem_expected_iff, h]
  simp

/-- **The incomplete queries** lead to a place where the query may not end. -/
theorem ofTokens_eq_incomplete_iff {tokens : List Token} :
    Fields.ofTokens mode tokens = .error .incomplete ↔
      ∃ place, Place.start.walk mode (tokens.map Token.kind) = some place ∧
        .finish ∉ (place.rule mode).next := by
  rw [Fields.ofTokens, Graph.read_eq_incomplete_iff]
  constructor
  · rintro ⟨after, hrun, hend⟩
    obtain ⟨place, hwalk, hplace⟩ := walk_of_grammar_run hrun
    refine ⟨place, hwalk, ?_⟩
    rw [← grammar_canEnd, hplace, hend]
    decide
  · rintro ⟨place, hwalk, hend⟩
    obtain ⟨after, hrun, hafter⟩ := grammar_run_of_walk hwalk
    refine ⟨after, hrun, ?_⟩
    rw [← grammar_canEnd, ← hafter] at hend
    simpa using hend

/-! ### Reports -/

/-- What is reported when a list of kinds leads to a place and the next kind is not listed there. -/
theorem ofTokens_eq_error {tokens : List Token} {kind : Kind} {rest : List Kind}
    (hwalk : Place.start.walk mode kinds = some place) (hkind : kind ∉ place.expected mode)
    (htokens : tokens.map Token.kind = kinds ++ kind :: rest) :
    Fields.ofTokens mode tokens =
      .error (.unexpectedToken (1 + kinds.length) kind (place.expected mode)) := by
  obtain ⟨done, others, rfl, rfl, hothers⟩ := List.map_eq_append_iff.1 htokens
  obtain ⟨token, others, rfl, rfl, -⟩ := List.map_eq_cons_iff.1 hothers
  obtain ⟨middle, hrun, hmiddle⟩ := grammar_run_of_walk hwalk
  refine Graph.read_eq_unexpectedToken_iff.2
    ⟨done, token, others, middle, rfl, hrun, ?_, ?_, rfl, ?_⟩
  · rw [hmiddle, grammar_transition, Place.step_eq_none_iff.2 hkind]; rfl
  · rw [List.length_map]
  · rw [hmiddle, grammar_expected]

/-- **A report is exact** where a list of kinds leads to a place other than the last and the next
kind is not listed there. -/
theorem exactReport_of_walk {tokens : List Token} {kind : Kind} {rest : List Kind}
    (hwalk : Place.start.walk mode kinds = some place) (hplace : place ≠ .finish)
    (hkind : kind ∉ place.expected mode) (hfinish : kind ≠ .finish)
    (htokens : tokens.map Token.kind = kinds ++ kind :: rest) :
    ExactReport mode tokens (1 + kinds.length) kind (place.expected mode) := by
  have hlength : tokens.length = kinds.length + (rest.length + 1) := by
    rw [← List.length_map Token.kind, htokens, List.length_append, List.length_cons]
  have hbefore : (tokens.map Token.kind).take (1 + kinds.length - 1) = kinds := by
    rw [htokens, show 1 + kinds.length - 1 = kinds.length by omega, List.take_left]
  have hthrough : (tokens.map Token.kind).take (1 + kinds.length) = kinds ++ [kind] := by
    rw [htokens, Nat.add_comm, List.take_length_add_append]; rfl
  exact
    { pos := by omega
      le_length := by omega
      found_eq := by
        rw [htokens, List.getElem?_append_right (by omega)]
        simp
      viable_before := by
        rw [hbefore]
        exact viable_iff.2 ⟨place, hwalk, hplace⟩
      not_viable := by
        rw [hthrough, viable_append_singleton_iff hwalk hfinish]
        exact hkind
      nodup := Place.nodup_expected mode place
      found_not_mem := hkind
      mem_iff := fun other hother => by
        rw [hbefore, viable_append_singleton_iff hwalk hother]
      finish_mem_iff := by rw [hbefore, accepted_iff_finish_mem hwalk]
      same := fun other hother => by
        -- The other list leads to the same place, and there to the same report.
        have hsplit := List.take_append_drop (1 + kinds.length) (other.map Token.kind)
        rw [hother, hthrough, List.append_assoc] at hsplit
        exact ofTokens_eq_error hwalk hkind hsplit.symm }

/-- **Errors are exact.** In a query that does not write its end, a report of a token is exact, and
the query is incomplete if and only if it starts an accepted list without being one. -/
theorem ofTokens_errors_exact (mode : Mode) (tokens : List Token)
    (hfinish : ∀ token ∈ tokens, token.kind ≠ .finish) :
    (∀ position found expected,
        Fields.ofTokens mode tokens = .error (.unexpectedToken position found expected) →
          ExactReport mode tokens position found expected) ∧
      (Fields.ofTokens mode tokens = .error .incomplete ↔
        ¬ Accepted mode (tokens.map Token.kind) ∧ Viable mode (tokens.map Token.kind)) := by
  have hkinds : .finish ∉ tokens.map Token.kind := by
    simpa [List.mem_map] using hfinish
  constructor
  · intro position found expected h
    obtain ⟨done, token, rest, middle, rfl, hrun, hnone, rfl, rfl, rfl⟩ :=
      Graph.read_eq_unexpectedToken_iff.1 h
    obtain ⟨place, hwalk, hplace⟩ := walk_of_grammar_run hrun
    rw [← hplace, grammar_transition, Option.map_eq_none_iff, Place.step_eq_none_iff] at hnone
    have hdone : .finish ∉ done.map Token.kind := fun hmem => hkinds (by simp_all)
    have htoken : token.kind ≠ .finish := hfinish token (by simp)
    rw [← hplace, grammar_expected, ← List.length_map Token.kind]
    exact exactReport_of_walk hwalk (Place.ne_finish_of_walk hwalk (by decide) hdone) hnone htoken
      (by rw [List.map_append, List.map_cons])
  · rw [ofTokens_eq_incomplete_iff]
    constructor
    · rintro ⟨place, hwalk, hend⟩
      have hplace : place ≠ .finish := Place.ne_finish_of_walk hwalk (by decide) hkinds
      refine ⟨?_, viable_iff.2 ⟨place, hwalk, hplace⟩⟩
      rwa [accepted_iff_finish_mem hwalk, Place.finish_mem_expected_iff]
    · rintro ⟨hnot, hviable⟩
      obtain ⟨place, hwalk, -⟩ := viable_iff.1 hviable
      refine ⟨place, hwalk, ?_⟩
      rwa [accepted_iff_finish_mem hwalk, Place.finish_mem_expected_iff] at hnot

/-- A query whose second clause is not introduced by `and`. -/
def withoutAnd : List Token :=
  [⟨.fromWord, "from"⟩, ⟨.value, "http"⟩, ⟨.whereWord, "where"⟩, ⟨.value, "name"⟩, ⟨.equal, "="⟩,
    ⟨.value, "bob"⟩, ⟨.header, "header"⟩, ⟨.value, "etag"⟩]

/-- The report of the missing `and`, and what is said of the query when it breaks off before. -/
theorem exactReport_withoutAnd :
    (∀ token ∈ withoutAnd, token.kind ≠ .finish) ∧
      ExactReport .body withoutAnd 7 .header [.withWord, .andWord, .finish] ∧
      ¬ Accepted .body ((withoutAnd.take 5).map Token.kind) ∧
      Viable .body ((withoutAnd.take 5).map Token.kind) := by
  have hkinds : ∀ token ∈ withoutAnd, token.kind ≠ .finish := by decide
  have hwalk : Place.start.walk .body ((withoutAnd.take 6).map Token.kind) = some .jsonValue := rfl
  have herror : Fields.ofTokens .body withoutAnd =
      .error (.unexpectedToken 7 .header [.withWord, .andWord, .finish]) :=
    ofTokens_eq_error hwalk (by decide) rfl
  have hincomplete : Fields.ofTokens .body (withoutAnd.take 5) = .error .incomplete :=
    ofTokens_eq_incomplete_iff.2 ⟨.jsonEqual, rfl, by decide⟩
  exact ⟨hkinds, (ofTokens_errors_exact .body withoutAnd hkinds).1 7 .header _ herror,
    (ofTokens_errors_exact .body (withoutAnd.take 5) (by decide)).2.1 hincomplete⟩

end HttpQuery
