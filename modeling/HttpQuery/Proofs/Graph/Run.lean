import HttpQuery.Query.Reading

/-! # Runs along a transition graph

The state of a reader is its cursor and the fields so far. A token moves it to the first successor
of the cursor that accepts the token and fires the action found there; a *run* is a list of such
steps. The cursor of a run depends on the kinds of the tokens only, and `walk` is that part alone.

* `Graph.readFrom_of_run`: a reading goes on where a run of its first tokens ends.
* `Graph.run_or_stuck`: a list of tokens is run through, or one of its tokens has no step.
* `Graph.read_eq_ok_iff`, `Graph.read_eq_incomplete_iff`, `Graph.read_eq_unexpectedToken_iff`: the
  three outcomes of a reading in terms of runs.
* `Graph.eq_of_read_eq_error`: there is no other error than the last two.
* `Graph.read_eq_error_congr`: errors see the kinds of the tokens only. -/

namespace HttpQuery.Graph

variable {n : Nat} (graph : Graph n)

/-- **The state of a reader**: where it is, and what it has collected. -/
structure State (n : Nat) where
  cursor : Fin n
  fields : Fields

/-- The state before the first token. -/
def initial : State n := ⟨graph.start, {}⟩

/-- The state after one token, if the cursor has a successor for it. -/
def step (state : State n) (token : Token) : Option (State n) :=
  (graph.transition state.cursor token.kind).map fun next =>
    ⟨next, graph.enter next state.fields token.literal⟩

/-- **The state after a list of tokens**, if each of them has a step. -/
def run (state : State n) : List Token → Option (State n)
  | [] => some state
  | token :: tokens => (graph.step state token).bind fun next => run next tokens

/-- The cursor after a list of kinds, if each of them has a transition. -/
def walk (cursor : Fin n) : List Kind → Option (Fin n)
  | [] => some cursor
  | kind :: kinds => (graph.transition cursor kind).bind fun next => walk next kinds

@[simp] theorem run_nil (state : State n) : graph.run state [] = some state := rfl

@[simp] theorem run_cons (state : State n) (token : Token) (tokens : List Token) :
    graph.run state (token :: tokens) =
      (graph.step state token).bind fun next => graph.run next tokens := rfl

@[simp] theorem walk_nil (cursor : Fin n) : graph.walk cursor [] = some cursor := rfl

@[simp] theorem walk_cons (cursor : Fin n) (kind : Kind) (kinds : List Kind) :
    graph.walk cursor (kind :: kinds) =
      (graph.transition cursor kind).bind fun next => graph.walk next kinds := rfl

variable {graph}

variable (graph) in
theorem run_append (state : State n) (first second : List Token) :
    graph.run state (first ++ second) =
      (graph.run state first).bind fun middle => graph.run middle second := by
  induction first generalizing state with
  | nil => rfl
  | cons token first ih =>
    rw [List.cons_append, run_cons, run_cons]
    cases graph.step state token with
    | none => rfl
    | some next => exact ih next

/-- The cursor of a run goes along the kinds of the tokens. -/
theorem map_cursor_run (state : State n) (tokens : List Token) :
    (graph.run state tokens).map State.cursor =
      graph.walk state.cursor (tokens.map Token.kind) := by
  induction tokens generalizing state with
  | nil => rfl
  | cons token tokens ih =>
    rw [run_cons, step, List.map_cons, walk_cons]
    cases graph.transition state.cursor token.kind with
    | none => rfl
    | some next => exact ih _

theorem walk_of_run {state after : State n} {tokens : List Token}
    (h : graph.run state tokens = some after) :
    graph.walk state.cursor (tokens.map Token.kind) = some after.cursor := by
  rw [← map_cursor_run, h]; rfl

theorem run_of_walk {state : State n} {tokens : List Token} {last : Fin n}
    (h : graph.walk state.cursor (tokens.map Token.kind) = some last) :
    ∃ after, graph.run state tokens = some after ∧ after.cursor = last := by
  rw [← map_cursor_run, Option.map_eq_some_iff] at h
  exact h

/-! ### Readings -/

/-- **A reading goes on where a run ends.** -/
theorem readFrom_of_run {state after : State n} {done : List Token}
    (h : graph.run state done = some after) (position : Nat) (rest : List Token) :
    graph.readFrom state.cursor state.fields position (done ++ rest) =
      graph.readFrom after.cursor after.fields (position + done.length) rest := by
  induction done generalizing state position with
  | nil =>
    obtain rfl : state = after := by simpa using h
    rfl
  | cons token done ih =>
    rw [run_cons, Option.bind_eq_some_iff] at h
    obtain ⟨middle, hstep, hrun⟩ := h
    rw [step, Option.map_eq_some_iff] at hstep
    obtain ⟨next, htransition, rfl⟩ := hstep
    rw [List.cons_append, readFrom, htransition, List.length_cons,
      show position + (done.length + 1) = position + 1 + done.length by omega]
    exact ih hrun (position + 1)

/-- **A list of tokens is run through, or a first token of it has no step.** -/
theorem run_or_stuck (graph : Graph n) (state : State n) (tokens : List Token) :
    (∃ after, graph.run state tokens = some after) ∨
      ∃ done token rest middle, tokens = done ++ token :: rest ∧
        graph.run state done = some middle ∧ graph.transition middle.cursor token.kind = none := by
  induction tokens generalizing state with
  | nil => exact .inl ⟨state, rfl⟩
  | cons token tokens ih =>
    cases h : graph.transition state.cursor token.kind with
    | none => exact .inr ⟨[], token, tokens, state, rfl, rfl, h⟩
    | some next =>
      have hstep : graph.step state token =
          some ⟨next, graph.enter next state.fields token.literal⟩ := by
        rw [step, h]; rfl
      rcases ih ⟨next, graph.enter next state.fields token.literal⟩ with
        ⟨after, hrun⟩ | ⟨done, t, rest, middle, rfl, hrun, hnone⟩
      · exact .inl ⟨after, by rw [run_cons, hstep]; exact hrun⟩
      · exact .inr ⟨token :: done, t, rest, middle, rfl, by rw [run_cons, hstep]; exact hrun, hnone⟩

/-- What a reading gives after a run of all its tokens. -/
theorem read_of_run {after : State n} {tokens : List Token}
    (h : graph.run graph.initial tokens = some after) :
    graph.read tokens =
      if graph.canEnd after.cursor then .ok after.fields else .error .incomplete := by
  have hread := readFrom_of_run h 1 []
  rw [List.append_nil] at hread
  exact hread

/-- What a reading gives at a token without a step. -/
theorem read_of_stuck {middle : State n} {done rest : List Token} {token : Token}
    (h : graph.run graph.initial done = some middle)
    (hnone : graph.transition middle.cursor token.kind = none) :
    graph.read (done ++ token :: rest) =
      .error (.unexpectedToken (1 + done.length) token.kind (graph.expected middle.cursor)) := by
  have hread := readFrom_of_run h 1 (token :: rest)
  rw [readFrom, hnone] at hread
  exact hread

/-- **A reading succeeds** after a run to a vertex where the query may end. -/
theorem read_eq_ok_iff {tokens : List Token} {fields : Fields} :
    graph.read tokens = .ok fields ↔
      ∃ after, graph.run graph.initial tokens = some after ∧ graph.canEnd after.cursor = true ∧
        after.fields = fields := by
  constructor
  · intro h
    rcases run_or_stuck graph graph.initial tokens with
      ⟨after, hrun⟩ | ⟨done, token, rest, middle, rfl, hrun, hnone⟩
    · rw [read_of_run hrun] at h
      split at h
      · next hend => exact ⟨after, hrun, hend, by simpa using h⟩
      · cases h
    · rw [read_of_stuck hrun hnone] at h
      cases h
  · rintro ⟨after, hrun, hend, rfl⟩
    rw [read_of_run hrun, if_pos hend]

/-- **A reading is incomplete** after a run to a vertex where the query may not end. -/
theorem read_eq_incomplete_iff {tokens : List Token} :
    graph.read tokens = .error .incomplete ↔
      ∃ after, graph.run graph.initial tokens = some after ∧
        graph.canEnd after.cursor = false := by
  constructor
  · intro h
    rcases run_or_stuck graph graph.initial tokens with
      ⟨after, hrun⟩ | ⟨done, token, rest, middle, rfl, hrun, hnone⟩
    · rw [read_of_run hrun] at h
      split at h
      · cases h
      · next hend => exact ⟨after, hrun, by simpa using hend⟩
    · rw [read_of_stuck hrun hnone] at h
      cases h
  · rintro ⟨after, hrun, hend⟩
    rw [read_of_run hrun, hend]; rfl

/-- **A reading reports a token** that has no step after a run of the tokens before it. -/
theorem read_eq_unexpectedToken_iff {tokens : List Token} {position : Nat} {found : Kind}
    {expected : List Kind} :
    graph.read tokens = .error (.unexpectedToken position found expected) ↔
      ∃ done token rest middle, tokens = done ++ token :: rest ∧
        graph.run graph.initial done = some middle ∧
        graph.transition middle.cursor token.kind = none ∧ position = 1 + done.length ∧
        found = token.kind ∧ expected = graph.expected middle.cursor := by
  constructor
  · intro h
    rcases run_or_stuck graph graph.initial tokens with
      ⟨after, hrun⟩ | ⟨done, token, rest, middle, rfl, hrun, hnone⟩
    · rw [read_of_run hrun] at h
      split at h <;> cases h
    · rw [read_of_stuck hrun hnone] at h
      cases h
      exact ⟨done, token, rest, middle, rfl, hrun, hnone, rfl, rfl, rfl⟩
  · rintro ⟨done, token, rest, middle, rfl, hrun, hnone, rfl, rfl, rfl⟩
    exact read_of_stuck hrun hnone

/-- **A reading has two faults**: the end of the query, or a token. -/
theorem eq_of_read_eq_error {tokens : List Token} {cause : CompileError}
    (h : graph.read tokens = .error cause) :
    cause = .incomplete ∨ ∃ position found expected,
      cause = .unexpectedToken position found expected := by
  rcases run_or_stuck graph graph.initial tokens with
    ⟨after, hrun⟩ | ⟨done, token, rest, middle, rfl, hrun, hnone⟩
  · rw [read_of_run hrun] at h
    split at h
    · cases h
    · exact .inl (Except.error.inj h).symm
  · rw [read_of_stuck hrun hnone] at h
    exact .inr ⟨_, _, _, (Except.error.inj h).symm⟩

/-! ### What errors see -/

variable (graph) in
theorem readFrom_eq_error_congr {tokens others : List Token}
    (h : tokens.map Token.kind = others.map Token.kind) (cursor : Fin n) (fields more : Fields)
    (position : Nat) (cause : CompileError) :
    graph.readFrom cursor fields position tokens = .error cause ↔
      graph.readFrom cursor more position others = .error cause := by
  induction tokens generalizing others cursor fields more position with
  | nil =>
    rw [List.map_eq_nil_iff.1 h.symm, readFrom, readFrom]
    split <;> simp
  | cons token tokens ih =>
    obtain ⟨other, others, rfl, hkind, hothers⟩ := List.map_eq_cons_iff.1 h.symm
    rw [readFrom, readFrom, hkind]
    cases graph.transition cursor token.kind with
    | none => rfl
    | some next => exact ih hothers.symm next _ _ (position + 1)

variable (graph) in
/-- **Errors see the kinds of the tokens only.** -/
theorem read_eq_error_congr {tokens others : List Token}
    (h : tokens.map Token.kind = others.map Token.kind) (cause : CompileError) :
    graph.read tokens = .error cause ↔ graph.read others = .error cause :=
  graph.readFrom_eq_error_congr h graph.start {} {} 1 cause

end HttpQuery.Graph
