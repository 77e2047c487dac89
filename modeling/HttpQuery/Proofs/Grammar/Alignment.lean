import HttpQuery.Proofs.Command.Denotation
import HttpQuery.Proofs.Compile.Stages
import HttpQuery.Proofs.Grammar.Commands

/-! # Keys and values in step

A reader collects keys and values in parallel lists, and nothing in them says which value belongs to
which key. It is the place of the reader that says it: there is one more key than values from a key
to the value of its clause, and everywhere else they are equally many. A query cannot end between a
key and its value, so the lists that are put together for a descriptor have the same length.

* `Pairing`: the two pairs of parallel lists, and `Pairing.pending`: the keys without a value.
* `Aligned`: the invariant of a reader at a place.
* `aligned_of_step`, `aligned_of_run`: one token keeps it, and so does any list of them.
* `lists_aligned`: every state of a reader, and what is put together in the end. -/

namespace HttpQuery

/-! ### The pairs of lists -/

/-- **The two pairs of parallel lists**: of the headers, and of the members of the body. -/
inductive Pairing where
  | headers
  | members
deriving DecidableEq

namespace Pairing

/-- The keys collected so far. -/
def keys : Pairing → Fields → List String
  | .headers, fields => fields.headerKeys
  | .members, fields => fields.jsonKeys

/-- The values collected so far. -/
def values : Pairing → Fields → List String
  | .headers, fields => fields.headerValues
  | .members, fields => fields.jsonValues

/-- The action that collects a key. -/
def keyAction : Pairing → Action
  | .headers => .appendHeaderKey
  | .members => .appendJsonKey

/-- The action that collects a value. -/
def valueAction : Pairing → Action
  | .headers => .appendHeaderValue
  | .members => .appendJsonValue

/-- The key and value of a clause that writes into these lists. -/
def entry? : Pairing → Clause → Option (String × String)
  | .headers => Clause.header?
  | .members => Clause.json?

/-- **The keys that wait for their value** at a place: one from a key on to its value. -/
def pending : Pairing → Place → Nat
  | .headers, .headerKey => 1
  | .headers, .headerEqual => 1
  | .members, .jsonKey => 1
  | .members, .jsonEqual => 1
  | _, _ => 0

variable {mode : Mode} {place next : Place}

theorem length_keys_applyOption (pairing : Pairing) (fields : Fields) (literal : String)
    (action : Option Action) :
    (pairing.keys (fields.applyOption literal action)).length =
      (pairing.keys fields).length + if action = some pairing.keyAction then 1 else 0 := by
  cases action with
  | none => rfl
  | some action =>
    cases pairing <;> cases action <;> simp [keys, keyAction, Fields.applyOption, Fields.apply]

theorem length_values_applyOption (pairing : Pairing) (fields : Fields) (literal : String)
    (action : Option Action) :
    (pairing.values (fields.applyOption literal action)).length =
      (pairing.values fields).length + if action = some pairing.valueAction then 1 else 0 := by
  cases action with
  | none => rfl
  | some action =>
    cases pairing <;> cases action <;> simp [values, valueAction, Fields.applyOption, Fields.apply]

/-- **The table of places and the pending keys.** A place that collects a key is entered without a
pending key and left with one, and a place that collects a value the other way round. -/
theorem pending_of_mem_next (pairing : Pairing) (h : next ∈ (place.rule mode).next) :
    pairing.pending place + (if (next.rule mode).action = some pairing.keyAction then 1 else 0) =
      pairing.pending next +
        if (next.rule mode).action = some pairing.valueAction then 1 else 0 := by
  revert next
  cases mode <;> cases pairing <;> cases place <;> decide

/-- No key is pending where a query may end. -/
theorem pending_of_finish_mem (pairing : Pairing) (h : .finish ∈ (place.rule mode).next) :
    pairing.pending place = 0 := by
  revert h
  cases mode <;> cases pairing <;> cases place <;> decide

/-- There is one pending key at most. -/
theorem pending_headers_or_members (place : Place) :
    pending .headers place = 0 ∨ pending .members place = 0 := by
  cases place <;> decide

/-- The keys and values of a command, put together again. -/
theorem zip_fields (pairing : Pairing) (command : Command) :
    (pairing.keys command.fields).zip (pairing.values command.fields) =
      command.clauses.filterMap pairing.entry? := by
  cases pairing <;> exact (List.zip_map' ..).trans (List.map_id' _)

end Pairing

/-! ### The invariant -/

/-- A cursor stands at one place. -/
theorem Place.eq_of_index_eq {place other : Place} (h : place.index = other.index) :
    place = other := by
  calc place
    _ = all[place.index] := (all_index place).symm
    _ = all[other.index] := by simp only [h]
    _ = other := all_index other

/-- **Keys and values in step** at a place: the keys are as many as the values and the pending key.
-/
def Aligned (place : Place) (fields : Fields) : Prop :=
  ∀ pairing : Pairing,
    (pairing.keys fields).length = (pairing.values fields).length + pairing.pending place

variable {mode : Mode} {place next : Place} {fields : Fields}

theorem Aligned.length_eq (h : Aligned place fields) {pairing : Pairing}
    (hpending : pairing.pending place = 0) :
    (pairing.keys fields).length = (pairing.values fields).length := by
  rw [h pairing, hpending, Nat.add_zero]

theorem Aligned.length_eq_of_canEnd (h : Aligned place fields)
    (hend : (grammar mode).canEnd place.index = true) (pairing : Pairing) :
    (pairing.keys fields).length = (pairing.values fields).length :=
  h.length_eq (pairing.pending_of_finish_mem ((grammar_canEnd mode place).1 hend))

/-- **One token keeps the lists in step.** -/
theorem aligned_of_step {kind : Kind} (h : Aligned place fields)
    (hstep : place.step mode kind = some next) (literal : String) :
    Aligned next (fields.applyOption literal (next.rule mode).action) := by
  intro pairing
  have hplace := h pairing
  have htable := pairing.pending_of_mem_next (Place.step_eq_some_iff.1 hstep).1
  rw [Pairing.length_keys_applyOption, Pairing.length_values_applyOption]
  omega

/-- **Every list of tokens keeps the lists in step**, whatever comes after it. -/
theorem aligned_of_run {tokens : List Token} {after : Graph.State 31} (h : Aligned place fields)
    (hrun : (grammar mode).run ⟨place.index, fields⟩ tokens = some after) :
    ∃ last : Place, last.index = after.cursor ∧ Aligned last after.fields := by
  induction tokens generalizing place fields with
  | nil =>
    obtain rfl : ⟨place.index, fields⟩ = after := by simpa using hrun
    exact ⟨place, rfl, h⟩
  | cons token tokens ih =>
    rw [Graph.run_cons, grammar_step, Option.bind_eq_some_iff] at hrun
    obtain ⟨middle, hmiddle, hrest⟩ := hrun
    obtain ⟨next, hstep, rfl⟩ := Option.map_eq_some_iff.1 hmiddle
    exact ih (aligned_of_step h hstep token.literal) hrest

theorem aligned_start : Aligned .start {} := by
  intro pairing
  cases pairing <;> rfl

/-- **Keys and values are in step in every state of a reader**, also in a query that is refused
later. The keys are one more than the values between a key and its value and else equally many, this
is so in one of the two pairs at most, and it is not so where the query may end. So in a query that
is read each key is put together with the value of its own clause, and neither a key nor a value is
left over. -/
theorem lists_aligned (mode : Mode) (tokens : List Token) :
    (∀ (done rest : List Token) (state : Graph.State 31), tokens = done ++ rest →
      (grammar mode).run (grammar mode).initial done = some state →
        Fields.ofTokens mode tokens =
            (grammar mode).readFrom state.cursor state.fields (1 + done.length) rest ∧
          ∃ place : Place, place.index = state.cursor ∧ Aligned place state.fields ∧
            (state.fields.headerKeys.length = state.fields.headerValues.length ∨
              state.fields.jsonKeys.length = state.fields.jsonValues.length) ∧
            ((grammar mode).canEnd state.cursor = true →
              state.fields.headerKeys.length = state.fields.headerValues.length ∧
                state.fields.jsonKeys.length = state.fields.jsonValues.length)) ∧
      ∀ fields, Fields.ofTokens mode tokens = .ok fields →
        ∃ command : Command, command.SpelledBy mode tokens ∧
          (∀ pairing : Pairing,
            (pairing.keys fields).zip (pairing.values fields) =
                command.clauses.filterMap pairing.entry? ∧
              ((pairing.keys fields).zip (pairing.values fields)).unzip =
                (pairing.keys fields, pairing.values fields)) ∧
          ∀ offered d, fields.assemble offered = .ok d →
            d.headers = .ofList (command.clauses.filterMap Clause.header?) ∧
              d.json = .ofList ((command.clauses.filterMap Clause.json?).map fun entry =>
                (entry.1, .string entry.2)) := by
  refine ⟨?_, fun fields hread => ?_⟩
  · rintro done rest state rfl hrun
    obtain ⟨place, hplace, haligned⟩ := aligned_of_run aligned_start hrun
    refine ⟨Graph.readFrom_of_run hrun 1 rest, place, hplace, haligned, ?_, fun hend => ?_⟩
    · exact (Pairing.pending_headers_or_members place).imp haligned.length_eq haligned.length_eq
    · rw [← hplace] at hend
      exact ⟨haligned.length_eq_of_canEnd hend .headers, haligned.length_eq_of_canEnd hend .members⟩
  · obtain ⟨state, hrun, hend, rfl⟩ := Graph.read_eq_ok_iff.1 hread
    obtain ⟨place, hplace, haligned⟩ := aligned_of_run aligned_start hrun
    rw [← hplace] at hend
    obtain ⟨command, hspelled, hfields⟩ := ofTokens_eq_ok_iff.1 hread
    refine ⟨command, hspelled, fun pairing => ⟨?_, ?_⟩, fun offered d hassemble => ⟨?_, ?_⟩⟩
    · rw [← hfields, pairing.zip_fields]
    · exact List.unzip_zip (haligned.length_eq_of_canEnd hend pairing)
    · rw [Fields.headers_of_assemble hassemble, ← hfields, command.zip_headers_fields]
    · rw [Fields.json_of_assemble hassemble, ← hfields, command.zip_json_fields]

/-- A query with a clause that breaks off behind its key. -/
def breaksOff : List Token :=
  [.reserved .fromWord, .text "http", .reserved .whereWord, .reserved .header, .text "a",
    .reserved .equal, .text "1", .reserved .andWord, .text "b", .reserved .andWord]

/-- Before its last token a key of a member is pending, and the token is refused. The reading of its
first clause alone is complete. -/
theorem lists_aligned_breaksOff :
    (∃ state, (grammar .body).run (grammar .body).initial (breaksOff.take 9) = some state ∧
      Fields.ofTokens .body breaksOff =
        (grammar .body).readFrom state.cursor state.fields 10 [.reserved .andWord] ∧
      state.fields.headerKeys.length = state.fields.headerValues.length ∧
      state.fields.jsonKeys.length = state.fields.jsonValues.length + 1) ∧
    ∃ (fields : Fields) (command : Command), Fields.ofTokens .body (breaksOff.take 7) = .ok fields ∧
      command.SpelledBy .body (breaksOff.take 7) ∧
      command.clauses.filterMap Clause.header? = [("a", "1")] := by
  have hwalk : (grammar .body).walk (grammar .body).initial.cursor
      ((breaksOff.take 9).map Token.kind) = some Place.jsonKey.index := by
    decide +kernel
  have hread : Fields.ofTokens .body (breaksOff.take 7) =
      .ok { headerKeys := ["a"], headerValues := ["1"], url := "http" } := by
    decide +kernel
  obtain ⟨state, hrun, hcursor⟩ := Graph.run_of_walk hwalk
  obtain ⟨hstates, -⟩ := lists_aligned .body breaksOff
  obtain ⟨-, hpairs⟩ := lists_aligned .body (breaksOff.take 7)
  obtain ⟨hrest, place, hplace, haligned, -⟩ := hstates _ [.reserved .andWord] _ rfl hrun
  obtain rfl : place = .jsonKey := Place.eq_of_index_eq (hplace.trans hcursor)
  obtain ⟨command, hspelled, hzip, -⟩ := hpairs _ hread
  exact ⟨⟨state, hrun, hrest, haligned .headers, haligned .members⟩, _, command, hread, hspelled,
    (hzip .headers).1.symm⟩

end HttpQuery
