import HttpQuery.Proofs.Graph.Run
import Mathlib.Data.List.Nodup

/-! # Steps between the places of a query

The graph of the grammar has the places as its vertices, so its transitions are steps from one place
to another. The places after one place accept different kinds: a step is determined by its kind, and
the order of the places after a place does not matter for where a step leads.

* `find?_eq_some_iff_of_nodup`: looking for a key that no two items share.
* `Place.step`: the place after a place for a token of a kind.
* `Place.step_eq_some_iff`: a step leads to the one place after a place that accepts the kind.
* `grammar_step`, `grammar_walk`: the step of a reader at a place, and the way of its cursor. -/

namespace HttpQuery

/-- **Where the items have different keys**, the one that is found is the one of its key. -/
theorem find?_eq_some_iff_of_nodup {α β : Type} [DecidableEq β] {key : α → β} {items : List α}
    (h : (items.map key).Nodup) {k : β} {a : α} :
    items.find? (fun x => key x == k) = some a ↔ a ∈ items ∧ key a = k := by
  constructor
  · intro hfind
    exact ⟨List.mem_of_find?_eq_some hfind, by simpa using List.find?_some hfind⟩
  · rintro ⟨hmem, rfl⟩
    cases hfind : items.find? fun x => key x == key a with
    | none =>
      have := List.find?_eq_none.1 hfind a hmem
      simp at this
    | some b =>
      have hb := List.mem_of_find?_eq_some hfind
      have hkey : key b = key a := by simpa using List.find?_some hfind
      rw [List.inj_on_of_nodup_map h hb hmem hkey]

namespace Place

variable {mode : Mode} {place next : Place} {kind : Kind}

/-- The place after a place for a token of a kind. -/
def step (mode : Mode) (place : Place) (kind : Kind) : Option Place :=
  (place.rule mode).next.find? fun next => (next.rule mode).kind == kind

/-- The kinds that may follow a place, in order of priority. -/
def expected (mode : Mode) (place : Place) : List Kind :=
  (place.rule mode).next.map fun next => (next.rule mode).kind

/-- The place after a list of kinds, if each of them has a step. -/
def walk (mode : Mode) (place : Place) : List Kind → Option Place
  | [] => some place
  | kind :: kinds => (place.step mode kind).bind fun next => next.walk mode kinds

@[simp] theorem walk_nil : place.walk mode [] = some place := rfl

@[simp] theorem walk_cons (kinds : List Kind) :
    place.walk mode (kind :: kinds) =
      (place.step mode kind).bind fun next => next.walk mode kinds := rfl

theorem walk_append (first second : List Kind) :
    place.walk mode (first ++ second) =
      (place.walk mode first).bind fun middle => middle.walk mode second := by
  induction first generalizing place with
  | nil => rfl
  | cons kind first ih =>
    rw [List.cons_append, walk_cons, walk_cons]
    cases place.step mode kind with
    | none => rfl
    | some next => exact ih

/-- **The places after one place accept different kinds.** -/
theorem nodup_expected (mode : Mode) (place : Place) : (place.expected mode).Nodup := by
  cases mode <;> cases place <;> decide

/-- **A step leads to the one place after a place that accepts the kind.** -/
theorem step_eq_some_iff :
    place.step mode kind = some next ↔
      next ∈ (place.rule mode).next ∧ (next.rule mode).kind = kind :=
  find?_eq_some_iff_of_nodup (nodup_expected mode place)

theorem step_eq_none_iff : place.step mode kind = none ↔ kind ∉ place.expected mode := by
  simp [step, expected, List.find?_eq_none]

/-- Only the last place accepts the end of a query. -/
theorem kind_eq_finish_iff : (place.rule mode).kind = .finish ↔ place = .finish := by
  cases mode <;> cases place <;> decide

/-- Only the first place accepts the start of a query. -/
theorem kind_eq_start_iff : (place.rule mode).kind = .start ↔ place = .start := by
  cases mode <;> cases place <;> decide

/-- Nothing comes before the first place. -/
theorem start_not_mem_next (mode : Mode) (place : Place) : .start ∉ (place.rule mode).next := by
  cases mode <;> cases place <;> decide

end Place

/-! ### The graph of the grammar -/

variable (mode : Mode) (place : Place)

theorem grammar_transition (kind : Kind) :
    (grammar mode).transition place.index kind = (place.step mode kind).map Place.index := by
  rw [Graph.transition, grammar_vertex, Place.vertex, Place.step]
  simp only [List.find?_map, Function.comp_def, grammar_vertex, Place.vertex]

theorem grammar_expected : (grammar mode).expected place.index = place.expected mode := by
  rw [Graph.expected, grammar_vertex, Place.vertex, Place.expected]
  simp only [List.map_map, Function.comp_def, grammar_vertex, Place.vertex]

theorem grammar_canEnd :
    (grammar mode).canEnd place.index = true ↔ .finish ∈ (place.rule mode).next := by
  rw [Graph.canEnd, grammar_transition, Option.isSome_map, Option.isSome_iff_exists]
  constructor
  · rintro ⟨next, h⟩
    obtain ⟨hmem, hkind⟩ := Place.step_eq_some_iff.1 h
    rwa [← Place.kind_eq_finish_iff.1 hkind]
  · intro h
    exact ⟨.finish, Place.step_eq_some_iff.2 ⟨h, rfl⟩⟩

/-- **The step of a reader at a place.** -/
theorem grammar_step (fields : Fields) (token : Token) :
    (grammar mode).step ⟨place.index, fields⟩ token =
      (place.step mode token.kind).map fun next =>
        ⟨next.index, fields.applyOption token.literal (next.rule mode).action⟩ := by
  rw [Graph.step, grammar_transition, Option.map_map]
  congr 1
  funext next
  simp [Graph.enter, grammar_vertex, Place.vertex]

/-- The cursor goes from place to place. -/
theorem grammar_walk (kinds : List Kind) :
    (grammar mode).walk place.index kinds = (place.walk mode kinds).map Place.index := by
  induction kinds generalizing place with
  | nil => rfl
  | cons kind kinds ih =>
    rw [Graph.walk_cons, Place.walk_cons, grammar_transition]
    cases place.step mode kind with
    | none => rfl
    | some next => exact ih next

variable {mode}

/-- A run from the start of a query goes to the place that its kinds lead to. -/
theorem walk_of_grammar_run {tokens : List Token} {after : Graph.State 31}
    (h : (grammar mode).run (grammar mode).initial tokens = some after) :
    ∃ place, Place.start.walk mode (tokens.map Token.kind) = some place ∧
      place.index = after.cursor := by
  have hwalk : (grammar mode).walk Place.start.index (tokens.map Token.kind) = some after.cursor :=
    Graph.walk_of_run h
  rw [grammar_walk, Option.map_eq_some_iff] at hwalk
  exact hwalk

/-- The kinds of a list of tokens lead a run from the start of a query to their place. -/
theorem grammar_run_of_walk {tokens : List Token} {place : Place}
    (h : Place.start.walk mode (tokens.map Token.kind) = some place) :
    ∃ after, (grammar mode).run (grammar mode).initial tokens = some after ∧
      after.cursor = place.index := by
  have hwalk : (grammar mode).walk (grammar mode).initial.cursor (tokens.map Token.kind) =
      some place.index := by
    show (grammar mode).walk Place.start.index (tokens.map Token.kind) = some place.index
    rw [grammar_walk, h]; rfl
  exact Graph.run_of_walk hwalk

end HttpQuery
