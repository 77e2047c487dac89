import HttpQuery.Proofs.Grammar.Steps
import HttpQuery.Query.Command

/-! # Readings and paths

A reader takes the first successor of its cursor that accepts a token, and it never goes back. Where
the successors of each vertex accept different kinds, no query is lost by this: a list of tokens is
read if and only if some path of the graph accepts it. There is then no other such path, and the
fields are what the actions along the path collect.

* `Graph.KindsDiffer`: the successors of each vertex accept different kinds.
* `Graph.Path`, `Graph.Accepts`: the paths of a graph, and those that accept a list of kinds.
* `Graph.collect`: what the actions along a path collect.
* `Graph.exists_path_of_run`, `Graph.run_of_path`: a run goes along a path, and each path has a run.
* `Graph.Path.unique`: the kinds along a path determine it.
* `grammar_kindsDiffer`: the two graphs of the grammar are of this sort.
* `Graph.read_along_path`: readings are paths. -/

namespace HttpQuery

namespace Graph

variable {n : Nat} (graph : Graph n)

/-- **The successors of each vertex accept different kinds.** -/
def KindsDiffer : Prop := ∀ i, (graph.expected i).Nodup

instance : Decidable graph.KindsDiffer := inferInstanceAs (Decidable (∀ _, _))

/-- **The paths of a graph** from one vertex to another, by the vertices that they enter. -/
inductive Path (graph : Graph n) : Fin n → List (Fin n) → Fin n → Prop
  | nil (i : Fin n) : Path graph i [] i
  | cons {i next last : Fin n} {path : List (Fin n)} (edge : next ∈ (graph.vertex i).successors)
      (rest : Path graph next path last) : Path graph i (next :: path) last

/-- The kinds that a list of vertices accepts. -/
def kindsAlong (path : List (Fin n)) : List Kind := path.map fun i => (graph.vertex i).kind

/-- **What the actions along a path collect**, each with the literal of its token. -/
def collect (fields : Fields) (path : List (Fin n)) (tokens : List Token) : Fields :=
  (path.zip tokens).foldl
    (fun fields (i, token) => fields.applyOption token.literal (graph.vertex i).action) fields

/-- **A path that accepts a list of kinds**: it leads from the start along vertices of these kinds
to one that has the end of a query among its successors. -/
structure Accepts (path : List (Fin n)) (kinds : List Kind) : Prop where
  kinds_eq : graph.kindsAlong path = kinds
  ends : ∃ last, graph.Path graph.start path last ∧
    ∃ next ∈ (graph.vertex last).successors, (graph.vertex next).kind = .finish

variable {graph} {state after : State n} {tokens : List Token} {path other : List (Fin n)}
  {i last last' : Fin n}

/-! ### Steps -/

theorem of_transition {next : Fin n} {kind : Kind} (h : graph.transition i kind = some next) :
    next ∈ (graph.vertex i).successors ∧ (graph.vertex next).kind = kind :=
  ⟨List.mem_of_find?_eq_some h, by simpa using List.find?_some h⟩

/-- **The first successor of a kind is the only one.** -/
theorem transition_eq_some_iff (h : graph.KindsDiffer) {next : Fin n} {kind : Kind} :
    graph.transition i kind = some next ↔
      next ∈ (graph.vertex i).successors ∧ (graph.vertex next).kind = kind :=
  find?_eq_some_iff_of_nodup (h i)

theorem canEnd_iff :
    graph.canEnd i = true ↔
      ∃ next ∈ (graph.vertex i).successors, (graph.vertex next).kind = .finish := by
  simp [canEnd, transition]

/-! ### Runs -/

/-- **A run goes along a path**, whatever the kinds of the successors are. -/
theorem exists_path_of_run (h : graph.run state tokens = some after) :
    ∃ path, graph.Path state.cursor path after.cursor ∧
      graph.kindsAlong path = tokens.map Token.kind ∧
      graph.collect state.fields path tokens = after.fields := by
  induction tokens generalizing state with
  | nil =>
    obtain rfl : state = after := by simpa using h
    exact ⟨[], .nil _, rfl, rfl⟩
  | cons token tokens ih =>
    rw [run_cons, Option.bind_eq_some_iff] at h
    obtain ⟨middle, hstep, hrun⟩ := h
    obtain ⟨next, htransition, rfl⟩ := Option.map_eq_some_iff.1 hstep
    obtain ⟨hmem, hkind⟩ := of_transition htransition
    obtain ⟨path, hpath, hkinds, hfields⟩ := ih hrun
    refine ⟨next :: path, .cons hmem hpath, ?_, hfields⟩
    rw [kindsAlong, List.map_cons, hkind, List.map_cons, ← hkinds]
    rfl

/-- **Each path has a run** for tokens of its kinds. -/
theorem run_of_path (h : graph.KindsDiffer) (hpath : graph.Path i path last)
    (hkinds : graph.kindsAlong path = tokens.map Token.kind) (fields : Fields) :
    graph.run ⟨i, fields⟩ tokens = some ⟨last, graph.collect fields path tokens⟩ := by
  induction tokens generalizing i path fields with
  | nil =>
    obtain rfl : path = [] := List.map_eq_nil_iff.1 hkinds
    cases hpath
    rfl
  | cons token tokens ih =>
    obtain ⟨next, path, rfl, hkind, hrest⟩ := List.map_eq_cons_iff.1 hkinds
    cases hpath with
    | cons edge rest =>
      have hstep : graph.step ⟨i, fields⟩ token =
          some ⟨next, graph.enter next fields token.literal⟩ := by
        rw [step, (transition_eq_some_iff h).2 ⟨edge, hkind⟩]
        rfl
      rw [run_cons, hstep]
      exact ih rest hrest _

/-- **The kinds along a path determine it.** -/
theorem Path.unique (h : graph.KindsDiffer) (hpath : graph.Path i path last)
    (hother : graph.Path i other last') (hkinds : graph.kindsAlong path = graph.kindsAlong other) :
    path = other := by
  induction hpath generalizing other with
  | nil => exact (List.map_eq_nil_iff.1 hkinds.symm).symm
  | cons edge _ ih =>
    obtain ⟨next, rest, rfl, hkind, hrest⟩ := List.map_eq_cons_iff.1 hkinds.symm
    cases hother with
    | cons hedge hother =>
      obtain rfl := List.inj_on_of_nodup_map (h _) hedge edge hkind
      exact congrArg _ (ih hother hrest.symm)

end Graph

/-! ### The graphs of the grammar -/

/-- Each vertex of the grammar is a place. -/
theorem Place.exists_index (i : Fin 31) : ∃ place : Place, place.index = i := by
  have hall : ∀ i : Fin 31, all[i].index = i := by decide
  exact ⟨all[i], hall i⟩

/-- **The grammar leaves its reader no choice.** -/
theorem grammar_kindsDiffer (mode : Mode) : (grammar mode).KindsDiffer := by
  intro i
  obtain ⟨place, rfl⟩ := Place.exists_index i
  rw [grammar_expected]
  exact place.nodup_expected mode

/-! ### Readings -/

/-- **Readings are paths.** Where the successors of each vertex accept different kinds, a list of
tokens is read if and only if a path accepts its kinds, and the fields are what the actions along
this path collect; there is one such path only. The cursor is always a vertex of the graph, at the
end of a path for the tokens before it, also in a reading that fails later. The grammar has such a
graph in both modes. -/
theorem Graph.read_along_path {n : Nat} (graph : Graph n) (h : graph.KindsDiffer)
    (tokens : List Token) :
    (∀ fields, graph.read tokens = .ok fields ↔
        ∃ path, graph.Accepts path (tokens.map Token.kind) ∧
          graph.collect {} path tokens = fields) ∧
      (∀ path other, graph.Accepts path (tokens.map Token.kind) →
        graph.Accepts other (tokens.map Token.kind) → path = other) ∧
      (∀ (done rest : List Token) (state : State n), tokens = done ++ rest →
        graph.run graph.initial done = some state →
          graph.read tokens =
              graph.readFrom state.cursor state.fields (1 + done.length) rest ∧
            state.cursor.val < n ∧
            ∃ path, graph.Path graph.start path state.cursor ∧
              graph.kindsAlong path = done.map Token.kind ∧
              graph.collect {} path done = state.fields) ∧
      ∀ mode, (grammar mode).KindsDiffer := by
  refine ⟨fun fields => ⟨fun hread => ?_, ?_⟩, fun path other hpath hother => ?_, ?_,
    grammar_kindsDiffer⟩
  · obtain ⟨after, hrun, hend, hfields⟩ := read_eq_ok_iff.1 hread
    obtain ⟨path, hpath, hkinds, hcollect⟩ := exists_path_of_run hrun
    exact ⟨path, ⟨hkinds, after.cursor, hpath, canEnd_iff.1 hend⟩, hcollect.trans hfields⟩
  · rintro ⟨path, ⟨hkinds, last, hpath, hend⟩, rfl⟩
    exact read_eq_ok_iff.2 ⟨_, run_of_path h hpath hkinds {}, canEnd_iff.2 hend, rfl⟩
  · obtain ⟨last, hlast, -⟩ := hpath.ends
    obtain ⟨last', hlast', -⟩ := hother.ends
    exact hlast.unique h hlast' (hpath.kinds_eq.trans hother.kinds_eq.symm)
  · rintro done rest state rfl hrun
    exact ⟨readFrom_of_run hrun 1 rest, state.cursor.isLt, exists_path_of_run hrun⟩

/-- A graph that accepts a list of values and comes back to the same vertex for each of them. -/
def listsValues : Graph 3 where
  vertices := #v[⟨.start, [1], none⟩, ⟨.value, [2, 1], some .appendOutputHeader⟩,
    ⟨.finish, [], none⟩]
  start := 0

/-- Two values are read along the path that enters this vertex twice, and along no other path. -/
theorem Graph.read_along_path_listsValues :
    listsValues.KindsDiffer ∧
      listsValues.read [.text "a", .text "b"] = .ok { outputHeaders := ["a", "b"] } ∧
      ∀ path, listsValues.Accepts path [.value, .value] → path = [1, 1] := by
  have hdiffer : listsValues.KindsDiffer := by decide
  have hpath : listsValues.Accepts [1, 1] [.value, .value] :=
    ⟨rfl, 1, .cons (by decide) (.cons (by decide) (.nil 1)), 2, by decide, rfl⟩
  obtain ⟨hread, hunique, -⟩ :=
    Graph.read_along_path listsValues hdiffer [.text "a", .text "b"]
  exact ⟨hdiffer, (hread _).2 ⟨[1, 1], hpath, rfl⟩,
    fun path h => hunique path [1, 1] h hpath⟩

end HttpQuery
