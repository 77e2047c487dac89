import HttpQuery.Proofs.Graph.Paths
import Mathlib.Algebra.BigOperators.Group.Finset.Basic
import Mathlib.Algebra.Order.BigOperators.Group.Finset

/-! # Searches

A search for the vertices that the start is connected to knows the vertices that it has not seen yet
and the vertices that wait to be looked at. In each turn it looks at one that waits. Which one that
is does not matter: every search ends, after one turn for the start and one for each successor of a
connected vertex, and it has then seen the connected vertices and no other.

* `Graph.Connected`: the vertices that a path leads to from the start.
* `Graph.Turn`, `Graph.Turns`: the turns of a search, for any choice of the vertex to look at.
* `Graph.Turn.load_eq`: each turn makes the load of a search less by one.
* `Graph.Sound.turn`, `Graph.Sound.turns`: what a turn keeps, and so what holds in every search.
* `Graph.turns_search`: the search from the top of a stack takes such turns.
* `Graph.reaches_iff_connected`: the vertices that are reached are the connected ones.
* `Graph.ReachablePart.turns_le`, `Graph.ReachablePart.turns_eq`: how long a search takes. -/

namespace HttpQuery.Graph

variable {n : Nat}

/-- **A vertex that a path leads to** from the start. -/
def Connected (graph : Graph n) (i : Fin n) : Prop := ∃ path, graph.Path graph.start path i

/-- **The state of a search**: the vertices that it has not seen, and those that wait, each as often
as it was put there. -/
structure Search (n : Nat) where
  unseen : Finset (Fin n)
  waiting : Multiset (Fin n)

/-- The search before its first turn. -/
def searchStart (graph : Graph n) : Search n := ⟨Finset.univ, {graph.start}⟩

/-- **One turn of a search**, which looks at one of the waiting vertices. -/
inductive Turn (graph : Graph n) : Search n → Search n → Prop
  /-- A vertex that has been seen is dropped. -/
  | drop {unseen : Finset (Fin n)} {waiting : Multiset (Fin n)} {i : Fin n} (h : i ∉ unseen) :
      Turn graph ⟨unseen, i ::ₘ waiting⟩ ⟨unseen, waiting⟩
  /-- Any other vertex is seen from now on, and its successors wait. -/
  | see {unseen : Finset (Fin n)} {waiting : Multiset (Fin n)} {i : Fin n} (h : i ∈ unseen) :
      Turn graph ⟨unseen, i ::ₘ waiting⟩ ⟨unseen.erase i, (graph.vertex i).successors + waiting⟩

/-- **So many turns of a search**, one after the other. -/
inductive Turns (graph : Graph n) : Nat → Search n → Search n → Prop
  | nil (search : Search n) : Turns graph 0 search search
  | cons {count : Nat} {search next last : Search n} (turn : graph.Turn search next)
      (rest : Turns graph count next last) : Turns graph (count + 1) search last

variable {graph : Graph n} {search next last : Search n} {count : Nat} {path : List (Fin n)}
  {i j s : Fin n}

/-! ### Connected vertices -/

theorem Path.concat (hpath : graph.Path i path j) (edge : s ∈ (graph.vertex j).successors) :
    graph.Path i (path ++ [s]) s := by
  induction hpath with
  | nil => exact .cons edge (.nil _)
  | cons first _ ih => exact .cons first (ih edge)

/-- What each vertex hands on to its successors goes along a path. -/
theorem Path.forward {p : Fin n → Prop} (hpath : graph.Path i path j)
    (hstep : ∀ i, p i → ∀ s ∈ (graph.vertex i).successors, p s) (h : p i) : p j := by
  induction hpath with
  | nil => exact h
  | cons edge _ ih => exact ih (hstep _ h _ edge)

theorem connected_start : graph.Connected graph.start := ⟨[], .nil _⟩

theorem Connected.step (h : graph.Connected i) (edge : s ∈ (graph.vertex i).successors) :
    graph.Connected s :=
  h.elim fun _ hpath => ⟨_, hpath.concat edge⟩

/-! ### The length of a search -/

/-- **The load of a search**: one for each vertex that waits, and one for each that can still be put
there, as a successor of an unseen vertex. -/
def load (graph : Graph n) (search : Search n) : Nat :=
  search.waiting.card + ∑ i ∈ search.unseen, (graph.vertex i).successors.length

/-- **Each turn makes the load less by one.** -/
theorem Turn.load_eq (h : graph.Turn search next) : graph.load search = graph.load next + 1 := by
  cases h with
  | drop h =>
    simp only [load, Multiset.card_cons]
    omega
  | see h =>
    -- The successors go from the sum over the unseen vertices to those that wait.
    simp only [load, Multiset.card_cons, Multiset.card_add, Multiset.coe_card]
    rw [← Finset.add_sum_erase _ _ h]
    omega

theorem Turns.load_eq (h : graph.Turns count search last) :
    graph.load search = graph.load last + count := by
  induction h with
  | nil => rfl
  | cons turn _ ih =>
    rw [turn.load_eq, ih]
    omega

/-- **A search goes on** as long as a vertex waits. -/
theorem exists_turn (graph : Graph n) (h : search.waiting ≠ 0) :
    ∃ next, graph.Turn search next := by
  obtain ⟨unseen, waiting⟩ := search
  obtain ⟨i, hi⟩ := Multiset.exists_mem_of_ne_zero h
  obtain ⟨rest, rfl⟩ := Multiset.exists_cons_of_mem hi
  by_cases hunseen : i ∈ unseen
  · exact ⟨_, .see hunseen⟩
  · exact ⟨_, .drop hunseen⟩

/-! ### What a search meets -/

/-- A vertex that a search has met: it has been seen, or it waits. -/
def Search.Met (search : Search n) (i : Fin n) : Prop := i ∉ search.unseen ∨ i ∈ search.waiting

/-- A search does not forget what it has met. -/
theorem Turn.met (h : graph.Turn search next) (hi : search.Met i) : next.Met i := by
  cases h with
  | drop h =>
    rcases hi with hi | hi
    · exact .inl hi
    · rcases Multiset.mem_cons.1 hi with rfl | hi
      · exact .inl h
      · exact .inr hi
  | see h =>
    rcases hi with hi | hi
    · exact .inl fun hmem => hi (Finset.mem_of_mem_erase hmem)
    · rcases Multiset.mem_cons.1 hi with rfl | hi
      · exact .inl (Finset.notMem_erase _ _)
      · exact .inr (Multiset.mem_add.2 (.inr hi))

/-- What has been seen after a turn was seen before it, or the turn has met its successors. -/
theorem Turn.of_seen (h : graph.Turn search next) (hi : i ∉ next.unseen) :
    i ∉ search.unseen ∨ ∀ s ∈ (graph.vertex i).successors, next.Met s := by
  cases h with
  | drop h => exact .inl hi
  | @see unseen waiting j h =>
    by_cases heq : i = j
    · subst heq
      exact .inr fun s hs => .inr (Multiset.mem_add.2 (.inl hs))
    · exact .inl fun hmem => hi (Finset.mem_erase.2 ⟨heq, hmem⟩)

/-- What has been met after a turn was met before it, or it is a successor of a vertex that waited.
-/
theorem Turn.of_met (h : graph.Turn search next) (hi : next.Met i) :
    search.Met i ∨ ∃ j ∈ search.waiting, i ∈ (graph.vertex j).successors := by
  cases h with
  | drop h => exact .inl (hi.imp_right Multiset.mem_cons_of_mem)
  | @see unseen waiting j h =>
    rcases hi with hi | hi
    · by_cases heq : i = j
      · exact .inl (.inr (heq ▸ Multiset.mem_cons_self _ _))
      · exact .inl (.inl fun hmem => hi (Finset.mem_erase.2 ⟨heq, hmem⟩))
    · rcases Multiset.mem_add.1 hi with hi | hi
      · exact .inr ⟨j, Multiset.mem_cons_self _ _, hi⟩
      · exact .inl (.inr (Multiset.mem_cons_of_mem hi))

/-- **What holds in every search**: it has met the start and the successors of what it has seen, and
it has met connected vertices only. -/
structure Sound (graph : Graph n) (search : Search n) : Prop where
  start : search.Met graph.start
  successors : ∀ i ∉ search.unseen, ∀ s ∈ (graph.vertex i).successors, search.Met s
  connected : ∀ i, search.Met i → graph.Connected i

theorem sound_searchStart : graph.Sound graph.searchStart where
  start := .inr (Multiset.mem_singleton_self _)
  successors i hi := absurd (Finset.mem_univ i) hi
  connected i hi := by
    rcases hi with hi | hi
    · exact absurd (Finset.mem_univ i) hi
    · rw [Multiset.mem_singleton.1 hi]
      exact connected_start

/-- **A turn keeps what holds in every search.** -/
theorem Sound.turn (hsound : graph.Sound search) (h : graph.Turn search next) :
    graph.Sound next where
  start := h.met hsound.start
  successors i hi s hs := by
    rcases h.of_seen hi with hseen | hmet
    · exact h.met (hsound.successors i hseen s hs)
    · exact hmet s hs
  connected i hi := by
    rcases h.of_met hi with hmet | ⟨j, hj, hedge⟩
    · exact hsound.connected i hmet
    · exact (hsound.connected j (.inr hj)).step hedge

theorem Sound.turns (hsound : graph.Sound search) (h : graph.Turns count search last) :
    graph.Sound last := by
  induction h with
  | nil => exact hsound
  | cons turn _ ih => exact ih (hsound.turn turn)

/-- **A search that has come to its end** has seen the connected vertices and no other. -/
theorem Sound.seen_iff (hsound : graph.Sound search) (hend : search.waiting = 0) (i : Fin n) :
    i ∉ search.unseen ↔ graph.Connected i := by
  have hseen : ∀ i, search.Met i → i ∉ search.unseen := by
    rintro i (hi | hi)
    · exact hi
    · rw [hend] at hi
      exact absurd hi (Multiset.notMem_zero i)
  constructor
  · exact fun hi => hsound.connected i (.inl hi)
  · rintro ⟨path, hpath⟩
    exact hpath.forward (p := (· ∉ search.unseen))
      (fun i hi s hs => hseen s (hsound.successors i hi s hs)) (hseen _ hsound.start)

/-! ### The search from the top of a stack -/

/-- **The search from the top of a stack** takes turns until no vertex waits. -/
theorem turns_search (graph : Graph n) (unseen stack : List (Fin n)) (hnodup : unseen.Nodup) :
    ∃ count, graph.Turns count ⟨unseen.toFinset, stack⟩
      ⟨(graph.search unseen stack).toFinset, 0⟩ := by
  fun_induction graph.search unseen stack with
  | case1 unseen => exact ⟨0, .nil _⟩
  | case2 unseen i stack h ih =>
    obtain ⟨count, hturns⟩ := ih (hnodup.erase i)
    have herase : (unseen.erase i).toFinset = unseen.toFinset.erase i := by
      ext j
      rw [List.mem_toFinset, hnodup.mem_erase_iff, Finset.mem_erase, List.mem_toFinset]
    rw [herase, ← Multiset.coe_add] at hturns
    rw [← Multiset.cons_coe]
    exact ⟨count + 1, .cons (.see (List.mem_toFinset.2 h)) hturns⟩
  | case3 unseen i stack h ih =>
    obtain ⟨count, hturns⟩ := ih hnodup
    rw [← Multiset.cons_coe]
    exact ⟨count + 1, .cons (.drop (mt List.mem_toFinset.1 h)) hturns⟩

theorem turns_unreached (graph : Graph n) :
    ∃ count, graph.Turns count graph.searchStart ⟨graph.unreached.toFinset, 0⟩ := by
  have h := graph.turns_search (List.finRange n) [graph.start] (List.nodup_finRange n)
  rwa [List.toFinset_finRange] at h

/-- **The vertices that are reached are the connected ones.** -/
theorem reaches_iff_connected : graph.reaches i = true ↔ graph.Connected i := by
  obtain ⟨count, hturns⟩ := graph.turns_unreached
  rw [← (sound_searchStart.turns hturns).seen_iff rfl i, reaches, Bool.not_eq_true',
    List.contains_eq_mem, decide_eq_false_iff_not, List.mem_toFinset]

/-! ### The reachable part -/

/-- **The reachable part of a graph**: the connected vertices in the order of their indices, and an
edge for each entry of their successors. -/
structure ReachablePart (graph : Graph n) (vertices : List (Fin n)) (edges : List (Fin n × Fin n)) :
    Prop where
  ascending : vertices.Pairwise (· < ·)
  mem_iff : ∀ i, i ∈ vertices ↔ graph.Connected i
  edges_eq : edges = vertices.flatMap fun i => (graph.vertex i).successors.map fun s => (i, s)

namespace ReachablePart

variable {vertices : List (Fin n)} {edges : List (Fin n × Fin n)}

/-- The edges join vertices of the part. -/
theorem mem_of_mem_edges (h : graph.ReachablePart vertices edges) (hmem : (i, s) ∈ edges) :
    i ∈ vertices ∧ s ∈ vertices := by
  rw [h.edges_eq] at hmem
  obtain ⟨j, hj, hmap⟩ := List.mem_flatMap.1 hmem
  obtain ⟨t, ht, heq⟩ := List.mem_map.1 hmap
  obtain ⟨rfl, rfl⟩ := Prod.mk.inj heq
  exact ⟨hj, (h.mem_iff t).2 (((h.mem_iff j).1 hj).step ht)⟩

theorem load_searchStart (h : graph.ReachablePart vertices edges) :
    graph.load graph.searchStart =
      edges.length + 1 + ∑ i ∈ vertices.toFinsetᶜ, (graph.vertex i).successors.length := by
  have hlength : edges.length = ∑ i ∈ vertices.toFinset, (graph.vertex i).successors.length := by
    rw [h.edges_eq, List.length_flatMap, List.sum_toFinset _ h.ascending.nodup]
    simp only [List.length_map]
  rw [load, searchStart, Multiset.card_singleton, hlength,
    ← Finset.sum_add_sum_compl vertices.toFinset]
  omega

/-- What is not in the part is never seen. -/
theorem compl_subset_unseen (h : graph.ReachablePart vertices edges) (hsound : graph.Sound search) :
    vertices.toFinsetᶜ ⊆ search.unseen := by
  intro i hi
  rw [Finset.mem_compl, List.mem_toFinset, h.mem_iff] at hi
  exact not_not.1 fun hseen => hi (hsound.connected i (.inl hseen))

/-- **No search takes more turns** than one for the start and one for each edge. -/
theorem turns_le (h : graph.ReachablePart vertices edges)
    (hturns : graph.Turns count graph.searchStart search) : count ≤ edges.length + 1 := by
  have hload := hturns.load_eq
  have hunseen : ∑ i ∈ vertices.toFinsetᶜ, (graph.vertex i).successors.length ≤
      ∑ i ∈ search.unseen, (graph.vertex i).successors.length :=
    Finset.sum_le_sum_of_subset (h.compl_subset_unseen (sound_searchStart.turns hturns))
  rw [h.load_searchStart, load] at hload
  omega

/-- **A search that has come to its end** has taken all of these turns, and seen the part. -/
theorem turns_eq (h : graph.ReachablePart vertices edges)
    (hturns : graph.Turns count graph.searchStart search) (hend : search.waiting = 0) :
    count = edges.length + 1 ∧ ∀ i, i ∉ search.unseen ↔ i ∈ vertices := by
  have hsound := sound_searchStart.turns hturns
  have hseen : ∀ i, i ∉ search.unseen ↔ i ∈ vertices := fun i =>
    (hsound.seen_iff hend i).trans (h.mem_iff i).symm
  have hunseen : search.unseen = vertices.toFinsetᶜ := by
    ext i
    rw [Finset.mem_compl, List.mem_toFinset, ← hseen, not_not]
  have hload := hturns.load_eq
  rw [h.load_searchStart, load, hend, hunseen, Multiset.card_zero] at hload
  exact ⟨by omega, hseen⟩

end ReachablePart

end HttpQuery.Graph
