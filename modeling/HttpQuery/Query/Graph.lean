import HttpQuery.Query.Fields
import HttpQuery.Query.Token
/-! # Transition graphs

A transition graph has `n` vertices, one of which is the start. A vertex accepts tokens of one kind,
names its successors in order of priority, and may carry an action.

* `Graph.transition`: the first successor that accepts a kind.
* `Graph.expected`, `Graph.canEnd`: what may follow a vertex.
* `Graph.follow`: the cursor's way along a list of kinds.
* `Graph.reaches`: the vertices that can be reached from the start.
* `Graph.dot`: the reachable part, in the DOT language. -/

namespace HttpQuery

/-- A vertex of a graph with `n` vertices. -/
structure Vertex (n : Nat) where
  kind : Kind
  /-- In order of priority. -/
  successors : List (Fin n)
  action : Option Action
deriving DecidableEq, Repr

/-- **A transition graph with `n` vertices.** -/
structure Graph (n : Nat) where
  vertices : Vector (Vertex n) n
  start : Fin n
deriving DecidableEq

namespace Graph

variable {n : Nat} (graph : Graph n)

/-- The vertex with an index. -/
def vertex (i : Fin n) : Vertex n := graph.vertices[i]

/-- **The first successor that accepts a kind.** -/
def transition (i : Fin n) (kind : Kind) : Option (Fin n) :=
  (graph.vertex i).successors.find? fun s => (graph.vertex s).kind == kind

/-- The kinds accepted after a vertex, in the order of its successors. -/
def expected (i : Fin n) : List Kind :=
  (graph.vertex i).successors.map fun s => (graph.vertex s).kind

/-- Whether a query may end at a vertex. -/
def canEnd (i : Fin n) : Bool := (graph.transition i .finish).isSome

/-- One step of the cursor along a list of kinds: whether it moved, and where it is now. -/
structure Step (n : Nat) where
  moved : Bool
  cursor : Fin n
deriving DecidableEq, Repr

/-- The cursor's way along a list of kinds; a kind without a transition leaves it in its place. -/
def follow (cursor : Fin n) : List Kind → List (Step n)
  | [] => []
  | kind :: kinds =>
    match graph.transition cursor kind with
    | some next => ⟨true, next⟩ :: follow next kinds
    | none => ⟨false, cursor⟩ :: follow cursor kinds

/-! ### Reachable vertices -/

/-- Removes from `unseen` what can be reached from the vertices on the stack through vertices of
`unseen`. A vertex leaves `unseen` when it comes off the stack, and its successors go onto it. -/
def search (unseen : List (Fin n)) : List (Fin n) → List (Fin n)
  | [] => unseen
  | i :: stack =>
    if i ∈ unseen then search (unseen.erase i) ((graph.vertex i).successors ++ stack)
    else search unseen stack
termination_by stack => (unseen.length, stack.length)
decreasing_by
  · rename_i h
    apply Prod.Lex.left
    rw [List.length_erase_of_mem h]
    have := List.length_pos_of_mem h
    omega
  · apply Prod.Lex.right
    simp

/-- The vertices that cannot be reached from the start. -/
def unreached : List (Fin n) := graph.search (List.finRange n) [graph.start]

/-- **Whether a vertex can be reached from the start.** -/
def reaches (i : Fin n) : Bool := !graph.unreached.contains i

/-! ### The DOT language -/

/-- The line that declares a vertex. -/
def vertexLine (i : Fin n) : String :=
  "    n" ++ toString i.val ++ " [label=\"" ++ toString i.val ++ "-" ++
    (graph.vertex i).kind.word ++ "\"];\n"

/-- The line of an edge. -/
def edgeLine (i s : Fin n) : String :=
  "    n" ++ toString i.val ++ " -> n" ++ toString s.val ++ ";\n"

/-- **The reachable part of a graph in the DOT language**: first a line for each vertex, then a line
for each entry of a vertex's successors, both in the order of the indices. -/
def dot : String :=
  let reached := (List.finRange n).filter graph.reaches
  "digraph sqlreq \x7b\n" ++ String.join (reached.map graph.vertexLine) ++
    String.join (reached.flatMap fun i => (graph.vertex i).successors.map (edgeLine i)) ++ "\x7d\n"

end Graph

end HttpQuery
