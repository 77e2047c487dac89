import HttpQuery.Proofs.CommandLine.Lines
import HttpQuery.Proofs.Graph.Search

/-! # Graphs as DOT texts

The text of a graph in the DOT language has a line for each of its statements: one declares a vertex
by its index and its kind, another an edge by the indices of its ends. The statements can be read
off the text, since a number ends at the first blank and no line holds the end of another. So the
text tells the reachable part of the graph, and nothing else.

* `Dot.Statement`, `Dot.text`: statements, and the text that they have.
* `Dot.text_inj`: the statements can be read off a text.
* `Graph.dot_eq_text`: the text of a graph is that of its reachable part.
* `Graph.dot_of_reachablePart`: a search finds the reachable part, and the text tells it. -/

namespace HttpQuery

/-- The spelling of a kind tells it. -/
theorem Kind.word_inj {kind other : Kind} (h : kind.word = other.word) : kind = other := by
  have hall : ∀ kind : Kind, kind ∈ all := by intro kind; cases kind <;> decide
  have hnodup : (all.map word).Nodup := by decide
  exact List.inj_on_of_nodup_map hnodup (hall kind) (hall other) h

namespace Dot

/-- **A statement of a text in the DOT language.** -/
inductive Statement where
  | vertex (index : Nat) (kind : Kind)
  | edge (source target : Nat)
deriving DecidableEq

namespace Statement

/-- The index that a line starts with. -/
def subject : Statement → Nat
  | vertex index _ => index
  | edge source _ => source

/-- What a line says of this index. -/
def body : Statement → String
  | vertex index kind => "[label=\"" ++ toString index ++ "-" ++ kind.word ++ "\"]"
  | edge _ target => "-> n" ++ toString target

/-- The line of a statement. -/
def line (statement : Statement) : String :=
  "    n" ++ (toString statement.subject ++ (" " ++ (statement.body ++ ";")))

end Statement

/-- **The text of a list of statements.** -/
def text (statements : List Statement) : String :=
  linesText ("digraph sqlreq \x7b" :: (statements.map Statement.line ++ ["\x7d"]))

/-- **A closed list of statements**: it declares both ends of each of its edges. -/
def Closed (statements : List Statement) : Prop :=
  ∀ source target, .edge source target ∈ statements →
    (∃ kind, .vertex source kind ∈ statements) ∧ ∃ kind, .vertex target kind ∈ statements

variable {statement other : Statement} {statements others : List Statement}

theorem text_eq (statements : List Statement) :
    text statements = "digraph sqlreq \x7b\n" ++
      String.join (statements.map fun s => s.line ++ "\n") ++ "\x7d\n" := by
  simp [text, linesText, Function.comp_def, String.append_assoc]

/-! ### Reading statements -/

theorem isLine_line (statement : Statement) : IsLine statement.line := by
  have hword : ∀ kind : Kind, IsLine kind.word := by intro kind; cases kind <;> decide
  have hbody : IsLine statement.body := by
    cases statement with
    | vertex index kind =>
      have hlabel : IsLine "[label=\"" := by decide
      have hdash : IsLine "-" := by decide
      exact (((hlabel.append (isLine_natural index)).append hdash).append (hword kind)).append
        (by decide)
    | edge source target =>
      have harrow : IsLine "-> n" := by decide
      exact harrow.append (isLine_natural target)
  have hindent : IsLine "    n" := by decide
  have hblank : IsLine " " := by decide
  exact hindent.append ((isLine_natural _).append (hblank.append (hbody.append (by decide))))

/-- No statement of an edge is one of a vertex. -/
theorem body_vertex_ne_body_edge (index source target : Nat) (kind : Kind) :
    (Statement.vertex index kind).body ≠ (Statement.edge source target).body := by
  intro h
  have hhead := congrArg (fun body : String => body.toList.head?) h
  simp [Statement.body] at hhead

/-- **The line of a statement tells it.** -/
theorem line_inj (h : statement.line = other.line) : statement = other := by
  obtain ⟨hsubject, hrest⟩ := natural_blank_inj ((String.append_right_inj _).1 h)
  have hbody := (String.append_left_inj _).1 hrest
  cases statement with
  | vertex index kind =>
    cases other with
    | vertex index' kind' =>
      obtain rfl : index = index' := hsubject
      have hword := (String.append_right_inj _).1 ((String.append_left_inj _).1 hbody)
      rw [Kind.word_inj hword]
    | edge source target => exact absurd hbody (body_vertex_ne_body_edge _ _ _ _)
  | edge source target =>
    cases other with
    | vertex index kind => exact absurd hbody.symm (body_vertex_ne_body_edge _ _ _ _)
    | edge source' target' =>
      obtain rfl : source = source' := hsubject
      rw [natural_inj ((String.append_right_inj _).1 hbody)]

/-- **The statements can be read off a text.** -/
theorem text_inj (h : text statements = text others) : statements = others := by
  have hopening : IsLine "digraph sqlreq \x7b" := by decide
  have hlines : ∀ statements : List Statement,
      ∀ line ∈ statements.map Statement.line, IsLine line ∧ line ≠ "\x7d" := by
    intro statements line hmem
    obtain ⟨statement, -, rfl⟩ := List.mem_map.1 hmem
    refine ⟨isLine_line statement, fun heq => ?_⟩
    have hhead := congrArg (fun line : String => line.toList.head?) heq
    simp [Statement.line] at hhead
  -- The lines of the statements are those between the opening and the closing line.
  have hrest := (linesText_cons_inj hopening hopening h).2
  obtain ⟨hmap, -⟩ := linesText_upTo_inj (by decide) (hlines statements) (hlines others) hrest
  exact map_inj_of_forall (fun _ _ _ _ => line_inj) hmap

end Dot

namespace Graph

variable {n : Nat} {graph : Graph n} {vertices : List (Fin n)} {edges : List (Fin n × Fin n)}

/-- The statement that declares a vertex. -/
def declaration (graph : Graph n) (i : Fin n) : Dot.Statement := .vertex i (graph.vertex i).kind

/-- **The statements of a part of a graph**: first the vertices, then the edges. -/
def statements (graph : Graph n) (vertices : List (Fin n)) (edges : List (Fin n × Fin n)) :
    List Dot.Statement :=
  vertices.map graph.declaration ++ edges.map fun e => .edge e.1 e.2

/-- **The reachable part has closed statements.** -/
theorem ReachablePart.closed (h : graph.ReachablePart vertices edges) :
    Dot.Closed (graph.statements vertices edges) := by
  have hdeclared : ∀ i ∈ vertices, ∃ kind, .vertex i.val kind ∈ graph.statements vertices edges :=
    fun i hi => ⟨_, List.mem_append_left _ (List.mem_map_of_mem hi)⟩
  intro source target hmem
  rcases List.mem_append.1 hmem with hmem | hmem
  · obtain ⟨i, -, heq⟩ := List.mem_map.1 hmem
    cases heq
  · obtain ⟨⟨i, s⟩, hedge, heq⟩ := List.mem_map.1 hmem
    obtain ⟨rfl, rfl⟩ := Dot.Statement.edge.inj heq
    obtain ⟨hi, hs⟩ := h.mem_of_mem_edges hedge
    exact ⟨hdeclared i hi, hdeclared s hs⟩

/-! ### The text of a graph -/

/-- The vertices that are reached, in the order of their indices. -/
def reached (graph : Graph n) : List (Fin n) := (List.finRange n).filter graph.reaches

/-- The edges that leave them. -/
def reachedEdges (graph : Graph n) : List (Fin n × Fin n) :=
  graph.reached.flatMap fun i => (graph.vertex i).successors.map fun s => (i, s)

theorem mem_reached_iff {i : Fin n} : i ∈ graph.reached ↔ graph.reaches i = true := by
  simp [reached]

theorem reachablePart_reached (graph : Graph n) :
    graph.ReachablePart graph.reached graph.reachedEdges where
  ascending := (List.pairwise_lt_finRange n).filter _
  mem_iff _ := mem_reached_iff.trans reaches_iff_connected
  edges_eq := rfl

/-- A graph with a cycle, a loop, a repeated entry, and two vertices that are not reached. -/
def cycles : Graph 4 where
  vertices := #v[⟨.start, [2], none⟩, ⟨.comma, [2, 3], none⟩, ⟨.value, [2, 0, 2], none⟩,
    ⟨.finish, [], none⟩]
  start := 0

example : cycles.statements cycles.reached cycles.reachedEdges =
    [.vertex 0 .start, .vertex 2 .value, .edge 0 2, .edge 2 2, .edge 2 0, .edge 2 2] := by
  cbv

theorem vertexLine_eq (i : Fin n) : graph.vertexLine i = (graph.declaration i).line ++ "\n" := by
  apply String.toList_inj.1
  simp [vertexLine, declaration, Dot.Statement.line, Dot.Statement.subject, Dot.Statement.body]

theorem edgeLine_eq (i s : Fin n) : edgeLine i s = (Dot.Statement.edge i s).line ++ "\n" := by
  apply String.toList_inj.1
  simp [edgeLine, Dot.Statement.line, Dot.Statement.subject, Dot.Statement.body]

/-- **The text of a graph is that of its reachable part.** -/
theorem dot_eq_text (graph : Graph n) :
    graph.dot = Dot.text (graph.statements graph.reached graph.reachedEdges) := by
  have hvertices : graph.reached.map graph.vertexLine =
      (graph.reached.map graph.declaration).map fun s => s.line ++ "\n" := by
    rw [List.map_map]
    exact List.map_congr_left fun i _ => vertexLine_eq i
  have hedges : (graph.reached.flatMap fun i => (graph.vertex i).successors.map (edgeLine i)) =
      (graph.reachedEdges.map fun e => .edge e.1 e.2).map fun s : Dot.Statement =>
        s.line ++ "\n" := by
    rw [reachedEdges, List.map_flatMap, List.map_flatMap]
    refine congrArg graph.reached.flatMap (funext fun i => ?_)
    rw [List.map_map, List.map_map]
    exact List.map_congr_left fun s _ => edgeLine_eq i s
  calc graph.dot
      = "digraph sqlreq \x7b\n" ++ String.join (graph.reached.map graph.vertexLine) ++
          String.join (graph.reached.flatMap fun i =>
            (graph.vertex i).successors.map (edgeLine i)) ++ "\x7d\n" := rfl
    _ = Dot.text (graph.statements graph.reached graph.reachedEdges) := by
        rw [hvertices, hedges, Dot.text_eq, statements, List.map_append, String.join_append,
          ← String.append_assoc]

/-- **A search finds the reachable part of a graph, and the text of the graph tells it.** Whichever
waiting vertex it looks at in each turn, a search takes at most one turn for the start and one for
each edge of the part; it goes on while a vertex waits, and when none does, it has taken just as
many turns and has seen the vertices of the part and no other. The vertices that are reached are
left by such a search. The text has these statements and no other: a declaration for each vertex of
the part and an edge for each entry of its successors, both in the order of the indices, and each
edge joins two vertices that are declared. -/
theorem dot_of_reachablePart (graph : Graph n) :
    ∃ vertices edges, graph.ReachablePart vertices edges ∧
      (∀ count search, graph.Turns count graph.searchStart search →
        count ≤ edges.length + 1 ∧
          (search.waiting ≠ 0 → ∃ next, graph.Turn search next) ∧
          (search.waiting = 0 →
            count = edges.length + 1 ∧ ∀ i, i ∉ search.unseen ↔ i ∈ vertices)) ∧
      graph.Turns (edges.length + 1) graph.searchStart ⟨graph.unreached.toFinset, 0⟩ ∧
      (∀ i, graph.reaches i = true ↔ i ∈ vertices) ∧
      (∀ statements, Dot.text statements = graph.dot ↔
        statements = graph.statements vertices edges) ∧
      Dot.Closed (graph.statements vertices edges) := by
  have hpart := graph.reachablePart_reached
  refine ⟨graph.reached, graph.reachedEdges, hpart, fun count search h => ?_, ?_,
    fun i => mem_reached_iff.symm, fun statements => ?_, hpart.closed⟩
  · exact ⟨hpart.turns_le h, exists_turn graph, hpart.turns_eq h⟩
  · obtain ⟨count, hturns⟩ := graph.turns_unreached
    rwa [(hpart.turns_eq hturns rfl).1] at hturns
  · rw [dot_eq_text]
    exact ⟨Dot.text_inj, fun h => h ▸ rfl⟩

end Graph

end HttpQuery
