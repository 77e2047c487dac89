import HttpQuery.Query.Error
import HttpQuery.Query.Grammar
import HttpQuery.Query.Tokenize
/-! # Reading a query

A cursor walks along a transition graph, one step for each token, and the actions of the vertices it
enters fill the fields. The reading fails at the first token without a transition, or at the end if
the query may not end there.

* `Graph.readFrom`: the reading from a given cursor on, with the fields so far.
* `Graph.read`: the reading of a whole list of tokens.
* `Fields.ofTokens`, `Fields.ofQuery`: the fields of a query by its grammar. -/

namespace HttpQuery

namespace Graph

variable {n : Nat} (graph : Graph n)

/-- The fields after entering a vertex with a token of this literal. -/
def enter (next : Fin n) (fields : Fields) (literal : String) : Fields :=
  fields.applyOption literal (graph.vertex next).action

/-- Reads the tokens from position `position` on; `cursor` and `fields` are the state before them.
-/
def readFrom (cursor : Fin n) (fields : Fields) (position : Nat) :
    List Token → Except CompileError Fields
  | [] => if graph.canEnd cursor then .ok fields else .error .incomplete
  | token :: tokens =>
    match graph.transition cursor token.kind with
    | none => .error (.unexpectedToken position token.kind (graph.expected cursor))
    | some next => readFrom next (graph.enter next fields token.literal) (position + 1) tokens

/-- **The fields that a list of tokens fills.** -/
def read (tokens : List Token) : Except CompileError Fields :=
  graph.readFrom graph.start {} 1 tokens

end Graph

namespace Fields

/-- The fields of a list of tokens. -/
def ofTokens (mode : Mode) (tokens : List Token) : Except CompileError Fields :=
  (grammar mode).read tokens

/-- **The fields of a query.** -/
def ofQuery (mode : Mode) (query : String) : Except CompileError Fields :=
  ofTokens mode (tokenize query)

end Fields

end HttpQuery
