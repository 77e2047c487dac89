import HttpQuery.Json.Value
import HttpQuery.Query.Placeholder
/-! # Arguments

A query is given with arguments. Those that are texts fill its placeholders, in order; of the others
the first is offered as the body of the request. -/

namespace HttpQuery

/-- **An argument of a query.** -/
inductive Argument where
  | text (s : String)
  | value (v : Json)
deriving Repr

namespace Argument

/-- The text of an argument. -/
def text? : Argument → Option String
  | .text s => some s
  | .value _ => none

/-- The value of an argument that is no text. -/
def value? : Argument → Option Json
  | .text _ => none
  | .value v => some v

end Argument

/-- A query with its placeholders filled, and the body offered by the arguments. -/
structure Binding where
  query : String
  payload : Option Json

/-- **Bind arguments to a query.** -/
def bindArguments (query : String) (arguments : List Argument) : Except CompileError Binding := do
  let query ← substitute query (arguments.filterMap Argument.text?)
  return ⟨query, arguments.findSome? Argument.value?⟩

end HttpQuery
