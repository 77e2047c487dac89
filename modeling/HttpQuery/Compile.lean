import HttpQuery.Http.Descriptor
import HttpQuery.Query.Argument
import HttpQuery.Query.Reading
/-! # Compiling a query

A query and its arguments become a descriptor in three steps: the arguments are bound, the text is
read, and the fields are assembled. The first step that fails gives the error. -/

namespace HttpQuery

/-- **The descriptor of a query and its arguments.** -/
def compile (mode : Mode) (query : String) (arguments : List Argument) :
    Except CompileError Descriptor := do
  let bound ← bindArguments query arguments
  let fields ← Fields.ofQuery mode bound.query
  fields.assemble bound.payload

end HttpQuery
