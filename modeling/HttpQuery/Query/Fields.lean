import HttpQuery.Http.Method
/-! # The fields of a query

While a query is read, each token may fire an *action*, which writes the token's literal into one of
the fields. Keys and values are collected in parallel lists, in the order of the query; of the other
fields the last write counts. -/

namespace HttpQuery

/-- **What a token does to the fields** when the reading reaches its place. -/
inductive Action where
  | appendOutputHeader
  | setUrl
  | appendHeaderKey
  | appendHeaderValue
  | appendJsonKey
  | appendJsonValue
  | setPayloadFlag
  | setMethod (method : Method)
  | setBasicLogin
  | setBasicPassword
  | setTimeoutLiteral
deriving DecidableEq, Repr

/-- **The raw fields of a query**, in the order of the query. -/
structure Fields where
  /-- The response headers to extract. -/
  outputHeaders : List String := []
  headerKeys : List String := []
  headerValues : List String := []
  jsonKeys : List String := []
  jsonValues : List String := []
  url : String := ""
  /-- The last method selected, if any. -/
  method : Option Method := none
  /-- Whether the body is an argument. -/
  payload : Bool := false
  basicLogin : String := ""
  basicPassword : String := ""
  /-- The last timeout, not yet read as a numeral. -/
  timeout : Option String := none
deriving DecidableEq, Repr

namespace Fields

instance : Inhabited Fields := ⟨{}⟩

/-- **The fields after an action** fired by a token with this literal. -/
def apply (fields : Fields) (literal : String) : Action → Fields
  | .appendOutputHeader => { fields with outputHeaders := fields.outputHeaders ++ [literal] }
  | .setUrl => { fields with url := literal }
  | .appendHeaderKey => { fields with headerKeys := fields.headerKeys ++ [literal] }
  | .appendHeaderValue => { fields with headerValues := fields.headerValues ++ [literal] }
  | .appendJsonKey => { fields with jsonKeys := fields.jsonKeys ++ [literal] }
  | .appendJsonValue => { fields with jsonValues := fields.jsonValues ++ [literal] }
  | .setPayloadFlag => { fields with payload := true }
  | .setMethod method => { fields with method := some method }
  | .setBasicLogin => { fields with basicLogin := literal }
  | .setBasicPassword => { fields with basicPassword := literal }
  | .setTimeoutLiteral => { fields with timeout := some literal }

/-- The fields after a place without an action, or with one. -/
def applyOption (fields : Fields) (literal : String) : Option Action → Fields
  | none => fields
  | some action => fields.apply literal action

end Fields

end HttpQuery
