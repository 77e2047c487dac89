import HttpQuery.Json.Value
import HttpQuery.Query.Error
import HttpQuery.Query.Fields
/-! # Descriptors

A descriptor says everything about a request that the query says. It is assembled from the fields of
the query and the body that the arguments offer: parallel lists of keys and values become maps, in
which a later value replaces an earlier one, and the timeout is read as a numeral.

* `Fields.assemble`: the descriptor of some fields.
* `Descriptor.body`: the body of the request, always a JSON value.
* `Descriptor.members`: the descriptor as members of a JSON object. -/

namespace HttpQuery

/-- A login and a password. -/
structure Credentials where
  login : String
  password : String
deriving DecidableEq, Repr

/-- The timeout of a query that sets none, in seconds. -/
def defaultTimeout : Nat := 30

/-- **Everything that a query says about a request.** -/
structure Descriptor where
  url : String
  method : Method
  headers : KeyMap String
  /-- The members of the body. -/
  json : KeyMap Json
  /-- The body that replaces the members. -/
  payload : Option Json
  basicAuth : Option Credentials
  /-- In seconds. -/
  timeout : Nat
  /-- The response headers to extract. -/
  outputHeaders : List String

namespace Descriptor

/-- **The body**: the payload if there is one, and the object of the members otherwise. -/
def body (d : Descriptor) : Json :=
  match d.payload with
  | some value => value
  | none => .ofMap d.json

/-- The time after which a request is given up; zero stands for never. -/
def timeLimit (d : Descriptor) : Option Nat := if 0 < d.timeout then some d.timeout else none

/-- The members of a descriptor's JSON object, in the order of the structure. -/
def members (d : Descriptor) : List (String × Json) :=
  [("url", .string d.url),
   ("method", .string d.method.name),
   ("headers", .object (d.headers.toList.map fun (k, v) => (k, .string v))),
   ("json", .ofMap d.json),
   ("payload", .orNull d.payload),
   ("basic_auth", .orNull (d.basicAuth.map fun c =>
      .object [("login", .string c.login), ("password", .string c.password)])),
   ("timeout", .natural d.timeout),
   ("output_headers", .strings d.outputHeaders)]

end Descriptor

namespace Fields

/-- The payload of a request: what the arguments offer, if the query asks for it. -/
def payloadOf (fields : Fields) (offered : Option Json) : Except CompileError (Option Json) :=
  if fields.payload then
    match offered with
    | some value => .ok (some value)
    | none => .error .missingPayload
  else .ok none

/-- The timeout of a request. -/
def timeoutSeconds (fields : Fields) : Except CompileError Nat :=
  match fields.timeout with
  | none => .ok defaultTimeout
  | some literal => (Text.readNumeral literal.toList).mapError .invalidTimeout

/-- The credentials of a request; both parts must be present. -/
def credentials (fields : Fields) : Option Credentials :=
  if fields.basicLogin = "" ∨ fields.basicPassword = "" then none
  else some ⟨fields.basicLogin, fields.basicPassword⟩

/-- **The descriptor of some fields and the body that the arguments offer.** A missing body is found
before a bad timeout. -/
def assemble (fields : Fields) (offered : Option Json) : Except CompileError Descriptor := do
  let payload ← fields.payloadOf offered
  let timeout ← fields.timeoutSeconds
  return {
    url := fields.url
    method := fields.method.getD .get
    headers := .ofList (fields.headerKeys.zip fields.headerValues)
    json := .ofList (fields.jsonKeys.zip (fields.jsonValues.map .string))
    payload := payload
    basicAuth := fields.credentials
    timeout := timeout
    outputHeaders := fields.outputHeaders }

/-- The members of the JSON object of some fields, in the order of the structure. -/
def members (fields : Fields) : List (String × Json) :=
  [("output_headers", .strings fields.outputHeaders),
   ("header_keys", .strings fields.headerKeys),
   ("header_values", .strings fields.headerValues),
   ("json_keys", .strings fields.jsonKeys),
   ("json_values", .strings fields.jsonValues),
   ("url", .string fields.url),
   ("method", .orNull (fields.method.map fun m => .string m.name)),
   ("payload", .bool fields.payload),
   ("basic_login", .string fields.basicLogin),
   ("basic_password", .string fields.basicPassword),
   ("timeout", .orNull (fields.timeout.map .string))]

end Fields

end HttpQuery
