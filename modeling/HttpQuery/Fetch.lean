import HttpQuery.Compile
import HttpQuery.Config.Lookup
import HttpQuery.Http.Exchange
/-! # Running a query

A query is compiled, its request is sent, and the response is given back whole or in part. The
errors of all stages are gathered in one type.

* `Client.fetch`: the response to a query.
* `Client.fetchHeaders`, `Client.fetchBody`: parts of it.
* `Client.fetchListed`: the response headers that a query in header-selection mode lists. -/

namespace HttpQuery

open Text

/-- **Why running a query fails.** -/
inductive Failure where
  | compile (cause : CompileError)
  | request (cause : RequestError)
  | settings (cause : SettingsError)
deriving DecidableEq, Repr

/-- The wording of each cause. -/
def Failure.message : Failure → String
  | .compile cause => cause.message
  | .request cause => cause.message
  | .settings cause => cause.message

namespace Client

/-- The descriptor of a query and the response to it. -/
def run (client : Client) (transport : Transport) (mode : Mode) (query : String)
    (arguments : List Argument) : Except Failure (Descriptor × Response) := do
  let d ← (compile mode query arguments).mapError .compile
  let response ← (client.execute transport d).mapError .request
  return (d, response)

/-- **The response to a query.** -/
def fetch (client : Client) (transport : Transport) (query : String)
    (arguments : List Argument) : Except Failure Response :=
  (client.run transport .body query arguments).map (·.2)

/-- The headers of the response, and its status. -/
def fetchHeaders (client : Client) (transport : Transport) (query : String)
    (arguments : List Argument) : Except Failure (Headers × Nat) :=
  (client.fetch transport query arguments).map fun r => (r.headers, r.status)

/-- **The headers of the response that the query lists**, and its status. -/
def fetchListed (client : Client) (transport : Transport) (query : String)
    (arguments : List Argument) : Except Failure (KeyMap String × Nat) :=
  (client.run transport .headerSelection query arguments).map fun (d, r) =>
    (pickHeaders r.headers d.outputHeaders, r.status)

/-- The body of the response, and its status. -/
def fetchBody (client : Client) (transport : Transport) (query : String)
    (arguments : List Argument) : Except Failure (Bytes × Nat) := do
  let r ← client.fetch transport query arguments
  let body ← r.body.mapError fun fault => .request (.brokenBody fault)
  return (body, r.status)

end Client

end HttpQuery
