import HttpQuery.CommandLine.Style
import HttpQuery.Fetch
import HttpQuery.Http.Status
/-! # Reports

What is printed about queries, requests and responses. A report is a list of lines; `shown` tells
whether colours are shown.

* `descriptorLines`, `descriptorJson`: a compiled request, as a table and as JSON. The table hides
  the password.
* `explanationLines`, `explanationJson`: how a query is read.
* `keywordLines`: the reserved words and symbols. -/

namespace HttpQuery

open Style

/-- Lines as text, each with its end. -/
def linesText (lines : List String) : String := String.join (lines.map (· ++ "\n"))

/-! ### Compiled requests -/

/-- A compiled request as JSON, its members in the order of the structure. -/
def descriptorJson (d : Descriptor) : Json := .object d.members

/-- **A compiled request as a table.** -/
def descriptorLines (shown : Bool) (d : Descriptor) : List String :=
  let label (text : String) : String := dimmed.paint shown text
  let white (text : String) : String := (Style.of .white).paint shown text
  let yellow (text : String) : String := (Style.of .yellow).paint shown text
  [(Style.of .green).bolder.paint shown "Compiled Request:",
   "  " ++ label "Method:" ++ " " ++ (Style.of .cyan).paint shown d.method.name,
   "  " ++ label "URL:" ++ " " ++ white d.url,
   "  " ++ label "Timeout:" ++ " " ++ toString d.timeout ++ "s"] ++
  (if d.headers.isEmpty then []
   else ("  " ++ label "Headers:") ::
     d.headers.toList.map fun (name, value) => "    " ++ white name ++ ": " ++ yellow value) ++
  (match d.basicAuth with
   | none => []
   | some c => ["  " ++ label "Basic auth:" ++ " " ++ white c.login ++ " / " ++ label "****"]) ++
  (if d.outputHeaders.isEmpty then []
   else ("  " ++ label "Extract headers:") ::
     d.outputHeaders.map fun name => "    • " ++ white name) ++
  ["  " ++ label "Body:", "    " ++ yellow d.body.compact]

/-! ### How a query is read -/

/-- What is known of a query whose placeholders are filled. -/
structure Explanation where
  mode : Mode
  query : String
  tokens : List Token
  compiled : Except CompileError (Fields × Descriptor)

/-- **How a query is read**, once its arguments are bound. -/
def explain (mode : Mode) (bound : Binding) : Explanation where
  mode := mode
  query := bound.query
  tokens := tokenize bound.query
  compiled := do
    let fields ← Fields.ofTokens mode (tokenize bound.query)
    let d ← fields.assemble bound.payload
    return (fields, d)

/-- A token as JSON. -/
def tokenJson (t : Token) : Json :=
  .sortedObject [("kind", .string t.kind.name), ("value", .string t.literal)]

/-- **How a query is read, as JSON.** -/
def explanationJson (e : Explanation) : Json :=
  .sortedObject
    ([("mode", .string e.mode.name), ("query", .string e.query),
      ("tokens", .array (e.tokens.map tokenJson))] ++
     match e.compiled with
     | .ok (fields, d) =>
       [("fields", .sortedObject fields.members), ("request", .sortedObject d.members)]
     | .error cause => [("error", .string cause.message)])

/-- A token with its position in the table of tokens. -/
def tokenLine (shown : Bool) (position : Nat) (t : Token) : String :=
  let number := "  " ++ padLeft 3 (toString position) ++ " "
  if t.kind = .value then
    number ++ dimmed.paint shown (padRight 10 t.kind.word) ++ " " ++
      (Style.of .white).paint shown t.literal
  else number ++ (Style.of .cyan).paint shown t.kind.word

/-- The heading of an explanation, the query and its tokens. -/
def explanationLines (shown : Bool) (e : Explanation) : List String :=
  [(Style.of .cyan).bolder.paint shown "sqlreq Query Explanation", "",
   dimmed.paint shown "Query:" ++ " " ++ (Style.of .yellow).paint shown e.query, "",
   (Style.of .green).bolder.paint shown "Tokens:"] ++
  (e.tokens.zipIdx 1).map (fun (t, i) => tokenLine shown i t) ++ [""]

/-- What is said when a query does not compile: on standard output if only the payload is missing,
and else on the error output. -/
def compileErrorLines (shown : Bool) (cause : CompileError) : List String × List String :=
  let labelled (label : String) : List String × List String :=
    ([], [(Style.of .red).bolder.paint shown label ++ " " ++ cause.message])
  match cause with
  | .missingPayload =>
    ([(Style.of .yellow).paint shown "Query expects a payload argument (payload = ?)."], [])
  | .placeholderCount _ _ => labelled "Substitution Error:"
  | .unexpectedToken _ _ _ => labelled "Parse Error:"
  | .incomplete => labelled "Parse Error:"
  | .invalidTimeout _ => labelled "Error:"

/-! ### Reserved words -/

/-- What a reserved word or symbol is for. -/
def meaning : Kind → String
  | .fromWord => "Target URL follows"
  | .whereWord => "Start of clauses"
  | .andWord => "Chains another clause"
  | .payload => "payload = ? takes the body from an argument"
  | .header => "header <name> = <value>"
  | .withWord => "Introduces an option"
  | .get => "GET (default)"
  | .post => "POST"
  | .put => "PUT"
  | .patch => "PATCH"
  | .delete => "DELETE"
  | .basicAuth => "basicauth <login>, <password>"
  | .timeout => "timeout <seconds> (default 30)"
  | .comma => "Separates list items"
  | .equal => "Binds a key to a value"
  | .question => "Payload placeholder"
  | .value | .start | .finish => ""

/-- **The reserved words and symbols.** -/
def keywordLines (shown : Bool) : List String :=
  [(Style.of .cyan).bolder.paint shown "sqlreq Keyword Reference", "",
   (Style.of .white).bolder.paint shown (padRight 12 "Keyword") ++ " " ++
     (Style.of .white).bolder.paint shown "Meaning",
   dimmed.paint shown (String.ofList (List.replicate 60 '─'))] ++
  Kind.reserved.map fun k =>
    (Style.of .cyan).bolder.paint shown (padRight 12 k.word) ++ " " ++
      dimmed.paint shown (meaning k)

/-! ### Responses -/

/-- The colour of a status. -/
def statusColour (status : Nat) : Colour :=
  if 200 ≤ status ∧ status < 300 then .green
  else if 400 ≤ status ∧ status < 600 then .red
  else .yellow

/-- The line of a status. -/
def statusLine (shown : Bool) (status : Nat) : String :=
  dimmed.paint shown "Status:" ++ " " ++
    (Style.of (statusColour status)).bolder.paint shown (statusText status)

/-- The line of a header. -/
def headerLine (shown : Bool) (name value : String) : String :=
  (Style.of .cyan).paint shown name ++ ": " ++ value

/-- The lines of a response's headers; a value that is no visible text is not printed. -/
def headerLines (shown : Bool) (headers : Headers) : List String :=
  headers.map fun (name, value) => headerLine shown name ((visibleText? value).getD "<binary>")

end HttpQuery
