import HttpQuery.CommandLine.Arguments
import HttpQuery.CommandLine.Report
import HttpQuery.Json.Parser
/-! # The command line

A run of the program takes its arguments, the environment and the state of the files, and gives what
is printed, the exit status, and the requests that were sent. It reads and prints nothing by itself.

* `runCommandLine`: the outcome of a run. -/

namespace HttpQuery

open Style Text

/-- **What a run depends on** besides its arguments. -/
structure Environment where
  /-- Whether colours are shown. -/
  colours : Bool
  /-- The configuration file of the environment. -/
  configVariable : Option String
  files : FileState
  directories : UserDirectories
  transport : Transport
  /-- How URLs are read. -/
  readUrl : UrlReader := Url.parse?

/-- **The outcome of a run.** -/
structure Outcome where
  output : Bytes := []
  errors : String := ""
  status : Nat := 0
  /-- The requests that exchanges were started with. -/
  sent : List SentRequest := []

/-- The exit status for wrong arguments. -/
def usageStatus : Nat := 2

namespace Outcome

/-- An outcome that prints lines. -/
def lines (output : List String) : Outcome := { output := utf8Bytes (linesText output) }

/-- An outcome that prints lines before another one. -/
def after (output : List String) (rest : Outcome) : Outcome :=
  { rest with output := utf8Bytes (linesText output) ++ rest.output }

/-- An outcome that reports a failure. -/
def failed (shown : Bool) (message : String) : Outcome where
  errors := linesText [(Style.of .red).bolder.paint shown "Error:" ++ " " ++ message]
  status := 1

end Outcome

/-- The mode of a query. -/
def QueryInput.mode (input : QueryInput) : Mode :=
  if input.headersMode then .headerSelection else .body

/-- The arguments of a query: the texts, and then the payload. -/
def QueryInput.arguments (input : QueryInput) : Except JsonError (List Argument) :=
  match input.payload with
  | none => .ok (input.texts.map .text)
  | some text => (Json.parse text).map fun v => input.texts.map .text ++ [.value v]

/-! ### Explaining a query -/

/-- How a query with these arguments is read. -/
def explainOutcome (shown : Bool) (input : QueryInput) (arguments : List Argument) : Outcome :=
  match bindArguments input.query arguments with
  | .error cause =>
    let (output, errors) := compileErrorLines shown cause
    { output := utf8Bytes (linesText output), errors := linesText errors }
  | .ok bound =>
    let e := explain input.mode bound
    match input.format with
    | .json => .lines [(explanationJson e).indented]
    | .table =>
      match e.compiled with
      | .ok (_, d) => .lines (explanationLines shown e ++ descriptorLines shown d)
      | .error cause =>
        let (output, errors) := compileErrorLines shown cause
        { output := utf8Bytes (linesText (explanationLines shown e ++ output))
          errors := linesText errors }

/-! ### Running a query -/

/-- The compiled request of a query, which is not sent. -/
def dryRunOutcome (shown : Bool) (input : QueryInput) (arguments : List Argument) : Outcome :=
  match compile input.mode input.query arguments with
  | .error cause => .failed shown cause.message
  | .ok d =>
    match input.format with
    | .json => .lines [(descriptorJson d).indented]
    | .table => .lines (descriptorLines shown d)

/-- The response headers that a query lists. -/
def listedOutcome (shown : Bool) (format : ReportFormat) (headers : KeyMap String) (status : Nat) :
    Outcome :=
  match format with
  | .json =>
    let values : Json := .object (headers.toList.map fun (k, v) => (k, .string v))
    .lines [statusLine shown status, values.indented]
  | .table =>
    .lines (statusLine shown status :: headers.toList.map fun (k, v) => headerLine shown k v)

/-- What is printed of a response. Before a body that cannot be read as text the rest is printed. -/
def responseOutcome (shown : Bool) (part : ResponsePart) (r : Response) : Outcome :=
  let head := statusLine shown r.status :: headerLines shown r.headers
  match part with
  | .response =>
    .after (head ++ [""])
      (match r.text with
       | .ok text => .lines [text]
       | .error fault => .failed shown fault.message)
  | .headers => .lines head
  | .body =>
    match r.body with
    | .ok body => { output := body }
    | .error fault => .failed shown (RequestError.brokenBody fault).message

/-- The request that the exchange of a query starts with, if it comes that far. -/
def sentRequests (client : Client) (mode : Mode) (query : String) (arguments : List Argument) :
    List SentRequest :=
  match compile mode query arguments with
  | .error _ => []
  | .ok d =>
    match client.request d >>= client.prepare with
    | .error _ => []
    | .ok sent => [sent]

/-- The response to a query, printed as it is chosen. -/
def sendOutcome (env : Environment) (input : QueryInput) (choices : RunChoices)
    (arguments : List Argument) : Outcome :=
  let shown := env.colours
  match Settings.load env.files env.directories choices.config with
  | .error cause => .failed shown cause.message
  | .ok settings =>
    match Client.ofSettings settings env.readUrl with
    | .error cause => .failed shown cause.message
    | .ok client =>
      let outcome : Outcome :=
        match client.run env.transport input.mode input.query arguments with
        | .error cause => .failed shown cause.message
        | .ok (d, r) =>
          if input.headersMode then
            listedOutcome shown input.format (pickHeaders r.headers d.outputHeaders) r.status
          else responseOutcome shown choices.output r
      { outcome with sent := sentRequests client input.mode input.query arguments }

/-- A query, run as it is chosen. -/
def runOutcome (env : Environment) (input : QueryInput) (choices : RunChoices) : Outcome :=
  let shown := env.colours
  let heading :=
    if choices.verbose then
      [dimmed.paint shown "Input:" ++ " " ++ (Style.of .yellow).paint shown input.query]
    else []
  .after heading
    (match input.arguments with
     | .error cause => .failed shown cause.message
     | .ok arguments =>
       if choices.dryRun then dryRunOutcome shown input arguments
       else sendOutcome env input choices arguments)

/-! ### Everything -/

/-- What is printed when nothing is asked for. -/
def greetingLines (shown : Bool) : List String :=
  [(Style.of .cyan).bolder.paint shown "sqlreq — SQL-like queries for HTTP", "",
   "Usage: sqlreq <QUERY> [OPTIONS]", "", "Try: sqlreq --help"]

/-- What is printed as help. -/
def helpLines : List String :=
  ["SQL-like queries for HTTP", "", "Usage: sqlreq [OPTIONS] [QUERY] [COMMAND]", "", "Commands:",
   "  explain   Tokenize and compile a query without sending it",
   "  graph     Print the grammar graph as Graphviz DOT",
   "  keywords  Show the keyword reference"]

/-- The outcome of what is asked for. -/
def Invocation.outcome (env : Environment) : Invocation → Outcome
  | .run input choices => runOutcome env input choices
  | .explain input =>
    match input.arguments with
    | .error cause => .failed env.colours cause.message
    | .ok arguments => explainOutcome env.colours input arguments
  | .graph headersMode =>
    { output := utf8Bytes (grammar (if headersMode then .headerSelection else .body)).dot }
  | .keywords => .lines (keywordLines env.colours)
  | .version => .lines ["sqlreq 0.1.0"]
  | .help => .lines helpLines
  | .nothing => .lines (greetingLines env.colours)

/-- **The outcome of a run.** Wrong arguments have an exit status of their own. -/
def runCommandLine (env : Environment) (arguments : List String) : Outcome :=
  match Invocation.ofArguments env.configVariable arguments with
  | some invocation => invocation.outcome env
  | none => { errors := "error: invalid arguments\n", status := usageStatus }

end HttpQuery
