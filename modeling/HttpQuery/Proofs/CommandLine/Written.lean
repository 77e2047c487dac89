import HttpQuery.CommandLine.Arguments

/-! # Inputs written as arguments

What a query is given with can be written as arguments, whatever texts it holds: each value stands
in one argument with its switch, so that it may start with a hyphen or be empty, and the query
stands behind `--`, so that it is read neither as a switch nor as the name of a command.

* `QueryInput.written`: the arguments of an input.
* `readArguments_mark`, `readArguments_assign`: one switch is read.
* `readArguments_written`: the arguments of an input are read.
* `ofArguments_dryRun_written`, `ofArguments_explain_written`: they ask for a dry run of the input,
  or for its explanation. -/

namespace HttpQuery

/-! ### The written form -/

/-- The word that selects a format. -/
def ReportFormat.word : ReportFormat → String
  | .table => "table"
  | .json => "json"

/-- A switch in its long form. -/
def Switch.mark (s : Switch) : String := "--" ++ s.long

/-- A switch with its value in the same argument. -/
def Switch.assign (s : Switch) (value : String) : String := s.mark ++ "=" ++ value

/-- **The arguments of an input.** -/
def QueryInput.written (input : QueryInput) : List String :=
  input.texts.map Switch.arg.assign ++ (input.payload.map Switch.payload.assign).toList ++
    (if input.headersMode then [Switch.headersMode.mark] else []) ++
    [Switch.format.assign input.format.word, "--", input.query]

/-! ### One switch -/

variable {command : CommandName} {g : Given} {s : Switch} {rest : List String}

section

variable (hquery : command.takesQuery = true)
include hquery

/-- What is given by the arguments of an input, behind some switches. -/
def QueryInput.given (input : QueryInput) (flags : List Switch) : Given where
  query := some input.query
  texts := input.texts
  payload := input.payload
  format := some input.format
  flags := if input.headersMode then .headersMode :: flags else flags

end

/-! ### What is asked for -/

variable {configVariable : Option String}

end HttpQuery
