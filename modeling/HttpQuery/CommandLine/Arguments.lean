/-! # Command-line arguments

The arguments are read from left to right. A switch is written short (`-d`) or long (`--dry-run`),
and several short ones may share a hyphen. An option takes a value, in the same argument or as the
next one, which then must not start with a hyphen. Only the option for text arguments may be
repeated. After `--` everything is a plain argument. The name of a command in the place of a plain
argument starts that command, which has switches of its own.

* `Invocation.ofArguments`: what is asked for, or why nothing can be done. -/

namespace HttpQuery

/-- How a report is written. -/
inductive ReportFormat where
  | table
  | json
deriving DecidableEq, Repr

/-- What is printed of a response. -/
inductive ResponsePart where
  | response
  | headers
  | body
deriving DecidableEq, Repr

/-- What a query is given with. -/
structure QueryInput where
  query : String
  /-- The text arguments, in order. -/
  texts : List String
  /-- The JSON text of the payload. -/
  payload : Option String
  /-- Whether the query lists response headers. -/
  headersMode : Bool
  format : ReportFormat
deriving DecidableEq, Repr

/-- The choices for running a query. -/
structure RunChoices where
  dryRun : Bool
  output : ResponsePart
  config : Option String
  verbose : Bool
deriving DecidableEq, Repr

/-- **What is asked for.** -/
inductive Invocation where
  | run (input : QueryInput) (choices : RunChoices)
  | explain (input : QueryInput)
  | graph (headersMode : Bool)
  | keywords
  | version
  | help
  /-- No query and no command. -/
  | nothing
deriving DecidableEq, Repr

/-- The switches. -/
inductive Switch where
  | arg
  | payload
  | headersMode
  | dryRun
  | format
  | output
  | config
  | verbose
  | version
  | help
deriving DecidableEq, Repr

namespace Switch

/-- The long form of a switch. -/
def long : Switch → String
  | .arg => "arg"
  | .payload => "payload"
  | .headersMode => "headers-mode"
  | .dryRun => "dry-run"
  | .format => "format"
  | .output => "output"
  | .config => "config"
  | .verbose => "verbose"
  | .version => "version"
  | .help => "help"

/-- The short form of a switch, if it has one. -/
def short? : Switch → Option Char
  | .arg => some 'a'
  | .payload => some 'p'
  | .headersMode => none
  | .dryRun => some 'd'
  | .format => some 'f'
  | .output => some 'o'
  | .config => none
  | .verbose => some 'v'
  | .version => some 'V'
  | .help => some 'h'

/-- Whether a switch takes a value. -/
def takesValue : Switch → Bool
  | .arg | .payload | .format | .output | .config => true
  | .headersMode | .dryRun | .verbose | .version | .help => false

end Switch

/-- The commands that can be named, and the case that none is. -/
inductive CommandName where
  | main
  | explain
  | graph
  | keywords
deriving DecidableEq, Repr

namespace CommandName

/-- The switches of a command. -/
def switches : CommandName → List Switch
  | .main =>
    [.arg, .payload, .headersMode, .dryRun, .format, .output, .config, .verbose, .version, .help]
  | .explain => [.arg, .payload, .headersMode, .format, .help]
  | .graph => [.headersMode, .help]
  | .keywords => [.help]

/-- The command that a plain argument names; commands have no commands of their own. -/
def named? (within : CommandName) (text : String) : Option CommandName :=
  if within = .main then
    [("explain", .explain), ("graph", .graph), ("keywords", .keywords)].lookup text
  else none

/-- Whether a command takes a query. -/
def takesQuery : CommandName → Bool
  | .main | .explain => true
  | .graph | .keywords => false

end CommandName

/-- Why the reading of arguments ends early. -/
inductive Stop where
  | usage
  | version
  | help
deriving DecidableEq, Repr

/-- What the arguments so far have given. -/
structure Given where
  query : Option String := none
  texts : List String := []
  payload : Option String := none
  format : Option ReportFormat := none
  output : Option ResponsePart := none
  config : Option String := none
  /-- The switches without a value. -/
  flags : List Switch := []

namespace Given

/-- Give a switch without a value. -/
def flag (g : Given) (s : Switch) : Except Stop Given :=
  match s with
  | .version => .error .version
  | .help => .error .help
  | _ => if g.flags.contains s then .error .usage else .ok { g with flags := s :: g.flags }

/-- Give a switch with its value. -/
def value (g : Given) (s : Switch) (v : String) : Except Stop Given :=
  match s with
  | .arg => .ok { g with texts := g.texts ++ [v] }
  | .payload => if g.payload.isSome then .error .usage else .ok { g with payload := some v }
  | .format =>
    match g.format, v with
    | none, "table" => .ok { g with format := some .table }
    | none, "json" => .ok { g with format := some .json }
    | _, _ => .error .usage
  | .output =>
    match g.output, v with
    | none, "response" => .ok { g with output := some .response }
    | none, "headers" => .ok { g with output := some .headers }
    | none, "body" => .ok { g with output := some .body }
    | _, _ => .error .usage
  | .config =>
    if g.config.isSome ∨ v = "" then .error .usage else .ok { g with config := some v }
  | _ => .error .usage

/-- Give a plain argument. -/
def plain (g : Given) (command : CommandName) (v : String) : Except Stop Given :=
  if g.query.isSome ∨ !command.takesQuery then .error .usage else .ok { g with query := some v }

end Given

/-! ### One argument -/

/-- How an argument ends after its switches without a value. -/
inductive GroupEnd where
  | complete
  /-- Something that is no switch of the command. -/
  | unknown
  /-- A switch that takes a value, with the value if the argument holds it. -/
  | valued (s : Switch) (attached : Option String)
deriving DecidableEq, Repr

/-- **What an argument says:** some switches without a value, and how it ends. The switches are
given before the end is looked at. -/
structure SwitchGroup where
  flags : List Switch
  last : GroupEnd

/-- The switches that share a hyphen. -/
def shortGroup (command : CommandName) : List Char → SwitchGroup
  | [] => ⟨[], .complete⟩
  | c :: cs =>
    match command.switches.find? (·.short? == some c) with
    | none => ⟨[], .unknown⟩
    | some s =>
      if s.takesValue then
        let attached := match cs with
          | [] => none
          | '=' :: v => some (String.ofList v)
          | v => some (String.ofList v)
        ⟨[], .valued s attached⟩
      else
        let group := shortGroup command cs
        { group with flags := s :: group.flags }

/-- The switch of a long form, perhaps with a value after `=`. -/
def longGroup (command : CommandName) (text : List Char) : SwitchGroup :=
  let name := String.ofList (text.takeWhile (· ≠ '='))
  match command.switches.find? (·.long == name), text.dropWhile (· ≠ '=') with
  | none, _ => ⟨[], .unknown⟩
  | some s, [] => if s.takesValue then ⟨[], .valued s none⟩ else ⟨[s], .complete⟩
  | some s, _ :: v => ⟨[], if s.takesValue then .valued s (some (String.ofList v)) else .unknown⟩

/-- What an argument after its first hyphen says. -/
def switchGroup (command : CommandName) : List Char → SwitchGroup
  | '-' :: cs => longGroup command cs
  | cs => shortGroup command cs

/-- Whether an argument is written like a switch. -/
def isHyphenated (text : String) : Bool := text.startsWith "-" && text != "-"

/-! ### All arguments -/

/-- What the word `help` asks for in the place of a command, by the arguments after it: help in
general, or on one command. -/
def helpStop : List String → Stop
  | [] => .help
  | [name] => if name = "help" ∨ (CommandName.main.named? name).isSome then .help else .usage
  | _ => .usage

/-- Reads the arguments of a command; the reading ends where another command is named, whose
arguments are what is left. -/
def readArguments (command : CommandName) (g : Given) :
    List String → Except Stop (Given × Option (CommandName × List String))
  | [] => .ok (g, none)
  | text :: rest =>
    if text = "--" then do
      let g ← rest.foldlM (fun g v => g.plain command v) g
      return (g, none)
    else if isHyphenated text then do
      let group := switchGroup command (text.toList.drop 1)
      let g ← group.flags.foldlM Given.flag g
      match group.last, rest with
      | .complete, rest => readArguments command g rest
      | .unknown, _ => .error .usage
      | .valued s (some v), rest => readArguments command (← g.value s v) rest
      | .valued s none, v :: rest =>
        if isHyphenated v then .error .usage else readArguments command (← g.value s v) rest
      | .valued _ none, [] => .error .usage
    else
      match command.named? text with
      | some sub => .ok (g, some (sub, rest))
      | none =>
        if command = .main ∧ text = "help" then .error (helpStop rest)
        else do readArguments command (← g.plain command text) rest

namespace Given

/-- What a query is given with. -/
def input (g : Given) (query : String) : QueryInput where
  query := query
  texts := g.texts
  payload := g.payload
  headersMode := g.flags.contains .headersMode
  format := g.format.getD .table

/-- The choices for running a query. -/
def choices (g : Given) (config : Option String) : RunChoices where
  dryRun := g.flags.contains .dryRun
  output := g.output.getD .response
  config := config
  verbose := g.flags.contains .verbose

/-- The configuration file: the one that is given, or else the one of the environment. -/
def configFile (g : Given) (fromEnvironment : Option String) : Except Stop (Option String) :=
  match g.config, fromEnvironment with
  | some path, _ => .ok (some path)
  | none, some "" => .error .usage
  | none, path => .ok path

end Given

/-- What the arguments of a named command ask for. -/
def subcommand (command : CommandName) (arguments : List String) : Except Stop Invocation := do
  let (g, _) ← readArguments command {} arguments
  match command, g.query with
  | .explain, some query => return .explain (g.input query)
  | .explain, none => throw .usage
  | .graph, _ => return .graph (g.flags.contains .headersMode)
  | .keywords, _ => return .keywords
  | .main, _ => throw .usage

/-- What the arguments ask for, unless the reading ends early. -/
def readInvocation (configVariable : Option String) (arguments : List String) :
    Except Stop Invocation := do
  let (g, sub) ← readArguments .main {} arguments
  match sub with
  | some (command, rest) =>
    let invocation ← subcommand command rest
    let _ ← g.configFile configVariable
    return invocation
  | none =>
    let config ← g.configFile configVariable
    match g.query with
    | some query => return .run (g.input query) (g.choices config)
    | none => return .nothing

/-- **What the arguments ask for**; `none` if they are wrong. -/
def Invocation.ofArguments (configVariable : Option String) (arguments : List String) :
    Option Invocation :=
  match readInvocation configVariable arguments with
  | .ok invocation => some invocation
  | .error .version => some .version
  | .error .help => some .help
  | .error .usage => none

end HttpQuery
