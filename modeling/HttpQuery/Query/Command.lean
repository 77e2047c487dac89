import HttpQuery.Query.Fields
import HttpQuery.Query.Grammar
/-! # Commands

A *command* is what a query says, free of its spelling: the response headers to extract, the URL, a
list of clauses and a list of options, with any texts as values. It has a written form as tokens,
and a meaning as fields.

* `Command.tokens`: the written form of a command.
* `Command.fields`: its meaning, clause by clause and option by option: each literal is collected
  once, in the order of writing, and of repeated options the last one counts. -/

namespace HttpQuery

/-- What the body of a request is taken from. -/
inductive PayloadSource where
  /-- The sign `?`. -/
  | placeholder
  /-- A text in the place of the sign, which says no more than it does. -/
  | literal (text : String)
deriving DecidableEq, Repr

/-- **A clause**, introduced by `where` or `and`. -/
inductive Clause where
  | header (key value : String)
  | json (key value : String)
  | payload (source : PayloadSource)
deriving DecidableEq, Repr

/-- **An option**, introduced by `with`. -/
inductive QueryOption where
  | method (method : Method)
  | basicAuth (login password : String)
  | timeout (literal : String)
deriving DecidableEq, Repr

/-- **A command.** -/
structure Command where
  outputHeaders : List String
  url : String
  clauses : List Clause
  options : List QueryOption
deriving DecidableEq, Repr

/-- The kind of the word that selects a method. -/
def Method.kind : Method → Kind
  | .get => .get
  | .post => .post
  | .put => .put
  | .patch => .patch
  | .delete => .delete

/-! ### The written form -/

/-- The token of a reserved word or symbol. -/
def Token.reserved (kind : Kind) : Token := ⟨kind, kind.word⟩

/-- The token of a text. -/
def Token.text (literal : String) : Token := ⟨.value, literal⟩

/-- The tokens of a clause, without the word that introduces it. -/
def Clause.tokens : Clause → List Token
  | .header key value => [.reserved .header, .text key, .reserved .equal, .text value]
  | .json key value => [.text key, .reserved .equal, .text value]
  | .payload .placeholder => [.reserved .payload, .reserved .equal, .reserved .question]
  | .payload (.literal text) => [.reserved .payload, .reserved .equal, .text text]

/-- The tokens of an option, without the word that introduces it. -/
def QueryOption.tokens : QueryOption → List Token
  | .method verb => [.reserved verb.kind]
  | .basicAuth login password =>
    [.reserved .basicAuth, .text login, .reserved .comma, .text password]
  | .timeout literal => [.reserved .timeout, .text literal]

/-- The clauses, the first introduced by `where` and the others by `and`. -/
def Clause.tokensOfList : List Clause → List Token
  | [] => []
  | clause :: clauses =>
    .reserved .whereWord :: clause.tokens ++ clauses.flatMap fun c => .reserved .andWord :: c.tokens

/-- The options, each introduced by `with`. -/
def QueryOption.tokensOfList (options : List QueryOption) : List Token :=
  options.flatMap fun option => .reserved .withWord :: option.tokens

/-- The names of a list of response headers, with commas between them. -/
def Token.listOfNames : List String → List Token
  | [] => []
  | name :: names => .text name :: names.flatMap fun n => [.reserved .comma, .text n]

/-- **The tokens of a command.** -/
def Command.tokens (command : Command) : List Token :=
  Token.listOfNames command.outputHeaders ++ .reserved .fromWord :: .text command.url ::
    (Clause.tokensOfList command.clauses ++ QueryOption.tokensOfList command.options)

/-- A command fits a mode if it lists response headers exactly in the header-selection mode. -/
def Command.Fits (command : Command) : Mode → Prop
  | .body => command.outputHeaders = []
  | .headerSelection => command.outputHeaders ≠ []

/-! ### The meaning -/

/-- The key and value of a header clause. -/
def Clause.header? : Clause → Option (String × String)
  | .header key value => some (key, value)
  | _ => none

/-- The key and value of a clause for a member of the body. -/
def Clause.json? : Clause → Option (String × String)
  | .json key value => some (key, value)
  | _ => none

/-- Whether a clause takes the body from an argument. -/
def Clause.isPayload : Clause → Bool
  | .payload _ => true
  | _ => false

/-- The method that an option selects. -/
def QueryOption.method? : QueryOption → Option Method
  | .method verb => some verb
  | _ => none

/-- The login and password of an option. -/
def QueryOption.basicAuth? : QueryOption → Option (String × String)
  | .basicAuth login password => some (login, password)
  | _ => none

/-- The timeout of an option. -/
def QueryOption.timeout? : QueryOption → Option String
  | .timeout literal => some literal
  | _ => none

/-- **The fields that a command denotes.** -/
def Command.fields (command : Command) : Fields where
  outputHeaders := command.outputHeaders
  headerKeys := (command.clauses.filterMap Clause.header?).map (·.1)
  headerValues := (command.clauses.filterMap Clause.header?).map (·.2)
  jsonKeys := (command.clauses.filterMap Clause.json?).map (·.1)
  jsonValues := (command.clauses.filterMap Clause.json?).map (·.2)
  url := command.url
  method := (command.options.filterMap QueryOption.method?).getLast?
  payload := command.clauses.any Clause.isPayload
  basicLogin := ((command.options.filterMap QueryOption.basicAuth?).getLast?.map (·.1)).getD ""
  basicPassword := ((command.options.filterMap QueryOption.basicAuth?).getLast?.map (·.2)).getD ""
  timeout := (command.options.filterMap QueryOption.timeout?).getLast?

end HttpQuery
