import HttpQuery.Http.Descriptor
import HttpQuery.Proofs.Query.Written
import HttpQuery.Proofs.Text.Numeral
import Mathlib.Algebra.Group.Nat.Defs

/-! # What a command asks for

A command denotes a descriptor, clause by clause and option by option, without a detour through the
fields of a reader. The texts of a command are only passed on, so they may be changed before the
command is written or after it is taken apart.

* `Command.descriptor`: the descriptor that a command denotes.
* `Command.assemble_fields`: the fields of a command are assembled to its descriptor.
* `Command.mapTexts`, `Command.tokens_mapTexts`: a command with its texts changed, and its tokens.
-/

namespace HttpQuery

open Text

/-! ### The denotation -/

namespace Command

/-- Whether a command takes the body from an argument. -/
def takesPayload (command : Command) : Bool := command.clauses.any Clause.isPayload

/-- The literal of the last timeout. -/
def timeoutLiteral (command : Command) : Option String :=
  (command.options.filterMap QueryOption.timeout?).getLast?

/-- The last login and password, if both are there. -/
def credentials (command : Command) : Option Credentials :=
  match (command.options.filterMap QueryOption.basicAuth?).getLast? with
  | none => none
  | some (login, password) =>
    if login = "" ∨ password = "" then none else some ⟨login, password⟩

/-- The timeout in seconds: that of the last literal, or the default. -/
def seconds (command : Command) : Nat :=
  match command.timeoutLiteral with
  | none => defaultTimeout
  | some literal => decimalValue literal.toList

/-- **The descriptor that a command denotes**, given what the arguments offer as a body. -/
def descriptor (command : Command) (offered : Option Json) : Descriptor where
  url := command.url
  method := (command.options.filterMap QueryOption.method?).getLast?.getD .get
  headers := .ofList (command.clauses.filterMap Clause.header?)
  json := .ofList ((command.clauses.filterMap Clause.json?).map fun entry =>
    (entry.1, .string entry.2))
  payload := if command.takesPayload then offered else none
  basicAuth := command.credentials
  timeout := command.seconds
  outputHeaders := command.outputHeaders

variable {command : Command} {offered : Option Json}

theorem payloadOf_fields (h : command.takesPayload = true → offered.isSome = true) :
    command.fields.payloadOf offered = .ok (if command.takesPayload then offered else none) := by
  have hpayload : command.fields.payload = command.takesPayload := rfl
  unfold Fields.payloadOf
  rw [hpayload]
  split
  · next htakes =>
    obtain ⟨value, rfl⟩ := Option.isSome_iff_exists.1 (h htakes)
    rfl
  · rfl

theorem timeoutSeconds_fields (h : ∀ literal, command.timeoutLiteral = some literal →
      IsDecimal literal.toList ∧ decimalValue literal.toList < 2 ^ 64) :
    command.fields.timeoutSeconds = .ok command.seconds := by
  have htimeout : command.fields.timeout = command.timeoutLiteral := rfl
  rw [Fields.timeoutSeconds, htimeout, seconds]
  cases hliteral : command.timeoutLiteral with
  | none => rfl
  | some literal =>
    obtain ⟨hdecimal, hlt⟩ := h literal hliteral
    simp only [readNumeral_of_isDecimal hdecimal hlt]
    rfl

theorem credentials_fields (command : Command) :
    command.fields.credentials = command.credentials := by
  rw [Fields.credentials, credentials, fields]
  cases (command.options.filterMap QueryOption.basicAuth?).getLast? with
  | none => rfl
  | some entry => rfl

/-- The header keys and values of a command, put together again. -/
theorem zip_headers_fields (command : Command) :
    command.fields.headerKeys.zip command.fields.headerValues =
      command.clauses.filterMap Clause.header? := by
  rw [fields, List.zip_map', List.map_id']

/-- The keys and values of the members of the body, put together again. -/
theorem zip_json_fields (command : Command) :
    command.fields.jsonKeys.zip (command.fields.jsonValues.map Json.string) =
      (command.clauses.filterMap Clause.json?).map fun entry => (entry.1, .string entry.2) := by
  rw [fields, List.map_map, List.zip_map']
  rfl

/-- **The fields of a command are assembled to its descriptor**, if the body it takes is offered and
its last timeout is a numeral that fits. -/
theorem assemble_fields (hpayload : command.takesPayload = true → offered.isSome = true)
    (htimeout : ∀ literal, command.timeoutLiteral = some literal →
      IsDecimal literal.toList ∧ decimalValue literal.toList < 2 ^ 64) :
    command.fields.assemble offered = .ok (command.descriptor offered) := by
  rw [Fields.assemble, payloadOf_fields hpayload, timeoutSeconds_fields htimeout,
    zip_headers_fields, zip_json_fields, credentials_fields]
  rfl

end Command

/-! ### Changing the texts -/

/-- A clause with its texts changed. -/
def Clause.mapTexts (f : String → String) : Clause → Clause
  | .header key value => .header (f key) (f value)
  | .json key value => .json (f key) (f value)
  | .payload .placeholder => .payload .placeholder
  | .payload (.literal text) => .payload (.literal (f text))

/-- An option with its texts changed. -/
def QueryOption.mapTexts (f : String → String) : QueryOption → QueryOption
  | .method verb => .method verb
  | .basicAuth login password => .basicAuth (f login) (f password)
  | .timeout literal => .timeout (f literal)

namespace Command

/-- **A command with its texts changed.** -/
def mapTexts (f : String → String) (command : Command) : Command where
  outputHeaders := command.outputHeaders.map f
  url := f command.url
  clauses := command.clauses.map (Clause.mapTexts f)
  options := command.options.map (QueryOption.mapTexts f)

end Command

variable {mode : Mode} {command : Command} (f : String → String)

theorem Clause.tokens_mapTexts (clause : Clause) :
    (clause.mapTexts f).tokens = clause.tokens.map (Token.mapText f) := by
  cases clause with
  | payload source => cases source <;> rfl
  | _ => rfl

theorem QueryOption.tokens_mapTexts (option : QueryOption) :
    (option.mapTexts f).tokens = option.tokens.map (Token.mapText f) := by
  cases option with
  | method verb => cases verb <;> rfl
  | _ => rfl

theorem Clause.tokensOfList_mapTexts (clauses : List Clause) :
    tokensOfList (clauses.map (mapTexts f)) = (tokensOfList clauses).map (Token.mapText f) := by
  cases clauses with
  | nil => rfl
  | cons clause clauses =>
    simp only [List.map_cons, tokensOfList, List.flatMap_map, List.map_append, List.map_flatMap,
      tokens_mapTexts]
    rfl

theorem QueryOption.tokensOfList_mapTexts (options : List QueryOption) :
    tokensOfList (options.map (mapTexts f)) = (tokensOfList options).map (Token.mapText f) := by
  simp only [tokensOfList, List.flatMap_map, List.map_flatMap, List.map_cons, tokens_mapTexts]
  rfl

theorem Token.listOfNames_map (names : List String) :
    listOfNames (names.map f) = (listOfNames names).map (mapText f) := by
  cases names with
  | nil => rfl
  | cons name names =>
    simp only [List.map_cons, listOfNames, List.flatMap_map, List.map_flatMap]
    rfl

namespace Command

/-- **The tokens of a command with its texts changed.** -/
theorem tokens_mapTexts (command : Command) :
    (command.mapTexts f).tokens = command.tokens.map (Token.mapText f) := by
  rw [tokens, tokens, mapTexts]
  simp only [Token.listOfNames_map, Clause.tokensOfList_mapTexts, QueryOption.tokensOfList_mapTexts,
    List.map_append, List.map_cons]
  rfl

theorem fits_mapTexts (h : command.Fits mode) : (command.mapTexts f).Fits mode := by
  cases mode with
  | body => exact List.map_eq_nil_iff.2 h
  | headerSelection => exact mt List.map_eq_nil_iff.1 h

theorem takesPayload_mapTexts (command : Command) :
    (command.mapTexts f).takesPayload = command.takesPayload := by
  rw [takesPayload, mapTexts, List.any_map]
  congr 1
  funext clause
  cases clause with
  | payload source => cases source <;> rfl
  | _ => rfl

theorem timeoutLiteral_mapTexts (command : Command) :
    (command.mapTexts f).timeoutLiteral = command.timeoutLiteral.map f := by
  have htimeout : ∀ option : QueryOption,
      (option.mapTexts f).timeout? = option.timeout?.map f := by
    intro option
    cases option <;> rfl
  rw [timeoutLiteral, mapTexts, timeoutLiteral, List.filterMap_map, ← List.getLast?_map,
    List.map_filterMap]
  congr 2
  funext option
  exact htimeout option

end Command

end HttpQuery
