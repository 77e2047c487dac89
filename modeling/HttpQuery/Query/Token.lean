/-! # Tokens

A query is a list of tokens. The *kind* of a token is one of the reserved words and symbols, or
`value` for free text; two more kinds, `start` and `finish`, stand for the two ends of a query and
are never written.

* `Kind.word`: the spelling of a kind.
* `Kind.ofWord?`: the reserved word or symbol with a given spelling. -/

namespace HttpQuery

/-- **The kind of a token**, and of the places in a query that accept it. -/
inductive Kind where
  | equal
  | question
  | comma
  | fromWord
  | whereWord
  | andWord
  | payload
  | header
  | withWord
  | get
  | post
  | put
  | patch
  | delete
  | basicAuth
  | timeout
  | value
  | start
  | finish
deriving DecidableEq, Repr

namespace Kind

/-- All kinds. -/
def all : List Kind :=
  [.equal, .question, .comma, .fromWord, .whereWord, .andWord, .payload, .header, .withWord, .get,
    .post, .put, .patch, .delete, .basicAuth, .timeout, .value, .start, .finish]

/-- The reserved words and symbols, in the order of their documentation. -/
def reserved : List Kind :=
  [.fromWord, .whereWord, .andWord, .payload, .header, .withWord, .get, .post, .put, .patch,
    .delete, .basicAuth, .timeout, .comma, .equal, .question]

/-- The spelling of a kind, also used in messages. -/
def word : Kind → String
  | .equal => "="
  | .question => "?"
  | .comma => ","
  | .fromWord => "from"
  | .whereWord => "where"
  | .andWord => "and"
  | .payload => "payload"
  | .header => "header"
  | .withWord => "with"
  | .get => "get"
  | .post => "post"
  | .put => "put"
  | .patch => "patch"
  | .delete => "delete"
  | .basicAuth => "basicauth"
  | .timeout => "timeout"
  | .value => "value"
  | .start => "start"
  | .finish => "EOF"

/-- The name of a kind in reports. -/
def name : Kind → String
  | .equal => "Equal"
  | .question => "Question"
  | .comma => "Comma"
  | .fromWord => "From"
  | .whereWord => "Where"
  | .andWord => "And"
  | .payload => "Payload"
  | .header => "Header"
  | .withWord => "With"
  | .get => "Get"
  | .post => "Post"
  | .put => "Put"
  | .patch => "Patch"
  | .delete => "Delete"
  | .basicAuth => "BasicAuth"
  | .timeout => "Timeout"
  | .value => "Value"
  | .start => "Start"
  | .finish => "Eof"

/-- **The reserved word or symbol with this spelling**; case matters. -/
def ofWord? (text : List Char) : Option Kind :=
  reserved.find? fun kind => kind.word.toList == text

/-- What is found is reserved and has the spelling asked for. -/
theorem word_of_ofWord? {text : List Char} {kind : Kind} (h : ofWord? text = some kind) :
    kind ∈ reserved ∧ kind.word.toList = text :=
  ⟨List.mem_of_find?_eq_some h, by simpa using List.find?_some h⟩

/-- Nothing is found if no reserved word or symbol has the spelling. -/
theorem ofWord?_eq_none_iff {text : List Char} :
    ofWord? text = none ↔ ∀ kind ∈ reserved, kind.word.toList ≠ text := by
  simp [ofWord?]

end Kind

/-- **A token**: its kind and the text that it was written as. -/
structure Token where
  kind : Kind
  literal : String
deriving DecidableEq, Repr

end HttpQuery
