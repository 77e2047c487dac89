import HttpQuery.Query.Graph
/-! # The grammar of queries

The grammar is a table of *places*: each place accepts tokens of one kind, may fire an action, and
names the places that may follow it.

```text
query   := [ value ( , value )* ] FROM url [ WHERE clause ( AND clause )* ] ( WITH option )*
clause  := HEADER key = value | key = value | PAYLOAD = ( ? | value )
option  := GET | POST | PUT | PATCH | DELETE
         | BASICAUTH login , password
         | TIMEOUT seconds
```

The leading list of names is written in the header-selection mode and only there. The places that
follow one place accept different kinds, so a reader never has a choice.

* `Place.rule`: the row of the table for a place.
* `grammar`: the transition graph of the table. -/

namespace HttpQuery

/-- **The two ways a query starts.** -/
inductive Mode where
  /-- With the word `from`. -/
  | body
  /-- With the list of the response headers to extract. -/
  | headerSelection
deriving DecidableEq, Repr

namespace Mode

instance : Inhabited Mode := ⟨.body⟩

/-- The name of a mode in reports. -/
def name : Mode → String
  | .body => "Body"
  | .headerSelection => "HeaderSelection"

end Mode

/-- **The places of a query**: what a token can be, by where it stands. -/
inductive Place where
  | start
  | outputHeader
  | outputComma
  | source
  | url
  | finish
  | clauses
  | nextClause
  | header
  | headerKey
  | headerEqual
  | headerValue
  | jsonKey
  | jsonEqual
  | jsonValue
  | payload
  | payloadEqual
  | payloadPlaceholder
  | payloadValue
  | option
  | get
  | post
  | put
  | patch
  | delete
  | basicAuth
  | basicLogin
  | basicComma
  | basicPassword
  | timeout
  | timeoutValue
deriving DecidableEq, Repr

/-- A row of the table: the kind that a place accepts, its action, and the places after it in order
of priority. -/
structure Rule where
  kind : Kind
  action : Option Action
  next : List Place
deriving DecidableEq, Repr

namespace Place

/-- All places, in the order of their indices. -/
def all : Vector Place 31 :=
  #v[.start, .outputHeader, .outputComma, .source, .url, .finish, .clauses, .nextClause, .header,
    .headerKey, .headerEqual, .headerValue, .jsonKey, .jsonEqual, .jsonValue, .payload,
    .payloadEqual, .payloadPlaceholder, .payloadValue, .option, .get, .post, .put, .patch, .delete,
    .basicAuth, .basicLogin, .basicComma, .basicPassword, .timeout, .timeoutValue]

/-- The index of a place. -/
def index (place : Place) : Fin 31 := ⟨place.ctorIdx, by cases place <;> decide⟩

/-- The list of all places is in the order of the indices. -/
theorem all_index (place : Place) : all[place.index] = place := by cases place <;> rfl

/-- The places where a clause can start. -/
def clauseStarts : List Place := [.header, .jsonKey, .payload]

/-- The places after a clause. -/
def afterClause : List Place := [.option, .nextClause, .finish]

/-- The places after an option. -/
def afterOption : List Place := [.finish, .option]

/-- The places where an option can start. -/
def optionStarts : List Place := [.post, .get, .put, .patch, .delete, .basicAuth, .timeout]

/-- **The row of a place.** The modes differ only in what follows the start. -/
def rule (mode : Mode) : Place → Rule
  | .start =>
    match mode with
    | .body => ⟨.start, none, [.source]⟩
    | .headerSelection => ⟨.start, none, [.outputHeader]⟩
  | .outputHeader => ⟨.value, some .appendOutputHeader, [.outputComma, .source]⟩
  | .outputComma => ⟨.comma, none, [.outputHeader]⟩
  | .source => ⟨.fromWord, none, [.url]⟩
  | .url => ⟨.value, some .setUrl, [.finish, .clauses, .option]⟩
  | .finish => ⟨.finish, none, []⟩
  | .clauses => ⟨.whereWord, none, clauseStarts⟩
  | .nextClause => ⟨.andWord, none, clauseStarts⟩
  | .header => ⟨.header, none, [.headerKey]⟩
  | .headerKey => ⟨.value, some .appendHeaderKey, [.headerEqual]⟩
  | .headerEqual => ⟨.equal, none, [.headerValue]⟩
  | .headerValue => ⟨.value, some .appendHeaderValue, afterClause⟩
  | .jsonKey => ⟨.value, some .appendJsonKey, [.jsonEqual]⟩
  | .jsonEqual => ⟨.equal, none, [.jsonValue]⟩
  | .jsonValue => ⟨.value, some .appendJsonValue, afterClause⟩
  | .payload => ⟨.payload, none, [.payloadEqual]⟩
  | .payloadEqual => ⟨.equal, none, [.payloadPlaceholder, .payloadValue]⟩
  | .payloadPlaceholder => ⟨.question, some .setPayloadFlag, afterClause⟩
  | .payloadValue => ⟨.value, some .setPayloadFlag, afterClause⟩
  | .option => ⟨.withWord, none, optionStarts⟩
  | .get => ⟨.get, some (.setMethod .get), afterOption⟩
  | .post => ⟨.post, some (.setMethod .post), afterOption⟩
  | .put => ⟨.put, some (.setMethod .put), afterOption⟩
  | .patch => ⟨.patch, some (.setMethod .patch), afterOption⟩
  | .delete => ⟨.delete, some (.setMethod .delete), afterOption⟩
  | .basicAuth => ⟨.basicAuth, none, [.basicLogin]⟩
  | .basicLogin => ⟨.value, some .setBasicLogin, [.basicComma]⟩
  | .basicComma => ⟨.comma, none, [.basicPassword]⟩
  | .basicPassword => ⟨.value, some .setBasicPassword, afterOption⟩
  | .timeout => ⟨.timeout, none, [.timeoutValue]⟩
  | .timeoutValue => ⟨.value, some .setTimeoutLiteral, afterOption⟩

/-- The vertex of a place. -/
def vertex (mode : Mode) (place : Place) : Vertex 31 :=
  let row := place.rule mode
  ⟨row.kind, row.next.map index, row.action⟩

end Place

/-- **The transition graph of the grammar.** -/
def grammar (mode : Mode) : Graph 31 :=
  ⟨Place.all.map (Place.vertex mode), Place.start.index⟩

/-- The vertex with a place's index is that of its row. -/
theorem grammar_vertex (mode : Mode) (place : Place) :
    (grammar mode).vertex place.index = place.vertex mode := by
  have h := Place.all_index place
  simp only [Fin.getElem_fin] at h
  simp [grammar, Graph.vertex, h]

end HttpQuery
