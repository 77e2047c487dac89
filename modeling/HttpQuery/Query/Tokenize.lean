import HttpQuery.Query.Token
import HttpQuery.Text.Blank
import HttpQuery.Text.Lowercase
/-! # From text to tokens

A query is lower-cased and cut into fields. A field that spells a reserved word or symbol is that
token. Any other field is a value: one single quote is removed at each end, and then one comma at
each end is split off as a token of its own. Every text has tokens; nothing is refused.

* `Token.ofField`: the tokens of one field, between one and three of them.
* `tokenize`: the tokens of a query. -/

namespace HttpQuery

open Text

/-- The character that may stand around a value. -/
abbrev singleQuote : Char := '\x27'

/-- Without one leading `mark`, if there is one. -/
def withoutLeading (mark : Char) : List Char → List Char
  | [] => []
  | c :: cs => if c = mark then cs else c :: cs

/-- Without one trailing `mark`, if there is one. -/
def withoutTrailing (mark : Char) (text : List Char) : List Char :=
  if text.getLast? = some mark then text.dropLast else text

/-- A text without the single quotes around it. -/
def unquote (field : List Char) : List Char :=
  withoutTrailing singleQuote (withoutLeading singleQuote field)

namespace Token

/-- The token of a comma. -/
def comma : Token := ⟨.comma, ","⟩

/-- The token of a value. -/
def value (text : List Char) : Token := ⟨.value, String.ofList text⟩

/-- A value and the comma that may follow it directly. -/
def ofTrailing (text : List Char) : List Token :=
  if text.getLast? = some ',' then [value text.dropLast, comma] else [value text]

/-- A value and the commas that may stand directly before and after it. -/
def ofListed : List Char → List Token
  | ',' :: text => comma :: ofTrailing text
  | text => ofTrailing text

/-- **The tokens of a field.** -/
def ofField (field : List Char) : List Token :=
  match Kind.ofWord? field with
  | some kind => [⟨kind, String.ofList field⟩]
  | none => ofListed (unquote field)

end Token

/-- **The tokens of a query.** -/
def tokenize (query : String) : List Token :=
  (fields (lowercase query.toList)).flatMap Token.ofField

end HttpQuery
