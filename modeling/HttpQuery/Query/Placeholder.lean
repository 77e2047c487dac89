import HttpQuery.Query.Error
/-! # Placeholders

A query may hold places for texts that are given beside it. It is cut into pieces from left to
right: `%s` is a placeholder, `%%` is one percent sign, and all else stands for itself, the
characters up to the next percent sign as well as a percent sign before another character or at the
end. The texts replace the placeholders in order, are as many as these, and are not looked at again.

* `TextReader`: a reader of something at the start of a text; `TextReader.many` repeats it.
* `readPiece`: the piece that a query starts with.
* `pieces`: the pieces of a query.
* `fill`: the text of some pieces.
* `substitute`: the query with its placeholders replaced. -/

namespace HttpQuery

/-- **A reader** of something at the start of a text: what is found there, and the text after it. -/
abbrev TextReader (α : Type) := List Char → Option (α × List Char)

namespace TextReader

variable {α : Type}

/-- A reader of a mark, which stands for `found`. -/
def mark (sign : List Char) (found : α) : TextReader α := fun text =>
  if sign.isPrefixOf text then some (found, text.drop sign.length) else none

/-- A reader of the longest run of certain characters, at least one, which stands for `found`. -/
def run (inRun : Char → Bool) (found : List Char → α) : TextReader α := fun text =>
  match text.takeWhile inRun with
  | [] => none
  | c :: cs => some (found (c :: cs), text.dropWhile inRun)

/-- The first of some readers that finds something. -/
def first (readers : List (TextReader α)) : TextReader α := fun text => readers.findSome? (· text)

/-- **One thing after another**, as long as something is found, and the text that is left then. This
fails where something is found in no characters, since it would be found there for ever. -/
def many (read : TextReader α) (text : List Char) : Option (List α × List Char) :=
  match read text with
  | none => some ([], text)
  | some (found, rest) =>
    if rest.length < text.length then
      (many read rest).map fun (more, left) => (found :: more, left)
    else none
termination_by text.length

end TextReader

/-- A piece of a query. -/
inductive Piece where
  /-- Characters that stand for themselves. -/
  | text (run : List Char)
  | percent
  | placeholder
deriving DecidableEq, Repr

/-- **The piece that a query starts with.** The readers are tried in this order. -/
def readPiece : TextReader Piece :=
  .first [.mark ['%', 's'] .placeholder, .mark ['%', '%'] .percent, .run (· ≠ '%') .text,
    .mark ['%'] (.text ['%'])]

/-- **The pieces of a query**, from left to right; if they could not be read, the whole query would
be one. -/
def pieces (query : List Char) : List Piece :=
  match readPiece.many query with
  | some (read, _) => read
  | none => [.text query]

/-- The number of placeholders in a query. -/
def placeholderCount (query : List Char) : Nat := (pieces query).count .placeholder

/-- The text of some pieces, with the given texts for the placeholders; a placeholder without a text
is empty. -/
def fill : List Piece → List String → List Char
  | [], _ => []
  | .text run :: ps, texts => run ++ fill ps texts
  | .percent :: ps, texts => '%' :: fill ps texts
  | .placeholder :: ps, [] => fill ps []
  | .placeholder :: ps, text :: texts => text.toList ++ fill ps texts

/-- **The query with its placeholders replaced**, if there are as many texts. -/
def substitute (query : String) (texts : List String) : Except CompileError String :=
  if placeholderCount query.toList = texts.length then
    .ok (String.ofList (fill (pieces query.toList) texts))
  else .error (.placeholderCount (placeholderCount query.toList) texts.length)

end HttpQuery
