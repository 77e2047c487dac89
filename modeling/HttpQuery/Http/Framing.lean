import HttpQuery.Http.Chunked
import HttpQuery.Http.Head
import HttpQuery.Text.Numeral
/-! # Where a body ends

The headers of a message tell where its body ends: after a number of bytes, with the last chunk, or,
for a response, with the connection. Some responses have no body whatever their headers say.

* `Head.bodyEnd?`: where the body of a response ends; `none` if its headers contradict themselves.
* `readBody`: the body among the bytes after a head.
* `frameBody`: the headers and the body of a request, made to agree. -/

namespace HttpQuery

open Text

/-- A text without the blanks around it. -/
def trimBlanks (text : List Char) : List Char :=
  let blank (c : Char) : Bool := c = ' ' || c = '\t'
  ((text.dropWhile blank).reverse.dropWhile blank).reverse

/-- The number of bytes that a text declares: digits only, and less than 2^64. -/
def lengthOfText? (text : List Char) : Option Nat :=
  if text = [] then none else (readDigits 0 text).toOption

/-- **The number of bytes that some values declare.** A value may be a list with commas; all numbers
have to be the same. -/
def declaredLength? (values : List Bytes) : Option Nat := do
  let texts ← values.mapM visibleText?
  let parts := texts.flatMap fun text => text.toList.splitOn ','
  let lengths ← parts.mapM fun part => lengthOfText? (trimBlanks part)
  match lengths with
  | [] => none
  | n :: others => if others.all (· = n) then some n else none

/-- Whether chunks are the last one of the encodings that some values list. -/
def endsInChunks (values : List Bytes) : Bool :=
  match values.getLast?.bind visibleText? with
  | none => false
  | some text =>
    let last := (text.toList.splitOn ',').getLast?.getD []
    String.ofList ((trimBlanks last).map Char.toLower) == "chunked"

/-! ### Responses -/

/-- **Where a body ends.** -/
inductive BodyEnd where
  /-- There is no body. -/
  | absent
  | sized (length : Nat)
  | chunked
  | withConnection
deriving DecidableEq, Repr

/-- The largest number of bytes that a response may declare. -/
def maxBodyLength : Nat := Nat.pow 2 64 - 3

namespace Head

/-- Whether a response only announces another one. -/
def isInformational (head : Head) : Bool :=
  100 ≤ head.status && head.status ≤ 199 && head.status != 101

/-- **Where the body of a response ends.** Chunks win over a declared length, and are unknown to the
older version. -/
def bodyEnd? (head : Head) : Option BodyEnd :=
  let encodings := head.headers.values "transfer-encoding"
  let lengths := head.headers.values "content-length"
  if [101, 204, 304].contains head.status then some .absent
  else if encodings ≠ [] then
    if head.minorVersion = 0 then none
    else if endsInChunks encodings then some .chunked
    else some .withConnection
  else if lengths ≠ [] then
    match declaredLength? lengths with
    | some n => if n ≤ maxBodyLength then some (.sized n) else none
    | none => none
  else some .withConnection

end Head

/-- **The body among the bytes after a head.** -/
def readBody (bodyEnd : BodyEnd) (bytes : Bytes) : Except BodyFault Bytes :=
  match bodyEnd with
  | .absent => .ok []
  | .sized n => if bytes.length < n then .error .short else .ok (bytes.take n)
  | .chunked => readChunked bytes
  | .withConnection => .ok bytes

/-! ### Requests -/

/-- Put a text at the end of the last value. -/
def extendLast (more : Bytes) : List Bytes → List Bytes
  | [] => [more]
  | [value] => [value ++ more]
  | value :: values => value :: extendLast more values

/-- **The headers and the body of a request, made to agree.** If an encoding is set, the body is
sent in chunks, and the encoding is made to say so. Otherwise a valid length that is set is kept,
and no more of the body is sent. Otherwise the length is set. -/
def frameBody (headers : Headers) (body : Bytes) : Headers × Bytes :=
  let encodings := headers.values "transfer-encoding"
  let declared := declaredLength? (headers.values "content-length")
  if encodings ≠ [] then
    let encodings :=
      if endsInChunks encodings then encodings else extendLast (utf8Bytes ", chunked") encodings
    let others := headers.filter fun h =>
      h.1 ≠ "transfer-encoding" ∧ (h.1 ≠ "content-length" ∨ declared.isNone)
    (others ++ encodings.map ("transfer-encoding", ·), writeChunked body)
  else
    match declared with
    | some n => (headers, body.take n)
    | none => (headers.set "content-length" (utf8Bytes (toString body.length)), body)

end HttpQuery
