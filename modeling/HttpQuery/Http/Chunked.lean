import HttpQuery.Text.Digits
import HttpQuery.Text.Utf8
/-! # Bodies in chunks

A body may be sent in chunks. Each chunk has a line with its size in hexadecimal digits, perhaps
with an extension, and then its bytes and a line end. A chunk of size zero ends the body; trailer
lines may follow it, and an empty line.

* `writeChunked`: a body as a single chunk.
* `readChunked`: the body of some bytes, or the fault that the reading stops at. -/

namespace HttpQuery

open Text

/-- **Why a body cannot be read.** -/
inductive BodyFault where
  /-- The bytes end within a line or between a chunk and its line end. -/
  | ended
  /-- The bytes end before the body has its size. -/
  | short
  | missingDigit
  | badDigit
  | tooLarge
  | badBlank
  | brokenExtension
  | badSizeEnd
  /-- What follows a chunk is no line end. -/
  | badChunkReturn
  | badChunkEnd
  | badTrailerEnd
  | badEnd
deriving DecidableEq, Repr

/-- The wording of each cause. -/
def BodyFault.message (fault : BodyFault) : String :=
  "request or response body error: error reading a body from connection: " ++
    match fault with
    | .ended => "unexpected EOF during chunk size line"
    | .short => "end of file before message length reached"
    | .missingDigit => "Invalid chunk size line: missing size digit"
    | .badDigit => "Invalid chunk size line: Invalid Size"
    | .tooLarge => "invalid chunk size: overflow"
    | .badBlank => "Invalid chunk size linear white space"
    | .brokenExtension => "invalid chunk extension contains newline"
    | .badSizeEnd => "Invalid chunk size LF"
    | .badChunkReturn => "Invalid chunk body CR"
    | .badChunkEnd => "Invalid chunk body LF"
    | .badTrailerEnd => "Invalid trailer end LF"
    | .badEnd => "Invalid chunk end LF"

/-- What follows a byte that has to come next. -/
def expectByte (b : UInt8) (fault : BodyFault) : Bytes → Except BodyFault Bytes
  | [] => .error .ended
  | c :: rest => if c = b then .ok rest else .error fault

/-- The value of a hexadecimal digit. -/
def hexValue? (b : UInt8) : Option Nat := hexDigitValue? (Char.ofNat b.toNat)

/-- Whether a byte is a hexadecimal digit. -/
def isHexDigit (b : UInt8) : Bool := (hexValue? b).isSome

/-- What follows a line with a size after its digits: perhaps blanks, perhaps an extension, and the
line end. -/
def afterSize (bytes : Bytes) : Except BodyFault Bytes :=
  let blank (b : UInt8) : Bool := b == 32 || b == 9
  match bytes.dropWhile blank with
  | [] => .error .ended
  | b :: rest =>
    if b = 59 then
      match rest.dropWhile fun c => c != 13 && c != 10 with
      | [] => .error .ended
      | c :: rest => if c = 13 then expectByte 10 .badSizeEnd rest else .error .brokenExtension
    else if b = 13 then expectByte 10 .badSizeEnd rest
    else .error (if (bytes.head?.map blank).getD false then .badBlank else .badDigit)

/-- The size of a chunk, and what follows the line of it. -/
def readChunkSize (bytes : Bytes) : Except BodyFault (Nat × Bytes) :=
  let digits := bytes.takeWhile isHexDigit
  match digits, bytes with
  | [], [] => .error .ended
  | [], _ :: _ => .error .missingDigit
  | _, _ =>
    let size := ofDigits 16 (digits.filterMap hexValue?)
    if Nat.pow 2 64 ≤ size then .error .tooLarge
    else (afterSize (bytes.dropWhile isHexDigit)).map fun rest => (size, rest)

/-- Reads trailer lines and the empty line after them; each line has at least one byte. -/
def readTrailers : Nat → Bytes → Except BodyFault Unit
  | 0, _ => .error .ended
  | fuel + 1, bytes =>
    match bytes with
    | [] => .error .ended
    | b :: rest =>
      if b = 13 then (expectByte 10 .badEnd rest).map fun _ => ()
      else do
        let rest ← expectByte 13 .ended (rest.dropWhile (· != 13))
        readTrailers fuel (← expectByte 10 .badTrailerEnd rest)

/-- Reads chunks up to the one of size zero; each has at least one byte. -/
def readChunks : Nat → Bytes → Except BodyFault Bytes
  | 0, _ => .error .ended
  | fuel + 1, bytes => do
    let (size, rest) ← readChunkSize bytes
    if size = 0 then
      readTrailers (rest.length + 1) rest
      return []
    else
      let chunk := rest.take size
      if chunk.length < size then throw .short
      else
        let after ← expectByte 13 .badChunkReturn (rest.drop size)
        let after ← expectByte 10 .badChunkEnd after
        return chunk ++ (← readChunks fuel after)

/-- **The body of bytes in chunks.** What follows the end of the body is left out. -/
def readChunked (bytes : Bytes) : Except BodyFault Bytes := readChunks (bytes.length + 1) bytes

/-- A line end. -/
def lineEnd : Bytes := [13, 10]

/-- The hexadecimal digits of a number. -/
def hexDigits (n : Nat) : Bytes := utf8Bytes (String.ofList ((Nat.toDigits 16 n).map Char.toUpper))

/-- **A body as a single chunk**, with the end of the body. -/
def writeChunked (body : Bytes) : Bytes :=
  hexDigits body.length ++ lineEnd ++ body ++ lineEnd ++ hexDigits 0 ++ lineEnd ++ lineEnd

end HttpQuery
