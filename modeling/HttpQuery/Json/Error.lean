/-! # What can be wrong with a JSON text

A text that is no JSON has a first fault, at a line and a column. Lines count from 1; the column is
the number of bytes, in UTF-8, from the start of the line up to the fault. A fault is found either
at the bytes read so far, or one byte further, at the byte that was looked at and not read. -/

namespace HttpQuery

/-- The causes. -/
inductive JsonFault where
  | endInValue
  | endInList
  | endInObject
  | endInString
  | expectedIdent
  | expectedValue
  | expectedColon
  | expectedListEnd
  | expectedObjectEnd
  | keyNotString
  | trailingComma
  | trailingCharacters
  | invalidNumber
  | numberOutOfRange
  | invalidEscape
  | controlCharacter
  | loneSurrogate
  | unfinishedSurrogate
  | tooDeep
deriving DecidableEq, Repr

/-- The wording of each cause. -/
def JsonFault.message : JsonFault → String
  | .endInValue => "EOF while parsing a value"
  | .endInList => "EOF while parsing a list"
  | .endInObject => "EOF while parsing an object"
  | .endInString => "EOF while parsing a string"
  | .expectedIdent => "expected ident"
  | .expectedValue => "expected value"
  | .expectedColon => "expected `:`"
  | .expectedListEnd => "expected `,` or `]`"
  | .expectedObjectEnd => "expected `,` or `\x7d`"
  | .keyNotString => "key must be a string"
  | .trailingComma => "trailing comma"
  | .trailingCharacters => "trailing characters"
  | .invalidNumber => "invalid number"
  | .numberOutOfRange => "number out of range"
  | .invalidEscape => "invalid escape"
  | .controlCharacter => "control character (\\u0000-\\u001F) found while parsing a string"
  | .loneSurrogate => "lone leading surrogate in hex escape"
  | .unfinishedSurrogate => "unexpected end of hex escape"
  | .tooDeep => "recursion limit exceeded"

/-- A place in a text: the line, from 1, and the number of bytes since its start. -/
structure TextPosition where
  line : Nat := 1
  column : Nat := 0
deriving DecidableEq, Repr

/-- The place after some bytes of the text `rest` that starts here; the end of the text is not
passed. -/
def TextPosition.after (position : TextPosition) : Nat → List Char → TextPosition
  | 0, _ => position
  | _ + 1, [] => position
  | bytes + 1, c :: cs =>
    if c = '\n' then (TextPosition.mk (position.line + 1) 0).after bytes cs
    else if c.utf8Size ≤ bytes + 1 then
      (TextPosition.mk position.line (position.column + c.utf8Size)).after
        (bytes + 1 - c.utf8Size) cs
    else ⟨position.line, position.column + (bytes + 1)⟩
termination_by _ cs => cs.length

/-- **Why and where a text is no JSON.** -/
structure JsonError where
  fault : JsonFault
  position : TextPosition
deriving DecidableEq, Repr

/-- The wording of an error. -/
def JsonError.message (e : JsonError) : String :=
  e.fault.message ++ " at line " ++ toString e.position.line ++ " column " ++
    toString e.position.column

end HttpQuery
