import HttpQuery.Toml.Scalar
/-! # TOML documents

A document is a list of lines: keys with values, headers of tables, and headers of repeated tables.
It is read line by line; a value may take up several lines. The keys after a header belong to its
table, which is put in its place when the next header comes. Arrays and tables in braces nest less
than 80 deep, and a key has fewer than 80 parts.

* `tomlDocument?`: the entries of a document; `none` if the text is none. -/

namespace HttpQuery

open Text

/-- A result and what is left of a text, unless the text is wrong. -/
abbrev TomlReader (α : Type) := List Char → Option (α × List Char)

/-- Blanks within a line. -/
def isTomlBlank (c : Char) : Bool := c = ' ' || c = '\t'

/-- What follows the blanks within a line. -/
def skipTomlBlanks (text : List Char) : List Char := text.dropWhile isTomlBlank

/-- Characters that cannot stand in texts and comments. -/
def isTomlControl (c : Char) : Bool := (c.toNat < 0x20 && c != '\t') || c == '\x7F'

/-- What follows a comment, if there is one, and the end of the line. -/
def endOfLine? (text : List Char) : Option (List Char) :=
  let text := skipTomlBlanks text
  let text := match text with
    | '#' :: cs => cs.dropWhile (!isTomlControl ·)
    | cs => cs
  match text with
  | [] => some []
  | '\n' :: cs => some cs
  | '\r' :: '\n' :: cs => some cs
  | _ => none

/-- What follows blanks, line ends and comments; `inComment` tells whether a comment is being
skipped, which must end with its line. -/
def skipTomlLines (inComment : Bool) : List Char → Option (List Char)
  | [] => some []
  | '\n' :: cs => skipTomlLines false cs
  | '\r' :: '\n' :: cs => skipTomlLines false cs
  | c :: cs =>
    if inComment then if isTomlControl c then none else skipTomlLines true cs
    else if c = '#' then skipTomlLines true cs
    else if isTomlBlank c then skipTomlLines false cs
    else some (c :: cs)

/-! ### Texts -/

/-- The character of some hexadecimal digits, if it is one. -/
def tomlChar? (digits : List Char) : Option Char := do
  let n := ofDigits 16 (← digits.mapM (digitInBase? 16))
  if n < 0xD800 ∨ (0xDFFF < n ∧ n < 0x110000) then some (Char.ofNat n) else none

/-- The character of an escape of one letter. -/
def escapeLetter? (c : Char) : Option Char :=
  [('b', '\x08'), ('t', '\t'), ('n', '\n'), ('f', '\x0C'), ('r', '\r'), ('"', '"'),
    ('\\', '\\')].lookup c

/-- What follows a line end and any blanks and line ends after it. -/
def afterLineEnd? (text : List Char) : Option (List Char) :=
  match skipTomlBlanks text with
  | '\n' :: cs => some (skipBlankLines cs)
  | '\r' :: '\n' :: cs => some (skipBlankLines cs)
  | _ => none
where
  /-- What follows blanks and line ends. -/
  skipBlankLines : List Char → List Char
    | [] => []
    | ' ' :: cs => skipBlankLines cs
    | '\t' :: cs => skipBlankLines cs
    | '\n' :: cs => skipBlankLines cs
    | '\r' :: '\n' :: cs => skipBlankLines cs
    | cs => cs

/-- An escape after its backslash: the character, or nothing where a line is continued. -/
def tomlEscape? (acrossLines : Bool) : TomlReader (List Char)
  | [] => none
  | 'u' :: a :: b :: c :: d :: cs => (tomlChar? [a, b, c, d]).map fun x => ([x], cs)
  | 'U' :: a :: b :: c :: d :: e :: f :: g :: h :: cs =>
    (tomlChar? [a, b, c, d, e, f, g, h]).map fun x => ([x], cs)
  | c :: cs =>
    match escapeLetter? c with
    | some x => some ([x], cs)
    | none => if acrossLines then (afterLineEnd? (c :: cs)).map fun rest => ([], rest) else none

/-- The rest of a text on one line; `mark` ends it, and `escapes` tells whether a backslash is an
escape. -/
def tomlText (mark : Char) (escapes : Bool) : Nat → List Char → TomlReader String
  | 0, _, _ => none
  | _ + 1, _, [] => none
  | fuel + 1, read, c :: cs =>
    if c = mark then some (String.ofList read.reverse, cs)
    else if c = '\\' ∧ escapes then do
      let (xs, rest) ← tomlEscape? false cs
      tomlText mark escapes fuel (xs.reverse ++ read) rest
    else if isTomlControl c then none
    else tomlText mark escapes fuel (c :: read) cs

/-- The rest of a text of several lines; three marks end it, and one or two more of them right
before these belong to it. -/
def tomlLines (mark : Char) (escapes : Bool) : Nat → List Char → TomlReader String
  | 0, _, _ => none
  | _ + 1, _, [] => none
  | fuel + 1, read, c :: cs =>
    if c = mark then
      let marks := ((c :: cs).takeWhile (· = mark)).length
      if marks < 3 then tomlLines mark escapes fuel (c :: read) cs
      else
        let inside := min (marks - 3) 2
        some (String.ofList (read.reverse ++ List.replicate inside mark),
          (c :: cs).drop (inside + 3))
    else if c = '\\' ∧ escapes then do
      let (xs, rest) ← tomlEscape? true cs
      tomlLines mark escapes fuel (xs.reverse ++ read) rest
    else if c = '\n' then tomlLines mark escapes fuel (c :: read) cs
    else if c = '\r' then
      match cs with
      | '\n' :: ds => tomlLines mark escapes fuel ('\n' :: read) ds
      | _ => none
    else if isTomlControl c then none
    else tomlLines mark escapes fuel (c :: read) cs

/-- The rest of a text after its first mark: of several lines if two more marks follow. -/
def tomlStringAfter (mark : Char) (escapes : Bool) (text : List Char) :
    Option (String × List Char) :=
  if text.take 2 = [mark, mark] then
    let body := match text.drop 2 with
      | '\n' :: cs => cs
      | '\r' :: '\n' :: cs => cs
      | cs => cs
    tomlLines mark escapes (body.length + 1) [] body
  else tomlText mark escapes (text.length + 1) [] text

/-- A text in double marks, in which a backslash is an escape, or in single ones. -/
def tomlString : TomlReader String
  | '"' :: cs => tomlStringAfter '"' true cs
  | '\x27' :: cs => tomlStringAfter '\x27' false cs
  | _ => none

/-! ### Keys -/

/-- The characters of a key without marks. -/
def isBareKeyChar (c : Char) : Bool := c.isAlphanum || c == '-' || c == '_'

/-- A part of a key: bare, or a text in marks on one line. -/
def keyPart (text : List Char) : Option (String × List Char) :=
  match text with
  | '"' :: cs => tomlText '"' true (cs.length + 1) [] cs
  | '\x27' :: cs => tomlText '\x27' false (cs.length + 1) [] cs
  | _ =>
    let bare := text.takeWhile isBareKeyChar
    if bare = [] then none else some (String.ofList bare, text.dropWhile isBareKeyChar)

/-- The parts of a key, with dots between them. -/
def keyParts : Nat → TomlReader (List String)
  | 0, _ => none
  | fuel + 1, text => do
    let (part, rest) ← keyPart (skipTomlBlanks text)
    match skipTomlBlanks rest with
    | '.' :: cs =>
      let (parts, rest) ← keyParts fuel cs
      return (part :: parts, rest)
    | cs => return ([part], cs)

/-- The number that the parts of a key and the depth of nested values stay below. -/
def tomlLimit : Nat := 80

/-- A key: the path before its last part, and the last part. -/
def tomlKey (text : List Char) : Option ((List String × String) × List Char) := do
  let (parts, rest) ← keyParts (text.length + 1) text
  let last ← parts.getLast?
  if parts.length < tomlLimit then some ((parts.dropLast, last), rest) else none

/-! ### Values -/

/-- The characters of a number, a word or a date. -/
def isScalarChar (c : Char) : Bool := c.isAlphanum || ['+', '-', '_', '.', ':'].contains c

/-- A number, a word or a date; between a date and a time one blank may stand. -/
def scalarValue (text : List Char) : Option (TomlItem × List Char) :=
  let first := text.takeWhile isScalarChar
  let rest := text.dropWhile isScalarChar
  let second := (rest.drop 1).takeWhile isScalarChar
  if (dateAtStart? first).map (·.2) = some [] ∧ rest.head? = some ' ' ∧ second ≠ [] then
    (tomlScalar? (first ++ ' ' :: second)).map fun item =>
      (item, (rest.drop 1).dropWhile isScalarChar)
  else (tomlScalar? first).map fun item => (item, rest)

mutual

/-- A value. `depth` is the number of brackets that may still be opened; `fuel` bounds the number of
turns, of which every second one reads a character. -/
def tomlValue : Nat → Nat → TomlReader TomlItem
  | 0, _, _ => none
  | fuel + 1, depth, text =>
    match text with
    | '"' :: _ => (tomlString text).map fun p => (.string p.1, p.2)
    | '\x27' :: _ => (tomlString text).map fun p => (.string p.1, p.2)
    | '[' :: cs => if depth = 0 then none else arrayItems fuel (depth - 1) [] cs
    | '\x7b' :: cs =>
      if depth = 0 then none
      else
        match skipTomlBlanks cs with
        | '\x7d' :: rest => some (.inline [], rest)
        | rest => inlineEntries fuel (depth - 1) {} rest
    | _ => scalarValue text

/-- The items of an array from here on; `read` holds those before, the last one first. -/
def arrayItems : Nat → Nat → List TomlItem → TomlReader TomlItem
  | 0, _, _, _ => none
  | fuel + 1, depth, read, text => do
    let text ← skipTomlLines false text
    match text with
    | ']' :: rest => return (.array read.reverse, rest)
    | _ =>
      let (item, rest) ← tomlValue fuel depth text
      let rest ← skipTomlLines false rest
      match rest with
      | ',' :: rest => arrayItems fuel depth (item :: read) rest
      | ']' :: rest => return (.array (item :: read).reverse, rest)
      | _ => none

/-- The entries of a table in braces from here on. -/
def inlineEntries : Nat → Nat → TomlTable → TomlReader TomlItem
  | 0, _, _, _ => none
  | fuel + 1, depth, read, text => do
    let ((path, key), rest) ← tomlKey text
    match rest with
    | '=' :: rest =>
      let (item, rest) ← tomlValue fuel depth (skipTomlBlanks rest)
      let read ← read.assign path key item
      match skipTomlBlanks rest with
      | ',' :: rest => inlineEntries fuel depth read rest
      | '\x7d' :: rest => return (.inline read.entries, rest)
      | _ => none
    | _ => none

end

/-! ### Lines -/

/-- The state of the reading: the tables in their places, and the table of the last header, which is
not in its place yet. -/
structure TomlState where
  root : TomlTable := {}
  current : TomlTable := {}
  path : List String := []
  repeated : Bool := false

namespace TomlState

/-- Put the table of the last header in its place. -/
def close (s : TomlState) : Option TomlTable :=
  match s.path.getLast? with
  | none => some s.current
  | some key =>
    s.root.descend false
      (fun parent =>
        if s.repeated then
          match parent.find? key with
          | none => some (parent.put key (.tables [s.current.entries]))
          | some (.tables elements) =>
            some (parent.put key (.tables (elements ++ [s.current.entries])))
          | some _ => none
        else
          match parent.find? key with
          | none => some (parent.put key s.current.item)
          | some (.table true _ _) => some (parent.put key s.current.item)
          | some _ => none)
      s.path.dropLast

/-- The table of a header. It may have been opened on the way to another table, but not be written
before. -/
def openTable (s : TomlState) (path : List String) (key : String) : Option TomlState := do
  let root ← s.close
  let parent ← root.at? path
  match parent.find? key with
  | none =>
    let root ← root.descend false some path
    return { root := root, path := path ++ [key] }
  | some (.table true false entries) =>
    let root ← root.descend false (fun t => some (t.erase key)) path
    return { root := root, current := { entries := entries }, path := path ++ [key] }
  | some _ => none

/-- The next table of a repeated header. -/
def openRepeated (s : TomlState) (path : List String) (key : String) : Option TomlState := do
  let root ← s.close
  let parent ← root.at? path
  match parent.find? key with
  | none =>
    let root ← root.descend false some path
    return { root := root, path := path ++ [key], repeated := true }
  | some (.tables _) => return { root := root, path := path ++ [key], repeated := true }
  | some _ => none

/-- A key and its value. -/
def assign (s : TomlState) (path : List String) (key : String) (item : TomlItem) :
    Option TomlState := do
  let current ← s.current.assign path key item
  return { s with current := current }

end TomlState

/-- Reads one line, which starts after its blanks: a header, a key with its value, or neither. -/
def tomlLine (s : TomlState) (text : List Char) : Option (TomlState × List Char) :=
  match text with
  | '[' :: '[' :: cs => do
    let ((path, key), rest) ← tomlKey cs
    match rest with
    | ']' :: ']' :: rest =>
      let rest ← endOfLine? rest
      let s ← s.openRepeated path key
      return (s, rest)
    | _ => none
  | '[' :: cs => do
    let ((path, key), rest) ← tomlKey cs
    match rest with
    | ']' :: rest =>
      let rest ← endOfLine? rest
      let s ← s.openTable path key
      return (s, rest)
    | _ => none
  | [] => some (s, [])
  | '#' :: _ => (endOfLine? text).map (s, ·)
  | '\n' :: _ => (endOfLine? text).map (s, ·)
  | '\r' :: _ => (endOfLine? text).map (s, ·)
  | _ => do
    let ((path, key), rest) ← tomlKey text
    match rest with
    | '=' :: rest =>
      let (item, rest) ← tomlValue (2 * rest.length + 2) (tomlLimit - 1) (skipTomlBlanks rest)
      let rest ← endOfLine? rest
      let s ← s.assign path key item
      return (s, rest)
    | _ => none

/-- Reads lines until none is left; each line has at least one character. -/
def readTomlLines : Nat → TomlState → List Char → Option TomlState
  | 0, _, _ => none
  | fuel + 1, s, text =>
    match skipTomlBlanks text with
    | [] => some s
    | cs => do
      let (s, rest) ← tomlLine s cs
      readTomlLines fuel s rest

/-- **The entries of a document.** A byte order mark at the start is skipped. -/
def tomlDocument? (text : String) : Option (List (String × TomlItem)) := do
  let chars := match text.toList with
    | '\uFEFF' :: cs => cs
    | cs => cs
  let s ← readTomlLines (chars.length + 1) {} chars
  let root ← s.close
  return root.entries

end HttpQuery
