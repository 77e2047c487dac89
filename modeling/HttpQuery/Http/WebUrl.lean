import HttpQuery.Http.Host
import HttpQuery.Http.Url
/-! # Reading URLs

A reader of URLs by the rules of the web. The schemes of the web are *special*: for them a backslash
is a slash, a path is never empty, and the host is a name or an address of numbers. Only URLs with a
host are read. The hosts that are left out, addresses in brackets and international names, are
refused, although they are hosts: a client that meets them needs another reader.

* `Url.parse?`: the URL of a text, if it is one and has a host that is read. -/

namespace HttpQuery

open Text

/-! ### What is escaped -/

/-- The characters escaped in a fragment. -/
def inFragmentSet (c : Char) : Bool := [' ', '"', '<', '>', '\x60'].contains c

/-- The characters escaped in a path. -/
def inPathSet (c : Char) : Bool := inFragmentSet c || ['#', '?', '\x7b', '\x7d'].contains c

/-- The characters escaped in a user and a password. -/
def inUserSet (c : Char) : Bool :=
  inPathSet c || ['/', ':', ';', '=', '@', '[', '\\', ']', '^', '|'].contains c

/-- The characters escaped in a query; the single quote only for special schemes. -/
def inQuerySet (special : Bool) (c : Char) : Bool :=
  [' ', '"', '#', '<', '>'].contains c || (special && c == '\x27')

/-! ### The scheme -/

/-- The default port of a special scheme. -/
def defaultPort? (scheme : String) : Option Nat :=
  [("http", 80), ("https", 443), ("ws", 80), ("wss", 443), ("ftp", 21)].lookup scheme

/-- Whether a scheme is one of those with special rules. -/
def isSpecialScheme (scheme : String) : Bool := (defaultPort? scheme).isSome || scheme == "file"

/-- The characters of a scheme after the first. -/
def isSchemeChar (c : Char) : Bool := c.isAlphanum || c == '+' || c == '-' || c == '.'

/-- The scheme of a text, in lower case, and what follows its colon. -/
def splitScheme? (text : List Char) : Option (String × List Char) :=
  match text with
  | [] => none
  | c :: _ =>
    if c.isAlpha then
      match text.dropWhile isSchemeChar with
      | ':' :: rest => some (String.ofList ((text.takeWhile isSchemeChar).map Char.toLower), rest)
      | _ => none
    else none

/-! ### User, host and port -/

/-- Whether a character ends the part of a URL between the slashes and the path. -/
def endsAuthority (special : Bool) (c : Char) : Bool :=
  c == '/' || c == '?' || c == '#' || (special && c == '\\')

/-- The text up to the last `mark`, if there is one, and the text after it. -/
def splitLast (mark : Char) (text : List Char) : Option (List Char) × List Char :=
  match text with
  | [] => (none, [])
  | c :: cs =>
    match splitLast mark cs with
    | (some before, after) => (some (c :: before), after)
    | (none, after) => if c = mark then (some [], after) else (none, c :: after)

/-- The user and the password before the last `@`; an empty password is none. -/
def readUser (text : List Char) : String × Option String :=
  let encode (part : List Char) : String := String.ofList (percentEncode inUserSet part)
  match text.dropWhile (· ≠ ':') with
  | _ :: c :: cs => (encode (text.takeWhile (· ≠ ':')), some (encode (c :: cs)))
  | _ => (encode (text.takeWhile (· ≠ ':')), none)

/-- The host at the start of a text, and what follows it. A colon ends it unless it is `enclosed`,
as it is within brackets. -/
def splitHost (special : Bool) (enclosed : Bool) : List Char → List Char × List Char
  | [] => ([], [])
  | c :: cs =>
    if endsAuthority special c || (c == ':' && !enclosed) then ([], c :: cs)
    else
      let (host, rest) := splitHost special (c == '[' || (enclosed && c != ']')) cs
      (c :: host, rest)

/-- The port after the host, and what follows it; a default port is not kept. -/
def readPort? (default : Option Nat) (text : List Char) : Option (Option Nat × List Char) :=
  match text with
  | ':' :: rest => do
    let digits := rest.takeWhile Char.isDigit
    let after := rest.dropWhile Char.isDigit
    let port ← valueInBase 10 digits
    if 65535 < port then none
    else
      let port := if digits = [] ∨ default = some port then none else some port
      match after with
      | [] => some (port, [])
      | c :: _ => if endsAuthority true c then some (port, after) else none
  | _ => some (none, text)

/-! ### The path -/

/-- Whether a segment stands for the one that holds it. -/
def isSingleDot (segment : String) : Bool := [".", "%2e", "%2E"].contains segment

/-- Whether a segment takes back the one before it. -/
def isDoubleDot (segment : String) : Bool :=
  ["..", "%2e%2e", "%2e%2E", "%2E%2e", "%2E%2E", "%2e.", "%2E.", ".%2e", ".%2E"].contains segment

/-- Whether a text is the letter of a drive. -/
def isDriveLetter (segment : String) : Bool :=
  match segment.toList with
  | [c, d] => c.isAlpha && (d == ':' || d == '|')
  | _ => false

/-- The segments so far, the last one first, without the last one; in a path of files the letter of
a drive stays. -/
def takeBack (ofFiles : Bool) : List String → List String
  | [] => []
  | segment :: read => if ofFiles && isDriveLetter segment then segment :: read else read

/-- The characters that are left out of a URL wherever they stand. -/
def isUrlGap (c : Char) : Bool := c = '\t' || c = '\n' || c = '\r'

/-- A text without the characters that are left out. -/
def withoutGaps (text : List Char) : List Char := text.filter (!isUrlGap ·)

/-- The printed form of a segment. -/
def segmentText (segment : List Char) : String :=
  String.ofList (percentEncode inPathSet (withoutGaps segment))

/-- The letter of a drive with its colon, and the rest of the segment, if there is a rest and a
character between them is left out. -/
def splitAtGap? (segment : List Char) : Option (String × String) :=
  match segment.dropWhile isUrlGap with
  | [] => none
  | letter :: rest =>
    match rest.dropWhile isUrlGap with
    | ':' :: gap :: rest =>
      if letter.isAlpha && isUrlGap gap && withoutGaps rest ≠ [] then
        some (String.ofList [letter, ':'], segmentText rest)
      else none
    | _ => none

/-- The segments of a path with the dots resolved; `read` holds the segments so far, the last one
first. A path that ends in dots ends with a slash. A path of files (`ofFiles`) does not start with
the letter of a drive, since it would have no host, unless a left-out character cuts the letter off
from the rest of its segment, which then is a segment of its own, even if it is dots. -/
def resolveDots? (ofFiles : Bool) (read : List String) : List (List Char) → Option (List String)
  | [] => some read.reverse
  | raw :: segments =>
    let segment := segmentText raw
    let close (read : List String) : List String := if segments = [] then "" :: read else read
    let first := ofFiles && read.isEmpty
    match if first then splitAtGap? raw else none with
    | some (letter, rest) => resolveDots? ofFiles [rest, letter] segments
    | none =>
      if isDoubleDot segment then resolveDots? ofFiles (close (takeBack ofFiles read)) segments
      else if isSingleDot segment then resolveDots? ofFiles (close read) segments
      else if first && isDriveLetter segment then none
      else resolveDots? ofFiles (segment :: read) segments

/-- The text of a path: a slash before each segment. -/
def pathText (segments : List String) : String := String.join (segments.map ("/" ++ ·))

/-- The segments of a path before the dots are resolved. -/
def rawSegments (special : Bool) (text : List Char) : List (List Char) :=
  let slashed := if special then text.map fun c => if c = '\\' then '/' else c else text
  let body := match slashed.dropWhile isUrlGap with
    | '/' :: cs => cs
    | cs => cs
  body.splitOn '/'

/-- The path of a text. Only other schemes may have an empty one. A path of files starts with one
slash. -/
def readPath? (scheme : String) (text : List Char) : Option String := do
  let special := isSpecialScheme scheme
  if withoutGaps text = [] ∧ !special then return ""
  else
    let segments ← resolveDots? (scheme == "file") [] (rawSegments special text)
    if scheme = "file" then
      let kept := segments.dropWhile (· = "")
      return pathText (if kept = [] then [""] else kept)
    else return pathText segments

/-! ### The whole -/

/-- A text without the blanks and controls around it. -/
def trimUrl (text : List Char) : List Char :=
  let outside (c : Char) : Bool := c.toNat ≤ 0x20
  ((text.dropWhile outside).reverse.dropWhile outside).reverse

/-- What follows the first `n` characters that are not left out. -/
def dropCounted : Nat → List Char → List Char
  | 0, text => text
  | _ + 1, [] => []
  | n + 1, c :: cs => if isUrlGap c then dropCounted (n + 1) cs else dropCounted n cs

/-- What stands before the first `mark`, and what stands after it if there is one. -/
def splitFirst (mark : Char) (text : List Char) : List Char × Option (List Char) :=
  match text.dropWhile (· ≠ mark) with
  | [] => (text, none)
  | _ :: after => (text.takeWhile (· ≠ mark), some after)

/-- The part of a text after the slashes before the host. Of special schemes any number of slashes
may stand there, but for files exactly two; of other schemes exactly two, with no backslash. -/
def dropSlashes? (scheme : String) (text : List Char) : Option (List Char) :=
  let slash (c : Char) : Bool := c == '/' || c == '\\'
  if scheme = "file" then
    match text with
    | a :: b :: rest => if slash a && slash b then some rest else none
    | _ => none
  else if isSpecialScheme scheme then some (text.dropWhile slash)
  else
    match text with
    | '/' :: '/' :: rest => some rest
    | _ => none

/-- The host of a scheme; the local host of files is no host. -/
def readHost? (scheme : String) (text : List Char) : Option String :=
  if scheme = "file" then
    if isDriveLetter (String.ofList text) then none
    else (specialHost? text).filter (· ≠ "localhost")
  else if isSpecialScheme scheme then specialHost? text
  else opaqueHost? text

/-- **The URL of a text**, if it is one and has a host that is read: no address in brackets and no
international name. -/
def Url.parse? : UrlReader := fun text => do
  let trimmed := trimUrl text.toList
  let counted := withoutGaps trimmed
  let (scheme, rest) ← splitScheme? counted
  let special := isSpecialScheme scheme
  let rest ← dropSlashes? scheme rest
  let (user, beyond) :=
    if scheme = "file" then (none, [])
    else splitLast '@' (rest.takeWhile (!endsAuthority special ·))
  let rest := if user.isSome then beyond ++ rest.dropWhile (!endsAuthority special ·) else rest
  let (username, password) := readUser (user.getD [])
  let (hostText, rest) := splitHost special (scheme = "file") rest
  let host ← readHost? scheme hostText
  let (port, rest) ← readPort? (defaultPort? scheme) rest
  let path ← readPath? scheme
    ((dropCounted (counted.length - rest.length) trimmed).takeWhile fun c => c ≠ '?' ∧ c ≠ '#')
  let (rest, fragment) := splitFirst '#' rest
  let (_, query) := splitFirst '?' rest
  return {
    scheme := scheme
    username := username
    password := password
    host := host
    port := port
    path := path
    query := query.map fun q => String.ofList (percentEncode (inQuerySet special) q)
    fragment := fragment.map fun f => String.ofList (percentEncode inFragmentSet f) }

end HttpQuery
