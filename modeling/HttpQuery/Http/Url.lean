import HttpQuery.Http.Escape
/-! # URLs

A URL has a scheme, perhaps a user and a password, a host, perhaps a port, a path, and perhaps a
query and a fragment. Its parts are kept as they are printed, with escapes for the characters that
cannot stand there. How a text is read as a URL is left open: whoever needs one is given a reader.

* `Url`, `UrlReader`: a URL, and a way to read one.
* `Url.text`: the printed form.
* `Url.credentials?`: the user and the password. -/

namespace HttpQuery

open Text

/-- **A URL with a host**, its parts as they are printed. -/
structure Url where
  scheme : String
  username : String
  password : Option String
  host : String
  port : Option Nat
  path : String
  query : Option String
  fragment : Option String
deriving DecidableEq, Repr

/-- **A reader of URLs**: the URL of a text, if it is one and has a host. Which texts are URLs, and
what their parts are, is up to the reader. -/
abbrev UrlReader := String → Option Url

namespace Url

/-- The user and the password, as they are printed before the host. -/
def userText (url : Url) : String :=
  match url.password with
  | some password => url.username ++ ":" ++ password ++ "@"
  | none => if url.username = "" then "" else url.username ++ "@"

/-- The host and the port. -/
def authority (url : Url) : String :=
  url.host ++ (url.port.map fun p => ":" ++ toString p).getD ""

/-- The path and the query. -/
def target (url : Url) : String := url.path ++ (url.query.map ("?" ++ ·)).getD ""

/-- **The printed form of a URL.** -/
def text (url : Url) : String :=
  url.scheme ++ "://" ++ url.userText ++ url.authority ++ url.target ++
    (url.fragment.map ("#" ++ ·)).getD ""

/-- The user and the password with the escapes resolved. There are none if both are empty, or if the
user is no text; a password that is no text counts as missing. -/
def credentials? (url : Url) : Option (String × Option String) := do
  let username ← decodeUtf8? (percentDecode url.username.toList)
  let password := url.password.bind fun p => decodeUtf8? (percentDecode p.toList)
  if username ≠ "" ∨ password.isSome then some (username, password) else none

/-- The URL without user and password. -/
def withoutUser (url : Url) : Url := { url with username := "", password := none }

end Url

end HttpQuery
