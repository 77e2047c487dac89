import HttpQuery.Config.Settings
import HttpQuery.Http.Base64
import HttpQuery.Http.Chunked
import HttpQuery.Http.Descriptor
import HttpQuery.Http.Header
import HttpQuery.Http.WebUrl
import HttpQuery.Json.Printer
/-! # Requests

A client holds the user agent and the default headers of its settings and a reader of URLs, and
builds the request of a descriptor. What is a URL is up to the reader. The headers of a request come
from the user and password of the URL, then the default headers, then the descriptor's headers, each
layer replacing the values of the names that it sets; then the content type is added, unless one is
set, and the credentials of the descriptor are appended.

* `Client.ofSettings`: the client of some settings; invalid default headers are skipped. Unless
  another reader is given, it reads URLs by `Url.parse?`.
* `Client.request`: the request of a descriptor. The descriptor's headers are checked before the
  URL. -/

namespace HttpQuery

open Text

/-- Which part of a header is invalid. -/
inductive HeaderPart where
  | name
  | value
deriving DecidableEq, Repr

/-- **Why a request cannot be built or sent.** -/
inductive RequestError where
  /-- A header of the query is invalid; its name is given as written. -/
  | invalidHeader (name : String) (part : HeaderPart)
  /-- The URL, the user agent or the connection was refused, or what came back is no response. -/
  | rejected
  /-- The body of the response cannot be read. -/
  | brokenBody (fault : BodyFault)
deriving DecidableEq, Repr

/-- The wording of each cause; the reason of a refusal is not told. -/
def RequestError.message : RequestError → String
  | .invalidHeader name .name => "Invalid header: " ++ name ++ ": invalid HTTP header name"
  | .invalidHeader name .value => "Invalid header: " ++ name ++ ": failed to parse header value"
  | .rejected => "HTTP error: "
  | .brokenBody fault => "HTTP error: " ++ fault.message

/-- The name and value of a header, the name checked first. -/
def headerPair (name value : String) : Except RequestError (String × Bytes) :=
  match headerName? name with
  | none => .error (.invalidHeader name .name)
  | some n =>
    match headerValue? value with
    | none => .error (.invalidHeader name .value)
    | some v => .ok (n, v)

/-- The name and value of a header, if both are valid. -/
def headerPair? (name value : String) : Option (String × Bytes) := (headerPair name value).toOption

/-- **A client.** -/
structure Client where
  userAgent : Option Bytes
  defaultHeaders : Headers
  readUrl : UrlReader

/-- **A request**, ready to be sent. -/
structure Request where
  method : Method
  url : Url
  headers : Headers
  body : String
  /-- In seconds. -/
  timeLimit : Option Nat

namespace Headers

/-- Write one header after another, each replacing the values of its name. -/
def setEach (headers : Headers) (pairs : List (String × Bytes)) : Headers :=
  pairs.foldl (fun hs h => hs.set h.1 h.2) headers

end Headers

namespace Client

/-- The user agent of some settings; a bad one is refused. -/
def userAgentOf (settings : Settings) : Except RequestError (Option Bytes) :=
  match settings.userAgent with
  | none => .ok none
  | some text =>
    match headerValue? text with
    | none => .error .rejected
    | some value => .ok (some value)

/-- The valid default headers of some settings, in the order of their keys. -/
def validDefaults (settings : Settings) : List (String × Bytes) :=
  settings.defaultHeaders.toList.filterMap fun h => headerPair? h.1 h.2

/-- **The client of some settings** that reads URLs in a given way. -/
def ofSettings (settings : Settings) (readUrl : UrlReader := Url.parse?) :
    Except RequestError Client := do
  let userAgent ← userAgentOf settings
  return ⟨userAgent, Headers.setEach [] (validDefaults settings), readUrl⟩

/-- The client of settings that set nothing. -/
def unset : Client := ⟨none, [], Url.parse?⟩

/-- The value of the content type. -/
def jsonContentType : Bytes := utf8Bytes "application/json"

/-- The headers of a request, from those of the query and the credentials of the URL and of the
query. -/
def assembleHeaders (client : Client) (queryHeaders : List (String × Bytes))
    (urlCredentials : Option (String × Option String)) (basicAuth : Option Credentials) : Headers :=
  let fromUrl : Headers := match urlCredentials with
    | some (login, password) =>
      [("authorization", utf8Bytes (basicAuthorization login (password.getD "")))]
    | none => []
  let layered := fromUrl.setAll (client.defaultHeaders.setEach queryHeaders)
  let typed := layered.setDefault "content-type" jsonContentType
  match basicAuth with
  | some c => typed.add "authorization" (utf8Bytes (basicAuthorization c.login c.password))
  | none => typed

/-- **The request of a descriptor.** It is refused if the client does not read its URL. -/
def request (client : Client) (d : Descriptor) : Except RequestError Request := do
  let queryHeaders ← d.headers.toList.mapM fun h => headerPair h.1 h.2
  match client.readUrl d.url with
  | none => .error .rejected
  | some url =>
    let credentials := url.credentials?
    return {
      method := d.method
      url := if credentials.isSome then url.withoutUser else url
      headers := client.assembleHeaders queryHeaders credentials d.basicAuth
      body := d.body.compact
      timeLimit := d.timeLimit }

end Client

end HttpQuery
