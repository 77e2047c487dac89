import HttpQuery.Http.Client
import HttpQuery.Http.Framing
import HttpQuery.Http.MediaType
import HttpQuery.Text.Charset
/-! # Sending a request

When a request is sent, it gets what every request has: that any answer is accepted and the user
agent, each unless it is set, and the length of the body. Only the schemes `http` and `https` can be
sent. A *transport* stands for the whole exchange that the request starts: where a response
redirects to another URL, it is the transport that follows, and it gives the bytes of the response
that the exchange ends with, or refuses. Responses that only announce another one are skipped. A
body that cannot be read is a failure only for who asks for the body.

* `Client.prepare`: a request as it is sent.
* `Client.execute`: the response to a descriptor over a transport.
* `pickHeaders`: some headers of a response by their names. -/

namespace HttpQuery

open Text

/-- **A request as it is sent.** -/
structure SentRequest where
  method : Method
  url : Url
  headers : Headers
  body : Bytes

/-- **The exchange that a request starts**: the bytes of the response that it ends with, once all
redirects are followed, until the connection ends. There are none if a connection is refused, or if
there are too many redirects. -/
abbrev Transport := SentRequest → Option Bytes

/-- **A response.** -/
structure Response where
  status : Nat
  headers : Headers
  body : Except BodyFault Bytes

namespace Client

/-- A request as it is sent, if its scheme can be. -/
def prepare (client : Client) (request : Request) : Except RequestError SentRequest :=
  if request.url.scheme = "http" ∨ request.url.scheme = "https" then
    let accepting := request.headers.setDefault "accept" (utf8Bytes "*/*")
    let named := match client.userAgent with
      | some agent => accepting.setDefault "user-agent" agent
      | none => accepting
    let (headers, body) := frameBody named (utf8Bytes request.body)
    .ok { method := request.method, url := request.url, headers := headers, body := body }
  else .error .rejected

end Client

/-- The first response that does not only announce another one; each takes at least one byte. -/
def readResponse? : Nat → Bytes → Option Response
  | 0, _ => none
  | fuel + 1, bytes => do
    let (head, rest) ← readHead? bytes
    if head.isInformational then readResponse? fuel rest
    else
      let bodyEnd ← head.bodyEnd?
      return ⟨head.status, head.headers.grouped, readBody bodyEnd rest⟩

/-- **The response that some bytes hold.** -/
def Response.ofBytes? (bytes : Bytes) : Option Response := readResponse? (bytes.length + 1) bytes

namespace Client

/-- **The response to a descriptor**, the last one if there are redirects. -/
def execute (client : Client) (transport : Transport) (d : Descriptor) :
    Except RequestError Response := do
  let request ← client.request d
  let sent ← client.prepare request
  match (transport sent).bind Response.ofBytes? with
  | some response => return response
  | none => throw .rejected

end Client

namespace Response

/-- The charset of the content type; UTF-8 if it names none. -/
def charset (response : Response) : Charset :=
  let label? := do
    let text ← (response.headers.first? "content-type").bind visibleText?
    let mediaType ← MediaType.ofText? text
    mediaType.parameter? "charset"
  (label?.bind Charset.ofLabel?).getD .utf8

/-- The body as text, in the charset of the content type. -/
def text (response : Response) : Except BodyFault String :=
  response.body.map (decodeText response.charset)

end Response

/-- The value of a header by its name in any case: the first one, if it is visible text, and the
empty text otherwise. -/
def pickHeader (headers : Headers) (name : String) : String :=
  ((headerName? name).bind fun n => (headers.first? n).bind visibleText?).getD ""

/-- **The values of some headers**, under the names as they are asked for. -/
def pickHeaders (headers : Headers) (names : List String) : KeyMap String :=
  .ofList (names.map fun name => (name, pickHeader headers name))

end HttpQuery
