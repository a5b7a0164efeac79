import CloudClient.Bytes.Utf8
import CloudClient.Fault
import CloudClient.Http.Headers

/-!
# Requests and replies

An exchange is a request and a reply; the reply is a response of the other
side or a failure of the network. Whatever its status, a response is a
response: what a status means is decided by those who asked.

A body is octets. Its text is what UTF-8 makes of them, with a replacement
character for each part that is not UTF-8.
-/

namespace CloudClient

/-- What is sent. -/
structure Request where
  method : String
  url : String
  headers : RequestHeaders
  /-- The body, if the request has one. -/
  body : Option Octets

/-- What the other side answers. -/
structure Response where
  status : Int
  headers : ResponseHeaders
  body : Octets
  /-- The words that come with the status. -/
  reason : String

/-- What comes of a request. -/
inductive Reply where
  | response (r : Response)
  | failure (f : NetworkFailure)

namespace Response

/-- Whether the status is one of success. -/
def isOk (r : Response) : Bool := decide (200 ≤ r.status) && decide (r.status < 300)

/-- The body as text. -/
def text (r : Response) : String := Utf8.decodeLossy r.body

/-- The body as a document. -/
def json (r : Response) : Except Defect Json := (Json.read r.text).mapError .unread

/-- The trimmed value of a header; a blank one counts as missing. -/
def header? (r : Response) (name : String) : Option String := r.headers.value? name

end Response

end CloudClient
