import CloudClient.Http.WireLog
import CloudClient.Session

/-!
# Channels

A channel is how requests go out: through which proxy, whether certificates
are checked, and how long to wait. It keeps nothing between requests – it
takes no cookies from anybody and follows no redirection – and it never
repeats one.
-/

namespace CloudClient

/-- How requests go out. -/
structure Channel where
  /-- The proxy for both plain and encrypted requests. -/
  proxy : Option String := none
  /-- Whether certificates are checked. -/
  verify : Bool := true
  /-- How long to wait for a connection, in seconds. -/
  connectTimeout : Json := .int 10
  /-- How long to wait for an answer, in seconds. -/
  readTimeout : Json := .int 60

namespace Channel

/-- The name under which this library presents itself. -/
def userAgent : String := "novagate"

/-- The hosts from which cookies are taken. -/
def cookieHosts : List String := []

/-- Whether a redirection is followed. -/
def followsRedirects : Bool := false

/-- The channel with the given proxy; an empty one counts as none. -/
def withProxy (t : Channel) (proxy : Option String) : Channel :=
  { t with proxy := proxy.filter (· != "") }

/-- The channel that a session asks for, with the timeouts of another. -/
def forSession (t : Channel) (s : Session) : Channel :=
  { t.withProxy s.proxyUrl with verify := !s.insecure }

/-- The proxy for each sort of request, if there is one. -/
def proxies (t : Channel) : List (String × String) :=
  match t.proxy with
  | none => []
  | some proxy => [("http", proxy), ("https", proxy)]

/-- What the sender of a request is told about its reply. -/
def receive (request : Request) : Reply → Except Fault Response
  | .response r => .ok r
  | .failure f => .error (.network request.method request.url f)

end Channel

end CloudClient
