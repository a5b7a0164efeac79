import CloudClient.Http.Message

/-!
# The wire log

At the level of debugging every exchange is written down: the request line,
the headers, and the beginning of the body, in either direction. Records are
a pattern and its arguments, as a logger takes them.

What a record must not show is masked: the values of the headers that carry
tokens or keys, whatever the case of their names, are replaced by a row of
asterisks of fixed length. So the records depend on which of these headers
there are, never on their values. Bodies are shown as text, up to
`bodyLimit` octets.
-/

namespace CloudClient.WireLog

/-- The headers whose values are masked, in lower case. -/
def sensitive : List String := ["x-auth-token", "x-storage-token", "x-auth-key", "authorization"]

/-- What stands for a masked value. -/
def maskText : String := "********"

/-- Whether the value of a header is masked. -/
def isSensitive (name : String) : Bool := sensitive.contains (Text.lower name)

/-- A header with its value masked if need be. -/
def maskEntry (e : String × Json) : String × Json :=
  (e.1, if isSensitive e.1 then .str maskText else e.2)

/-- The headers with their sensitive values masked. -/
def mask (headers : List (String × Json)) : List (String × Json) := headers.map maskEntry

/-- One record: a pattern and its arguments. -/
structure Record where
  pattern : String
  arguments : List Json

/-- How many octets of a body are shown. -/
def bodyLimit : Nat := 4096

/-- The record of a body, if there is anything in it. -/
def bodyRecord (pattern : String) (body : Octets) : List Record :=
  if body.isEmpty then [] else [⟨pattern, [.str (Utf8.decodeLossy (body.take bodyLimit))]⟩]

/-- The records of a request. -/
def ofRequest (r : Request) : List Record :=
  [⟨">>> %s %s", [.str r.method, .str r.url]⟩,
   ⟨">>> headers=%s", [.ofEntries (mask r.headers.entries)]⟩] ++ bodyRecord ">>> %s" (r.body.getD [])

/-- The records of a response. -/
def ofResponse (r : Response) : List Record :=
  [⟨"<<< %s %s", [.int r.status, .str r.reason]⟩,
   ⟨"<<< headers=%s", [.ofEntries (mask (r.headers.toList.map fun h => (h.1, .str h.2)))]⟩]
    ++ bodyRecord "<<< %s" r.body

/-- The records of an exchange; a failure of the network leaves none. -/
def ofExchange (request : Request) : Reply → List Record
  | .response r => ofRequest request ++ ofResponse r
  | .failure _ => ofRequest request

end CloudClient.WireLog
