import CloudClient.Catalog
import CloudClient.Http.Message
import CloudClient.Json.Writer
import CloudClient.Text.Case
import CloudClient.Url.Percent

/-!
# The request of a call

A call names a service, a method, a path and perhaps a resource; a catalog
turns that into a request. The locator of the service gives the beginning of
the target, and the token of the *same* catalog goes into the headers, after
everything the caller has put there, so that no header of the caller takes
its place.

What stays the same from attempt to attempt is the method, the body and all
other headers: they do not depend on the catalog. The octets of the body are
made before the first attempt, so `Call.request` takes them as they are.

A text that is not whole has no octets. As a body, or as the identifier of a
resource, it is a defect.
-/

namespace CloudClient

/-- What a call sends along. -/
inductive Body where
  | empty
  | octets (bytes : Octets)
  | text (t : RawText)
  | document (v : Json)

namespace Body

/-- The body that a value is: nothing for null, a text as it is, and any
other value as a document. -/
def ofJson : Json → Body
  | .null => empty
  | .str t => text t
  | v => document v

/-- The octets of a body, if it has any. -/
def encode : Body → Except Defect (Option Octets)
  | empty => .ok none
  | octets bytes => .ok (some bytes)
  | text t =>
    match t.toString? with
    | none => .error .unencodable
    | some s => .ok (some (Utf8.encode s))
  | document v => .ok (some (Utf8.encode v.write))

/-- What the octets of a body are said to be. -/
def contentType : Body → String
  | octets _ => "application/octet-stream"
  | _ => "application/json"

end Body

namespace Target

/-- A locator with a path, which is separated by a single slash. -/
def withPath (base : String) (path : Option String) : String :=
  let base := Text.withoutTrailing '/' base
  match path with
  | none => base
  | some path => if path = "" then base else base ++ "/" ++ Text.withoutLeading '/' path

/-- A locator with the identifier of a resource, which is shown as text and
percent-encoded. -/
def withResource (url : String) (resource : Option Json) : Except Defect String :=
  match resource with
  | none => .ok url
  | some id =>
    if id.shown.isEmpty then .ok url
    else match id.shown.toString? with
      | none => .error .unencodable
      | some s => .ok (Text.withoutTrailing '/' url ++ "/" ++ Percent.encode s)

/-- The locator of a resource of a service. -/
def build (base : String) (path : Option String) (resource : Option Json) :
    Except Defect String :=
  withResource (withPath base path) resource

end Target

/-- A call of a resource. -/
structure Call where
  service : String
  method : String
  /-- The path below the locator of the service. -/
  path : Option String := none
  /-- The identifier of the resource. -/
  resource : Option Json := none
  body : Body := .empty
  /-- The headers that the caller adds. -/
  headers : List (String × Json) := []

namespace Call

/-- The header with the token. -/
def tokenHeader : String := "X-Auth-Token"

/-- The header with the type of the body. -/
def contentTypeHeader : String := "Content-Type"

/-- The headers without the token. -/
def ownHeaders (c : Call) : RequestHeaders :=
  OrderedMap.putAll (.ofList [(contentTypeHeader, .str c.body.contentType)]) c.headers

/-- The request of a call to a target, with the tokens of a catalog. -/
def requestTo (c : Call) (payload : Option Octets) (catalog : Catalog) (url : String) : Request where
  method := Text.upper c.method
  url := url
  headers := c.ownHeaders.put tokenHeader (catalog.tokenFor c.service)
  body := payload

/-- The request of a call with a catalog, to the service at a locator. -/
def requestAt (c : Call) (payload : Option Octets) (catalog : Catalog) (base : String) :
    Except Defect Request :=
  (Target.build base c.path c.resource).map (c.requestTo payload catalog)

/-- The request of a call with a catalog. -/
def request (c : Call) (payload : Option Octets) (catalog : Catalog) : Except Failure Request :=
  match catalog.serviceUrl c.service with
  | .error defect => .error (.defect defect)
  | .ok none => .error (.fault (.noService c.service catalog.homeRegion))
  | .ok (some base) =>
    match c.requestAt payload catalog base with
    | .error defect => .error (.defect defect)
    | .ok request => .ok request

/-- The ways of a request: the catalog is not read, or has no locator of the
service; the locator is not that of a target; or there is a target, and the
request goes to it. -/
theorem request_cases (c : Call) (payload : Option Octets) (catalog : Catalog) :
    (∃ defect, catalog.serviceUrl c.service = .error defect
      ∧ c.request payload catalog = .error (.defect defect)) ∨
    (catalog.serviceUrl c.service = .ok none
      ∧ c.request payload catalog = .error (.fault (.noService c.service catalog.homeRegion))) ∨
    (∃ base defect, catalog.serviceUrl c.service = .ok (some base)
      ∧ Target.build base c.path c.resource = .error defect
      ∧ c.request payload catalog = .error (.defect defect)) ∨
    (∃ base url, catalog.serviceUrl c.service = .ok (some base)
      ∧ Target.build base c.path c.resource = .ok url
      ∧ c.request payload catalog = .ok (c.requestTo payload catalog url)) := by
  unfold request requestAt
  cases catalog.serviceUrl c.service with
  | error defect => exact .inl ⟨defect, rfl, rfl⟩
  | ok base? =>
    cases base? with
    | none => exact .inr (.inl ⟨rfl, rfl⟩)
    | some base =>
      cases htarget : Target.build base c.path c.resource with
      | error defect =>
        refine .inr (.inr (.inl ⟨base, defect, rfl, htarget, ?_⟩))
        simp only [htarget, Except.map]
      | ok url =>
        refine .inr (.inr (.inr ⟨base, url, rfl, htarget, ?_⟩))
        simp only [htarget, Except.map]

end Call

end CloudClient
