import CloudClient.Authentication.EndpointList
import CloudClient.Authentication.Headers.Services
import CloudClient.Endpoint.Host

/-!
# Authentication region by region

In the dialect `Dialect.regional` the endpoints between commas are asked one
after the other, each for its own region. The region of the first one is the
home region unless the session chooses one, and the first endpoint in the
home region is the last that is asked: its answer has the tokens, and the
credentials go no further. The services of the endpoints before it stay in
the catalog under their regions.

An endpoint whose path ends in the version of these services wants the same
ending on the locator of the compute service.
-/

namespace CloudClient.RegionalHeaders

/-- The ending that endpoint and locator have in common. -/
def versionEnding : String := "v1.0"

/-- The keys of a session as texts. -/
structure Keys where
  publicKey : String
  privateKey : String

/-- The keys of a session. -/
def keys (s : Session) : Except Defect Keys :=
  match s.publicText with
  | .error d => .error d
  | .ok publicKey => s.privateText.map fun privateKey => ⟨publicKey, privateKey⟩

/-- The request to one endpoint. -/
def request (account : String) (k : Keys) (url : String) : Request where
  method := "GET"
  url := url
  headers := .ofList [("X-Auth-User", .str k.publicKey), ("X-Auth-Key", .str k.privateKey),
    ("X-Auth-Project-Id", .str account)]
  body := none

/-- Whether a locator has the version ending, slashes aside. -/
def hasVersionEnding (url : String) : Bool :=
  Text.endsWith versionEnding (Text.withoutTrailing '/' url)

/-- The locator of a compute service as an endpoint wants it. -/
def completed (endpoint url : String) : String :=
  if hasVersionEnding endpoint && !hasVersionEnding url then
    Text.withoutTrailing '/' url ++ "/" ++ versionEnding
  else url

/-- The map with the locator of the compute service in a region completed. -/
def complete (endpoint : String) (region : Region) (endpoints : EndpointMap) : EndpointMap :=
  match endpoints.get? Catalog.computeService region with
  | none => endpoints
  | some url => endpoints.set Catalog.computeService region (completed endpoint url)

/-- The map with the services of an endpoint's answer. -/
def learn (url : String) (region : String) (answer : Response) (endpoints : EndpointMap) :
    EndpointMap :=
  complete url (Region.named region) (ServiceHeaders.collect answer (Region.named region) endpoints)

/-- What the answer of the endpoint in the home region comes to. -/
def finish (account home : String) (endpoints : EndpointMap) (answer : Response) :
    Except Failure Outcome :=
  match answer.header? ServiceHeaders.tokenHeader with
  | none => .error (.fault (ServiceHeaders.noToken 0))
  | some token => ServiceHeaders.catalogOf account (Region.named home) endpoints token answer

/-- The endpoints asked in order, given the home region as far as it is known
and the services learnt so far. -/
def ask (account : String) (k : Keys) (home : Option String) (endpoints : EndpointMap) :
    List String → Attempt
  | [] => Outcome.conclude (.error (.fault (ServiceHeaders.noToken 0)))
  | url :: more =>
    .exchange (request account k url) (fun fault => .ended (.ok (.failed fault))) fun answer =>
      match ServiceHeaders.refusal? answer url with
      | .error defect => .ended (.error defect)
      | .ok (some outcome) => .ended (.ok outcome)
      | .ok none =>
        match Region.infer url with
        | .error fault => .ended (.error (.badLocator fault))
        | .ok region =>
          let known := home.getD region
          let learnt := learn url region answer endpoints
          if region = known then Outcome.conclude (finish account known learnt answer)
          else ask account k (some known) learnt more

/-- The attempt in this dialect. -/
def attempt (s : Session) (endpoints : String) : Attempt :=
  match EndpointList.all endpoints with
  | [] => Outcome.conclude (.error (.fault (ServiceHeaders.noToken 0)))
  | urls =>
    match keys s with
    | .error defect => .ended (.error defect)
    | .ok k => ask s.account k s.region .empty urls

end CloudClient.RegionalHeaders
