import CloudClient.Authentication.EndpointList
import CloudClient.Authentication.Headers.Services
import CloudClient.Endpoint.Host

/-!
# Authentication at an object store

The dialect `Dialect.storage` is one request with the credentials in its
headers to the first endpoint, a store of objects. The user is named by
account and public key together; some deployments have accounts without
users, and there the account is all, which an empty public key or a row of
dashes stands for. The region of the endpoint's host is the home region,
whatever the session chooses.
-/

namespace CloudClient.StorageHeaders

/-- The public key that stands for none. -/
def noKeyMark : String := "-----"

/-- The name of the user of an account. -/
def userName (account publicKey : String) : String :=
  if publicKey = "" ∨ publicKey = noKeyMark then account else account ++ ":" ++ publicKey

/-- The name of a session's user. -/
def user (s : Session) : Except Defect String := s.publicText.map (userName s.account)

/-- The request to the endpoint. -/
def request (url userName privateKey : String) : Request where
  method := "GET"
  url := url
  headers := .ofList [("X-Auth-User", .str userName), ("X-Auth-Key", .str privateKey)]
  body := none

/-- What a success comes to. -/
def finish (account url : String) (answer : Response) : Except Failure Outcome :=
  match answer.header? ServiceHeaders.tokenHeader with
  | none => .error (.fault (ServiceHeaders.noToken answer.status))
  | some token =>
    match Region.infer url with
    | .error fault => .error (.defect (.badLocator fault))
    | .ok region =>
      ServiceHeaders.catalogOf account (Region.named region)
        (ServiceHeaders.collect answer (Region.named region) .empty) token answer

/-- What an answer means. -/
def judge (account url : String) (answer : Response) : Except Failure Outcome :=
  match ServiceHeaders.refusal? answer url with
  | .error defect => .error (.defect defect)
  | .ok (some outcome) => .ok outcome
  | .ok none => finish account url answer

/-- The attempt in this dialect. -/
def attempt (s : Session) (endpoints : String) : Attempt :=
  let url := EndpointList.first endpoints
  match user s with
  | .error defect => .ended (.error defect)
  | .ok userName =>
    match s.privateText with
    | .error defect => .ended (.error defect)
    | .ok privateKey =>
      .exchange (request url userName privateKey) (fun fault => .ended (.ok (.failed fault)))
        fun answer => Outcome.conclude (judge s.account url answer)

end CloudClient.StorageHeaders
