import CloudClient.Authentication.Outcome

/-!
# Services in headers

Where credentials go out in headers, everything comes back in headers too:
the tokens, and the locator of each of a few services. Such an answer says
nothing of regions, so its locators belong to the region that the host of the
asked endpoint lies in.

Only two statuses are a success. An answer that rejects the credentials ends
the attempt with a rejection, and any other with a fault (`refusal?`).
-/

namespace CloudClient.ServiceHeaders

/-- The header with the token to call services with. -/
def tokenHeader : String := "X-Auth-Token"

/-- The header with the token to call the object store with. -/
def storageTokenHeader : String := "X-Storage-Token"

/-- The headers that locate services, with the services. -/
def locators : List (String × String) :=
  [("X-Server-Management-Url", "compute"), ("X-Storage-Url", "object-store"),
   ("X-Cdn-Management-Url", "cdn")]

/-- The statuses of a success. -/
def successCodes : List Int := [200, 204]

/-- What an answer that is no success comes to. -/
def refusal? (answer : Response) (url : String) : Except Defect (Option Outcome) :=
  match answer.rejects with
  | .error defect => .error defect
  | .ok true => .ok (some (.rejected (.statusFrom answer.status url)))
  | .ok false =>
    if successCodes.contains answer.status then .ok none
    else (Outcome.unexpected answer url).map some

/-- One locator of an answer put into the map, if the answer has it. -/
def collectOne (answer : Response) (region : Region) (endpoints : EndpointMap)
    (locator : String × String) : EndpointMap :=
  match answer.header? locator.1 with
  | none => endpoints
  | some url => endpoints.set locator.2 region url

/-- The map with all locators of an answer put into it. -/
def collect (answer : Response) (region : Region) (endpoints : EndpointMap) : EndpointMap :=
  locators.foldl (collectOne answer region) endpoints

/-- The fault of a success without a token. -/
def noToken (code : Int) : Fault := .noToken code "No authentication token in cloud response"

/-- The catalog of an account with the tokens of an answer. -/
def catalogOf (account : String) (home : Region) (endpoints : EndpointMap) (token : String)
    (answer : Response) : Except Failure Outcome :=
  match Catalog.make (.str token) (.str account) home
      ((answer.header? storageTokenHeader).map fun token => .str token) endpoints with
  | .error fault => .error (.fault fault)
  | .ok catalog => .ok (.authenticated catalog)

end CloudClient.ServiceHeaders
