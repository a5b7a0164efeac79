import CloudClient.Catalog
import CloudClient.Json.Reader
import CloudClient.Session

/-!
# What an identity service grants

The answer of an identity service is a document with a token, a tenant and a
list of services with their endpoints. It comes from outside, so nothing is
known about its shape: where an object, an array or a text has to be and
something else is, the whole answer is refused with a fault that names the
kind and the place. What is empty counts as missing, and a service without a
type or an endpoint without a locator is passed over. A document that is
malformed is refused in the same way; one that is nested too deep is a defect.

A `Grant` is what is left: a token, a tenant, and the candidates for the
endpoint map in the order of the document. `Grant.toCatalog` makes the
catalog of it: the candidates are resolved under the rule of the operator,
and the home region is the one the session chooses, or else the first one
that turns up.

Token and tenant only have to be present; of what kind they are is not
looked at. Services, regions and versions keep the raw texts of the document,
since they are compared and complained about; a locator is on its way to a
request and is repaired.
-/

namespace CloudClient.Identity

/-- The status of an answer that is a document of access. -/
def successCode : Int := 200

/-- A value of the answer is of the wrong kind. -/
def wrongShape (v : Json) (place : String) : Fault :=
  .invalidDocument successCode
    ("Unexpected " ++ v.kindName ++ " at " ++ place ++ " in identity response") none

/-- The members of an object. -/
def object (place : String) : Json → Except Fault (List (RawText × Json))
  | .obj members => .ok members
  | v => .error (wrongShape v place)

/-- The elements of an array. -/
def array (place : String) : Json → Except Fault (List Json)
  | .arr elements => .ok elements
  | v => .error (wrongShape v place)

/-- The code points of a text. -/
def text (place : String) : Json → Except Fault RawText
  | .str t => .ok t
  | v => .error (wrongShape v place)

/-- The member of the given name, null if it is missing. -/
def field (members : List (RawText × Json)) (name : String) : Json :=
  (Entries.find? members (RawText.ofString name)).getD .null

/-- The lists that a function gives for the elements, one after the other, up
to the first failure. -/
def gather {α β ε : Type} (f : α → Except ε (List β)) : List α → Except ε (List β)
  | [] => .ok []
  | a :: more =>
    match f a with
    | .error e => .error e
    | .ok found => (gather f more).map (found ++ ·)

/-! ## Candidates -/

/-- The version of an endpoint: the one it states, or the one in its path. -/
def versionOf (stated : Json) (url : String) : Except LocatorFault RawText :=
  if stated.truthy then .ok stated.shown else (Version.ofPath url).map RawText.ofString

/-- The candidate of an endpoint of a service; none without a locator. -/
def candidates (service : RawText) (entry : Json) : Except Failure (List Candidate) :=
  match object (service.repaired ++ ".endpoints[]") entry with
  | .error fault => .error (.fault fault)
  | .ok entry =>
    let located := (field entry "publicURL").orElse (field entry "url")
    if located.truthy then
      match text (service.repaired ++ ".endpoints[].publicURL") located with
      | .error fault => .error (.fault fault)
      | .ok url =>
        match versionOf (field entry "versionId") url.repaired with
        | .error fault => .error (.defect (.badLocator fault))
        | .ok version =>
          .ok [⟨service, Label.ofJson? (field entry "region"), url.repaired, some version⟩]
    else .ok []

/-- The candidates of the endpoints of a service. -/
def serviceCandidates (service : List (RawText × Json)) (kind : RawText) :
    Except Failure (List Candidate) :=
  match array (kind.repaired ++ ".endpoints") ((field service "endpoints").orElse (.arr [])) with
  | .error fault => .error (.fault fault)
  | .ok entries => gather (candidates kind) entries

/-- The candidates of a service; none without a type. -/
def candidatesOf (service : Json) : Except Failure (List Candidate) :=
  match object "access.serviceCatalog[]" service with
  | .error fault => .error (.fault fault)
  | .ok service =>
    let kind := field service "type"
    if kind.truthy then
      match text "access.serviceCatalog[].type" kind with
      | .error fault => .error (.fault fault)
      | .ok kind => serviceCandidates service kind
    else .ok []

/-! ## The grant -/

/-- What an identity service grants. -/
structure Grant where
  /-- The token to call services with. -/
  token : Json
  /-- The tenant that is acted for. -/
  tenant : Json
  /-- The endpoints that are offered. -/
  candidates : List Candidate

/-- The document that an answer is. -/
def document (answer : String) : Except Failure Json :=
  match Json.read answer with
  | .ok v => .ok v
  | .error fault =>
    .error (.unread successCode "Identity service returned malformed JSON" fault)

/-- The part of the document that grants access; empty if it is missing. -/
def accessPart (v : Json) : Except Fault (List (RawText × Json)) :=
  match v.member? "access" with
  | none | some .null => .ok []
  | some access => object "access" access

/-- The token of the access part with what belongs to it. -/
def tokenPart (access : List (RawText × Json)) : Except Fault (List (RawText × Json)) :=
  match object "access.token" ((field access "token").orElse (.obj [])) with
  | .error fault => .error fault
  | .ok token =>
    if (field token "id").truthy then .ok token
    else .error (.noToken successCode "No authentication tokens were provided")

/-- The tenant that a token names; the account if it names none. -/
def tenantPart (account : String) (token : List (RawText × Json)) : Except Fault Json :=
  match object "access.token.tenant" ((field token "tenant").orElse (.obj [])) with
  | .error fault => .error fault
  | .ok tenant => .ok ((field token "tenantId").orElse ((field tenant "id").orElse (.str account)))

/-- The services that the access part lists. -/
def servicesPart (access : List (RawText × Json)) : Except Fault (List Json) :=
  array "access.serviceCatalog" ((field access "serviceCatalog").orElse (.arr []))

/-- The grant of the access part, for an account. -/
def Grant.ofAccess (account : String) (access : List (RawText × Json)) : Except Failure Grant :=
  match tokenPart access with
  | .error fault => .error (.fault fault)
  | .ok token => match tenantPart account token with
    | .error fault => .error (.fault fault)
    | .ok tenant => match servicesPart access with
      | .error fault => .error (.fault fault)
      | .ok services => (gather candidatesOf services).map fun candidates =>
          ⟨field token "id", tenant, candidates⟩

/-- The grant that an answer is, for an account. -/
def Grant.read (account answer : String) : Except Failure Grant :=
  match document answer with
  | .error failure => .error failure
  | .ok v => match accessPart v with
    | .error fault => .error (.fault fault)
    | .ok access => Grant.ofAccess account access

/-- How endpoints without a region are treated for a session. -/
def regionRule (s : Session) : RegionRule :=
  { RegionRule.usual with headerOnly := s.family.headerOnly }

/-- The home region of a session: the one it chooses, or else the first one
that a resolution has met. -/
def homeRegion (s : Session) (resolution : Resolution) : Region :=
  s.chosenRegion.or resolution.firstRegion

/-- The catalog of a grant for a session. -/
def Grant.toCatalog (s : Session) (g : Grant) : Except Failure Catalog :=
  match Resolution.resolve (regionRule s) g.candidates with
  | .error failure => .error failure
  | .ok resolution =>
    match Catalog.make g.token g.tenant (homeRegion s resolution) none resolution.endpoints with
    | .error fault => .error (.fault fault)
    | .ok catalog => .ok catalog

/-- The catalog that an answer gives a session. -/
def catalogOf (s : Session) (answer : String) : Except Failure Catalog :=
  match Grant.read s.account answer with
  | .error failure => .error failure
  | .ok grant => grant.toCatalog s

end CloudClient.Identity
