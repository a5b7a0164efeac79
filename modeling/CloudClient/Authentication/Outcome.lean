import CloudClient.Catalog
import CloudClient.Http.Conversation
import CloudClient.Http.ErrorReport
import CloudClient.Session

/-!
# What comes of an attempt to authenticate

There are several ways to authenticate, called dialects. An attempt in one of
them ends in one of three ways: with a catalog; with a rejection of the
credentials, after which another dialect may be tried, since an endpoint that
does not speak a dialect rejects as well; or with a fault, after which
nothing more is tried.

`Outcome.settle` is where faults become outcomes. A defect is no outcome and
goes past it.
-/

namespace CloudClient

/-- A way to authenticate. -/
inductive Dialect where
  /-- Credentials in a document to an identity service. -/
  | identity
  /-- Credentials in headers, to one endpoint after another. -/
  | regional
  /-- Credentials in headers, to a store of objects. -/
  | storage
  deriving DecidableEq, Repr

namespace Dialect

/-- The name of a dialect. -/
def name : Dialect → String
  | .identity => "keystone"
  | .regional => "legacy"
  | .storage => "swift"

/-- All dialects. -/
def all : List Dialect := [.identity, .regional, .storage]

/-- The dialect of the given name among some. -/
def find? (known : List Dialect) (name : String) : Option Dialect :=
  known.find? fun d => d.name == name

end Dialect

/-- Why credentials count as rejected. -/
inductive Rejection where
  /-- The identity service answered with a fault of its own. -/
  | faultDocument
  /-- The status of the answer, or its body, says so. -/
  | status (code : Int)
  /-- The answer of a certain endpoint says so. -/
  | statusFrom (code : Int) (url : String)
  deriving DecidableEq, Repr

/-- A rejection in words. -/
def Rejection.reason : Rejection → String
  | .faultDocument => "HTTP 500 fault"
  | .status code => "HTTP " ++ toString code
  | .statusFrom code url => "HTTP " ++ toString code ++ " from " ++ url

/-- What comes of an attempt. -/
inductive Outcome where
  | authenticated (catalog : Catalog)
  | rejected (why : Rejection)
  | failed (fault : Fault)

/-- An attempt to authenticate, as it is held with the other side. -/
abbrev Attempt := Conversation (Except Defect Outcome)

namespace Outcome

/-- The outcome where a fault is one. -/
def settle : Except Failure Outcome → Except Defect Outcome
  | .ok outcome => .ok outcome
  | .error (.fault fault) => .ok (.failed fault)
  | .error (.defect defect) => .error defect

/-- The end of an attempt. -/
def conclude (result : Except Failure Outcome) : Attempt := .ended (settle result)

/-- The fault of a report, or of none, where an answer neither succeeds nor
rejects. Even absence is a fault here, since there is nothing that could be
absent. -/
def faultOf (place : String) : Option ErrorReport → Fault
  | none => .communication 404 ("No such object: " ++ place) "" none
  | some report => report.toFault

/-- The outcome of an answer that neither succeeds nor rejects. -/
def unexpected (response : Response) (place : String) : Except Defect Outcome :=
  (ErrorReport.ofResponse response).map fun report => .failed (faultOf place report)

end Outcome

end CloudClient
