import CloudClient.Authentication.Headers.Regional
import CloudClient.Authentication.Headers.Storage
import CloudClient.Authentication.Identity
import CloudClient.Authentication.Plan

/-!
# Authentication in sequence

The dialects of a plan are tried in order until one does not reject: its
catalog is the result, or its fault. A name without a dialect is a fault
where it is reached, and when all have rejected that is a fault too, of a
role of its own. Each attempt begins where the one before it has left off.
-/

namespace CloudClient

/-- The attempt to authenticate a session in a dialect. -/
def Dialect.attempt (s : Session) (endpoint : String) : Dialect → Attempt
  | .identity => Identity.attempt s endpoint
  | .regional => RegionalHeaders.attempt s endpoint
  | .storage => StorageHeaders.attempt s endpoint

/-- What authentication comes to in the end. -/
abbrev Authentication := Conversation (Except Failure Catalog)

namespace Authentication

/-- How it goes on after an attempt: a rejection leaves it to the others. -/
def proceed (others : Authentication) : Except Defect Outcome → Authentication
  | .error defect => .ended (.error (.defect defect))
  | .ok (.authenticated catalog) => .ended (.ok catalog)
  | .ok (.failed fault) => .ended (.error (.fault fault))
  | .ok (.rejected _) => others

/-- The dialects of the given names tried in order. -/
def tryAll (known : List Dialect) (s : Session) (endpoint : String) : List String → Authentication
  | [] => .ended (.error (.fault (.authenticationFailed (some endpoint))))
  | name :: more =>
    match Dialect.find? known name with
    | none => .ended (.error (.fault (.internal (.unknownDialect name) [] none)))
    | some dialect => (dialect.attempt s endpoint).andThen (proceed (tryAll known s endpoint more))

/-- Authentication after a plan, by the dialects that are known. -/
def follow (known : List Dialect) (plan : Plan) (s : Session) : Authentication :=
  tryAll known s plan.endpoint plan.order

/-- Authentication of a session by all dialects, after the plan for its
endpoint. -/
def usual (s : Session) : Authentication := follow Dialect.all (Plan.choose s.endpoint) s

end Authentication

end CloudClient
