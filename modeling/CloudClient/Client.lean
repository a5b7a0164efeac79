import CloudClient.Call.Shorthand
import CloudClient.Profile.Sources

/-!
# Clients

A client is what a program holds: a caller for one session, and the channel
that its requests go out by. A channel that the client has made for itself is
closed with it; one that it was given belongs to the giver.
-/

namespace CloudClient

/-- A caller with its channel. -/
structure Client where
  caller : Caller
  channel : Channel
  /-- Whether the channel was made for this client. -/
  ownsChannel : Bool
  /-- How often the channel has been closed. -/
  closings : Nat := 0

namespace Client

/-- The client of a caller, by the given channel or one of its own. -/
def ofCaller (caller : Caller) (given : Option Channel) : Client :=
  match given with
  | some channel => { caller, channel, ownsChannel := false }
  | none => { caller, channel := Channel.forSession {} caller.session, ownsChannel := true }

/-- The session of a client. -/
def session (c : Client) : Session := c.caller.session

/-- Ends the use of a client. -/
def close (c : Client) : Client :=
  if c.ownsChannel then { c with closings := c.closings + 1 } else c

/-- Tries the credentials: authenticates past the cache and stores the
catalog. Gives the tenant, or null if authentication ends in a fault, which
leaves the cache alone. -/
def testCredentials (c : Client) (w : Surroundings) : Except Failure Json × Surroundings :=
  let made := c.caller.refresh.run w
  match made.1 with
  | .error (.fault _) => (.ok .null, made.2)
  | .error (.defect defect) => (.error (.defect defect), made.2)
  | .ok issued => (.ok issued.catalog.tenant, made.2)

/-- The locator whose path tells the version: that of the compute service, or
of the object store where there is none. -/
def versionedUrl (catalog : Catalog) : Except Defect (Option String) :=
  match catalog.computeUrl with
  | .error defect => .error defect
  | .ok (some url) => .ok (some url)
  | .ok none => catalog.storageUrl

/-- The version of the services of a catalog. -/
def versionOf (catalog : Catalog) : Except Defect Version :=
  match versionedUrl catalog with
  | .error defect => .error defect
  | .ok url => Version.ofEndpoint url

/-- The version of the services that are called. -/
def serviceVersion (c : Client) (w : Surroundings) : Except Failure Version × Surroundings :=
  let found := c.caller.catalog w
  match found.1 with
  | .error failure => (.error failure, found.2)
  | .ok issued =>
    match versionOf issued.catalog with
    | .error defect => (.error (.defect defect), found.2)
    | .ok version => (.ok version, found.2)

end Client

end CloudClient
