import CloudClient.Authentication.Sequence
import CloudClient.Call.Course
import CloudClient.Call.Request
import CloudClient.Call.Throttle

/-!
# Which catalog to call with

A `Caller` acts for one session. It calls with the catalog that the cache has
for the session, and authenticates when there is none. Now and then, at a
configured probability, a cached catalog is first put to the test: a *probe*
with its token asks the other side, and only an answer that rejects the
credentials counts against it. A network that fails, or an answer that is an
error of another kind, says nothing about the token.

## One authentication at a time

Authentication happens under the lock of the session, and the cache is looked
at once more when the lock has been taken: whoever had it before may have
authenticated in the meantime.

A catalog that has been rejected is removed from the cache only if the cache
still has that very catalog.

All of this is written down as courses, one act after another, so that it can
be run by one caller alone or by many at a time.
-/

namespace CloudClient

/-- What a probe asks for. -/
structure Probe where
  /-- The service that is asked; the first that there is, if the catalog does
  not have it. -/
  service : String := "compute"
  path : String := ""
  method : String := "GET"
  deriving DecidableEq, Repr

/-- Who makes calls for a session. -/
structure Caller where
  session : Session
  throttle : Throttle := .usual
  /-- How often a cached catalog is put to the test. -/
  revalidation : Binary64 := .ofRatio false 1 10
  probe : Probe := {}

namespace Caller

/-- The name of the session's entry in the cache. -/
def key (c : Caller) : CacheKey := c.session.cacheKey

/-! ## Authentication -/

/-- Authenticates; the catalog is not stored. -/
def authenticate (c : Caller) : Course (Except Failure Issued) :=
  .does .authentication fun _ =>
    (Course.converse .authentication (Authentication.usual c.session)).andThen fun
      | .error failure => .ended (.error failure)
      | .ok catalog => .does (.issue catalog) fun issued => .ended (.ok issued)

/-- Authenticates and stores the catalog. -/
def refresh (c : Caller) : Course (Except Failure Issued) :=
  c.authenticate.andThen fun
    | .error failure => .ended (.error failure)
    | .ok issued => .does (.store c.key issued) fun _ => .ended (.ok issued)

/-- What the holder of the lock does: the cache may have a catalog by now. -/
def refreshIfMissing (c : Caller) : Course (Except Failure Issued) :=
  .does (.lookup c.key) fun
    | some issued => .ended (.ok issued)
    | none => c.refresh

/-- The catalog under the lock of the session, which is given back whatever
comes of it. -/
def authenticateOnce (c : Caller) : Course (Except Failure Issued) :=
  .does (.sessionLock c.key) fun lock =>
    .does (.acquire lock) fun _ =>
      c.refreshIfMissing.andThen fun result => .does (.release lock) fun _ => .ended result

/-! ## Probes -/

/-- Whether a cached catalog is put to the test this time. -/
def wantsProbe (c : Caller) : Course Bool :=
  if Binary64.lt (.zero false) c.revalidation then
    .does .draw fun drawn => .ended (drawn.lt c.revalidation)
  else .ended false

/-- The first of some services that a catalog has for its home region, with
its locator. -/
def firstLocated (catalog : Catalog) : List RawText → Except Defect (Option (RawText × String))
  | [] => .ok none
  | service :: more =>
    match catalog.serviceUrl service with
    | .error defect => .error defect
    | .ok (some url) => .ok (some (service, url))
    | .ok none => firstLocated catalog more

/-- The service that a probe asks, with its locator. -/
def probed (c : Caller) (catalog : Catalog) : Except Defect (Option (RawText × String)) :=
  firstLocated catalog (c.probe.service :: catalog.endpoints.keys)

/-- The request of a probe. -/
def probeRequest (c : Caller) (catalog : Catalog) (service : RawText) (base : String) : Request where
  method := c.probe.method
  url := Target.withPath base (some c.probe.path)
  headers := .ofList [(Call.tokenHeader, catalog.tokenFor service)]
  body := none

/-- Whether the answer to a probe speaks for the catalog. A status that
rejects the token settles it, and an error counts against it only if its
report rejects the token too. -/
def answerSpeaks (answer : Response) : Except Defect Bool :=
  if answer.status = 401 ∨ answer.status = 403 then .ok false
  else if answer.isOk then .ok true
  else match ErrorReport.ofResponse answer with
    | .error defect => .error defect
    | .ok none => .ok true
    | .ok (some report) => .ok !report.isRejection

/-- Whether the reply to a probe speaks for the catalog. -/
def speaksFor (request : Request) (reply : Reply) : Except Defect Bool :=
  match Channel.receive request reply with
  | .error _ => .ok true
  | .ok answer => answerSpeaks answer

/-- Whether a probe speaks for a catalog. -/
def accepts (c : Caller) (held : Issued) : Course (Except Failure Bool) :=
  match c.probed held.catalog with
  | .error defect => .ended (.error (.defect defect))
  | .ok none => .ended (.ok true)
  | .ok (some (service, base)) =>
    let request := c.probeRequest held.catalog service base
    .does (.send (.probe held) request) fun reply =>
      .ended ((speaksFor request reply).mapError .defect)

/-! ## The catalog -/

/-- The catalog in place of one that has been rejected. -/
def replace (c : Caller) (held : Issued) : Course (Except Failure Issued) :=
  .does (.invalidate c.key held) fun _ =>
    .does (.lookup c.key) fun
      | some issued => .ended (.ok issued)
      | none => c.authenticateOnce

/-- A cached catalog, put to the test if it is its turn. -/
def recheck (c : Caller) (held : Issued) : Course (Except Failure Issued) :=
  c.wantsProbe.andThen fun
    | false => .ended (.ok held)
    | true => (c.accepts held).andThen fun
      | .error failure => .ended (.error failure)
      | .ok true => .ended (.ok held)
      | .ok false => .does (.invalidate c.key held) fun _ => c.authenticateOnce

/-- How a caller comes by the catalog to call with. -/
def resolve (c : Caller) : Course (Except Failure Issued) :=
  .does (.lookup c.key) fun
    | some held => c.recheck held
    | none => c.authenticateOnce

/-- The catalog to call with. -/
def catalog (c : Caller) (w : Surroundings) : Except Failure Issued × Surroundings :=
  c.resolve.run w

end Caller

end CloudClient
