import CloudClient.Http.ErrorReport
import CloudClient.Number.Decimal

/-!
# Throttling

A call that comes too early is made again after a pause. For how long to
pause the body of the answer says, or else a header of it, or else the
configuration; whoever says it, the pause is neither negative nor longer than
the configuration allows. A header that is no number is passed over.

How often a call may pause is configured too, and no more than a count: there
is no growing delay between attempts.
-/

namespace CloudClient

/-- How throttled calls are repeated. -/
structure Throttle where
  /-- How many seconds to pause when nobody says. -/
  defaultDelay : Binary64
  /-- How many seconds to pause at most. -/
  maxDelay : Binary64
  /-- How often a call may pause. -/
  maxPauses : Int
  deriving DecidableEq, Repr

namespace Throttle

/-- The header that says for how long to pause. -/
def header : String := "Retry-After"

/-- The configuration unless another is given. -/
def usual : Throttle := ⟨.ofRatio false 5 1, .ofRatio false 60 1, 1⟩

/-- The pause that a header asks for, if it is a number. -/
def headerDelay? (value : Option String) : Option Binary64 :=
  match value with
  | none => none
  | some value => Decimal.read? (Text.trim value)

/-- The pause that is asked for. -/
def asked (t : Throttle) (wait : Option Int) (value : Option String) : Except Defect Binary64 :=
  match wait with
  | none => .ok ((headerDelay? value).getD t.defaultDelay)
  | some seconds =>
    match Binary64.ofInt? seconds with
    | none => .error .hugeDelay
    | some delay => .ok delay

/-- The pause within its bounds. -/
def bounded (t : Throttle) (delay : Binary64) : Binary64 :=
  Binary64.max (.zero false) (Binary64.min delay t.maxDelay)

/-- The pause before a call is made again. -/
def delay (t : Throttle) (wait : Option Int) (value : Option String) : Except Defect Binary64 :=
  (t.asked wait value).map t.bounded

/-- How often a call may pause, as a count. -/
def pauseCount (t : Throttle) : Nat := t.maxPauses.toNat

end Throttle

end CloudClient
