import CloudClient.Call.Caller
import CloudClient.Call.Result

/-!
# Making a call

A call is attempted with the catalog of the moment. Two answers lead to
another attempt: a rejection of the credentials, once, with a catalog in
place of the rejected one; and a throttling, as often as the configuration
allows, after a pause. Every other answer ends the call, and so does a failure
of the network, which is never tried again.

`Caller.attempt` is the loop. It counts down what may still be recovered
from, so it ends; and the catalog it holds changes in one place only, where a
rejection is recovered from.
-/

namespace CloudClient

namespace Fault

/-- A call has been rejected with fresh credentials too. -/
def rejected (r : ErrorReport) : Fault :=
  .cloud .rejected r.code .authentication r.message r.explanation none

/-- A call has been throttled after all pauses too. -/
def throttled (r : ErrorReport) : Fault :=
  .cloud .throttled r.code .throttling r.message r.explanation none

end Fault

namespace Caller

/-- The attempts of a call with a catalog, when `renewals` rejections and
`pauses` throttlings may still be recovered from. The payload is the same in
all of them. -/
def attempt (c : Caller) (call : Call) (payload : Option Octets) (held : Issued)
    (renewals pauses : Nat) : Course (Except Failure CallResult) :=
  match call.request payload held.catalog with
  | .error failure => .ended (.error failure)
  | .ok request =>
    .does (.send (.resource held) request) fun reply =>
      match Channel.receive request reply with
      | .error fault => .ended (.error (.fault fault))
      | .ok answer =>
        match Verdict.of answer with
        | .error defect => .ended (.error (.defect defect))
        | .ok .success => .ended (.ok (.ofResponse true answer))
        | .ok .absent => .ended (.ok (.ofResponse false answer))
        | .ok (.failure report) => .ended (.error (.fault report.toFault))
        | .ok (.rejection report) =>
          match renewals with
          | 0 => .ended (.error (.fault (.rejected report)))
          | renewals + 1 =>
            (c.replace held).andThen fun
              | .error failure => .ended (.error failure)
              | .ok held => c.attempt call payload held renewals pauses
        | .ok (.throttle report) =>
          match pauses with
          | 0 => .ended (.error (.fault (.throttled report)))
          | pauses + 1 =>
            match c.throttle.delay report.retryAfter (answer.header? Throttle.header) with
            | .error defect => .ended (.error (.defect defect))
            | .ok delay =>
              .does (.pause delay) fun _ => c.attempt call payload held renewals pauses
termination_by renewals + pauses

/-- How many rejections a call recovers from. -/
def renewalCount : Nat := 1

/-- A call whose body is encoded. -/
def performWith (c : Caller) (call : Call) (payload : Option Octets) :
    Course (Except Failure CallResult) :=
  c.resolve.andThen fun
    | .error failure => .ended (.error failure)
    | .ok held => c.attempt call payload held renewalCount c.throttle.pauseCount

/-- The course of a call. A body that cannot be encoded ends it before it
begins. -/
def perform (c : Caller) (call : Call) : Course (Except Failure CallResult) :=
  match call.body.encode with
  | .error defect => .ended (.error (.defect defect))
  | .ok payload => c.performWith call payload

/-- Makes a call. -/
def execute (c : Caller) (call : Call) (w : Surroundings) :
    Except Failure CallResult × Surroundings :=
  (c.perform call).run w

end Caller

end CloudClient
