import CloudClient.Call.Execution
import CloudClient.Proofs.CatalogSearch

/-!
# How a call is pursued

The loop of a call is a function that counts two budgets down. To reason about
what it does, this module writes it once more as rules: `Pursuit` relates a
catalog, the two budgets and the surroundings with the moments that follow and
the result in the end. There is a rule for each way on – a renewed catalog, a
pause – and one for each way out, and `pursuit_attempt` says that the loop
follows them. Whatever holds of all runs of the loop is then an induction over
the rules, with no look at the loop itself.

## What a reply means

The verdict on an answer is an order of tests, and an answer can pass several
of them: a 401 may also say how long to wait. So the rules speak of what is
*reported* (`Reply.report?`): of nothing, when the reply is a success or says
that the resource is absent, and else of a report, which is a rejection, or a
throttling and no rejection, or neither.
-/

namespace CloudClient

namespace Reply

/-- The report of a reply that is neither a success nor absence by its
status, if there is one and it can be read. -/
def report? : Reply → Option ErrorReport
  | .failure _ => none
  | .response answer =>
    if answer.isOk || decide (answer.status = Verdict.absentCode) then none
    else (ErrorReport.ofResponse answer).toOption.join

/-- Whether a reply rejects the credentials. -/
def isRejection (reply : Reply) : Bool := reply.report?.any ErrorReport.isRejection

/-- Whether a reply says that the call came too early, and nothing worse. -/
def isThrottling (reply : Reply) : Bool :=
  reply.report?.any fun report => !report.isRejection && report.isThrottle

theorem report?_response {answer : Response} {report : ErrorReport} (hok : answer.isOk = false)
    (h404 : answer.status ≠ Verdict.absentCode)
    (h : ErrorReport.ofResponse answer = .ok (some report)) :
    (Reply.response answer).report? = some report := by
  have hif : (answer.isOk || decide (answer.status = Verdict.absentCode)) = false := by
    simp [hok, h404]
  rw [report?, hif, h]
  rfl

theorem isRejection_of_report? {reply : Reply} {report : ErrorReport}
    (h : reply.report? = some report) : reply.isRejection = report.isRejection := by
  rw [isRejection, h]
  rfl

theorem isThrottling_of_report? {reply : Reply} {report : ErrorReport}
    (h : reply.report? = some report) :
    reply.isThrottling = (!report.isRejection && report.isThrottle) := by
  rw [isThrottling, h]
  rfl

/-- **No reply is both a rejection and a throttling.** -/
theorem isThrottling_eq_false {reply : Reply} (h : reply.isRejection = true) :
    reply.isThrottling = false := by
  cases hr : reply.report? with
  | none => rw [isThrottling, hr]; rfl
  | some report =>
    rw [isThrottling_of_report? hr, ← isRejection_of_report? hr, h]
    rfl

theorem isRejection_eq_false {reply : Reply} (h : reply.isThrottling = true) :
    reply.isRejection = false := by
  cases hr : reply.isRejection with
  | false => rfl
  | true =>
    rw [isThrottling_eq_false hr] at h
    exact h.symm

end Reply

/-! ## The ways out that no budget decides -/

/-- **A reply that settles a call**, whatever may still be recovered from. -/
inductive Settled (request : Request) : Reply → Except Failure CallResult → Prop where
  | unreachable (fault : NetworkFailure) :
      Settled request (.failure fault)
        (.error (.fault (.network request.method request.url fault)))
  | success {answer : Response} (hok : answer.isOk = true) :
      Settled request (.response answer) (.ok (.ofResponse true answer))
  | absent {answer : Response} (hok : answer.isOk = false)
      (h : answer.status = Verdict.absentCode ∨ ErrorReport.ofResponse answer = .ok none) :
      Settled request (.response answer) (.ok (.ofResponse false answer))
  | unreadable {answer : Response} {defect : Defect} (hok : answer.isOk = false)
      (h404 : answer.status ≠ Verdict.absentCode)
      (h : ErrorReport.ofResponse answer = .error defect) :
      Settled request (.response answer) (.error (.defect defect))
  | failed {reply : Reply} {report : ErrorReport} (h : reply.report? = some report)
      (hr : report.isRejection = false) (ht : report.isThrottle = false) :
      Settled request reply (.error (.fault report.toFault))

/-- A reply that settles a call reports nothing, or neither a rejection nor a
throttling. -/
theorem Settled.of_report {request : Request} {reply : Reply} {report : ErrorReport}
    {result : Except Failure CallResult} (h : Settled request reply result)
    (hreport : reply.report? = some report) :
    report.isRejection = false ∧ report.isThrottle = false
      ∧ result = .error (.fault report.toFault) := by
  cases h <;> simp_all [Reply.report?, Except.toOption]

theorem Settled.isRejection_eq_false {request : Request} {reply : Reply}
    {result : Except Failure CallResult} (h : Settled request reply result) :
    reply.isRejection = false := by
  cases hreport : reply.report? with
  | none =>
    rw [Reply.isRejection, hreport]
    rfl
  | some report =>
    rw [Reply.isRejection_of_report? hreport]
    exact (h.of_report hreport).1

/-! ## The rules -/

/-- The moment at which the resource is asked for with a catalog. -/
def Moment.asking (held : Issued) (request : Request) (w : Surroundings) : Moment :=
  ⟨w, .send (.resource held) request⟩

theorem trials_asking {held : Issued} {request : Request} {reply : Reply} {w w' : Surroundings}
    (hanswered : w.send (.resource held) request = (reply, w')) (rest : List Moment) :
    trials (.asking held request w :: rest) = ⟨held, request, reply, w'⟩ :: trials rest := by
  show ⟨held, request, (w.send (.resource held) request).1,
    (w.send (.resource held) request).2⟩ :: trials rest = _
  rw [hanswered]

theorem trials_pause (w : Surroundings) (delay : Binary64) (rest : List Moment) :
    trials (⟨w, .pause delay⟩ :: rest) = trials rest :=
  rfl

/-- The call has a request for a catalog, and this is what comes of it. -/
structure Asked (call : Call) (payload : Option Octets) (held : Issued) (request : Request)
    (w : Surroundings) (reply : Reply) (w' : Surroundings) : Prop where
  sent : call.request payload held.catalog = .ok request
  answered : w.send (.resource held) request = (reply, w')

/-- **How a call is pursued** with a catalog, when so many rejections and so
many throttlings may still be recovered from. -/
inductive Pursuit (c : Caller) (call : Call) (payload : Option Octets) :
    Issued → Nat → Nat → Surroundings → List Moment → Except Failure CallResult → Prop where
  /-- There is no request to send. -/
  | unsent {held : Issued} {renewals pauses : Nat} {w : Surroundings} {failure : Failure}
      (hunsent : call.request payload held.catalog = .error failure) :
      Pursuit c call payload held renewals pauses w [] (.error failure)
  /-- The reply settles it. -/
  | settled {held : Issued} {renewals pauses : Nat} {w w' : Surroundings} {request : Request}
      {reply : Reply} {result : Except Failure CallResult}
      (hasked : Asked call payload held request w reply w') (h : Settled request reply result) :
      Pursuit c call payload held renewals pauses w [.asking held request w] result
  /-- A rejection that is not recovered from. -/
  | rejected {held : Issued} {pauses : Nat} {w w' : Surroundings} {request : Request}
      {reply : Reply} {report : ErrorReport}
      (hasked : Asked call payload held request w reply w')
      (h : reply.report? = some report) (hr : report.isRejection = true) :
      Pursuit c call payload held 0 pauses w [.asking held request w]
        (.error (.fault (.rejected report)))
  /-- A rejection after which there is no other catalog. -/
  | lost {held : Issued} {renewals pauses : Nat} {w w' : Surroundings} {request : Request}
      {reply : Reply} {failure : Failure}
      (hasked : Asked call payload held request w reply w') (h : reply.isRejection = true)
      (hlost : ((c.replace held).run w').1 = .error failure) :
      Pursuit c call payload held (renewals + 1) pauses w
        (.asking held request w :: (c.replace held).history w') (.error failure)
  /-- A rejection after which it goes on with another catalog. -/
  | renewed {held other : Issued} {renewals pauses : Nat} {w w' : Surroundings}
      {request : Request} {reply : Reply} {rest : List Moment}
      {result : Except Failure CallResult}
      (hasked : Asked call payload held request w reply w') (h : reply.isRejection = true)
      (hother : ((c.replace held).run w').1 = .ok other)
      (hrest : Pursuit c call payload other renewals pauses ((c.replace held).run w').2 rest
        result) :
      Pursuit c call payload held (renewals + 1) pauses w
        (.asking held request w :: ((c.replace held).history w' ++ rest)) result
  /-- A throttling that is not recovered from. -/
  | throttled {held : Issued} {renewals : Nat} {w w' : Surroundings} {request : Request}
      {reply : Reply} {report : ErrorReport}
      (hasked : Asked call payload held request w reply w')
      (h : reply.report? = some report) (hr : report.isRejection = false)
      (ht : report.isThrottle = true) :
      Pursuit c call payload held renewals 0 w [.asking held request w]
        (.error (.fault (.throttled report)))
  /-- A throttling that asks for a pause of no length. -/
  | endless {held : Issued} {renewals pauses : Nat} {w w' : Surroundings} {request : Request}
      {answer : Response} {report : ErrorReport} {defect : Defect}
      (hasked : Asked call payload held request w (.response answer) w')
      (h : (Reply.response answer).report? = some report)
      (hr : report.isRejection = false) (ht : report.isThrottle = true)
      (hdelay : c.throttle.delay report.retryAfter (answer.header? Throttle.header)
        = .error defect) :
      Pursuit c call payload held renewals (pauses + 1) w [.asking held request w]
        (.error (.defect defect))
  /-- A throttling after which it goes on after a pause. -/
  | paused {held : Issued} {renewals pauses : Nat} {w w' : Surroundings} {request : Request}
      {reply : Reply} {delay : Binary64} {rest : List Moment}
      {result : Except Failure CallResult}
      (hasked : Asked call payload held request w reply w') (h : reply.isThrottling = true)
      (hrest : Pursuit c call payload held renewals pauses (w'.pause delay) rest result) :
      Pursuit c call payload held renewals (pauses + 1) w
        (.asking held request w :: ⟨w', .pause delay⟩ :: rest) result

/-- **The loop follows the rules.** -/
theorem pursuit_attempt (c : Caller) (call : Call) (payload : Option Octets) (held : Issued)
    (renewals pauses : Nat) (w : Surroundings) :
    Pursuit c call payload held renewals pauses w
      ((c.attempt call payload held renewals pauses).history w)
      ((c.attempt call payload held renewals pauses).run w).1 := by
  -- either budget may be the next to go down, so it goes by their sum
  induction h : renewals + pauses using Nat.strongRecOn
    generalizing held renewals pauses w with
  | ind budget ih =>
    rw [Caller.attempt]
    cases hsent : call.request payload held.catalog with
    | error failure => exact .unsent hsent
    | ok request =>
      simp only [Course.history_does, Course.run_does, Surroundings.perform]
      rcases hanswered : w.send (.resource held) request with ⟨reply, w'⟩
      have hasked : Asked call payload held request w reply w' := ⟨hsent, hanswered⟩
      cases reply with
      | failure fault => exact .settled hasked (.unreachable fault)
      | response answer =>
        have hread := Verdict.reading_of answer
        simp only [Channel.receive]
        generalize Verdict.of answer = verdict at hread ⊢
        cases hread with
        | success hok => exact .settled hasked (.success hok)
        | absent hok habsent => exact .settled hasked (.absent hok habsent)
        | unreadable hok h404 hdefect => exact .settled hasked (.unreadable hok h404 hdefect)
        | failure hok h404 hreport hr ht =>
          exact .settled hasked (.failed (Reply.report?_response hok h404 hreport) hr ht)
        | rejection hok h404 hreport hr =>
          have hsays := Reply.report?_response hok h404 hreport
          have hrejects := (Reply.isRejection_of_report? hsays).trans hr
          cases renewals with
          | zero => exact .rejected hasked hsays hr
          | succ renewals =>
            simp only [Course.history_andThen, Course.run_andThen]
            cases hother : ((c.replace held).run w').1 with
            | error failure =>
              rw [Course.history_ended, List.append_nil]
              exact .lost hasked hrejects hother
            | ok other =>
              exact .renewed hasked hrejects hother (ih (renewals + pauses) (by omega) _ _ _ _ rfl)
        | throttle hok h404 hreport hr ht =>
          have hsays := Reply.report?_response hok h404 hreport
          have hthrottles : (Reply.response answer).isThrottling = true := by
            rw [Reply.isThrottling_of_report? hsays, hr, ht]
            rfl
          cases pauses with
          | zero => exact .throttled hasked hsays hr ht
          | succ pauses =>
            simp only
            cases hdelay : c.throttle.delay _ (answer.header? Throttle.header) with
            | error defect => exact .endless hasked hsays hr ht hdelay
            | ok delay =>
              exact .paused hasked hthrottles (ih (renewals + pauses) (by omega) _ _ _ _ rfl)

/-- A body that has octets goes along with the call. -/
theorem Caller.perform_of_encode (c : Caller) {call : Call} {payload : Option Octets}
    (hbody : call.body.encode = .ok payload) : c.perform call = c.performWith call payload := by
  unfold Caller.perform
  rw [hbody]

/-- **A call is a search for a catalog and a pursuit**, if the search yields
one. -/
theorem performWith_cases (c : Caller) (call : Call) (payload : Option Octets)
    (w : Surroundings) :
    (∃ failure, (c.resolve.run w).1 = .error failure
        ∧ (c.performWith call payload).history w = c.resolve.history w
        ∧ ((c.performWith call payload).run w).1 = .error failure)
      ∨ ∃ held rest, (c.resolve.run w).1 = .ok held
        ∧ (c.performWith call payload).history w = c.resolve.history w ++ rest
        ∧ Pursuit c call payload held 1 c.throttle.maxPauses.toNat (c.resolve.run w).2 rest
          ((c.performWith call payload).run w).1 := by
  unfold Caller.performWith
  rw [Course.history_andThen, Course.run_andThen]
  cases hobtained : (c.resolve.run w).1 with
  | error failure => exact .inl ⟨failure, rfl, List.append_nil _, rfl⟩
  | ok held => exact .inr ⟨held, _, rfl, rfl, pursuit_attempt c call payload held _ _ _⟩

end CloudClient
