import CloudClient.Http.ErrorReport
import CloudClient.Json.Encoding

/-!
# What an answer means to a call

`Verdict.of` sorts the answers to a call. A status of success is one whatever
the body. A status of 404, or a body that says so, means that the resource
is absent, which is an answer like any other. What is left reports an error:
that the credentials are rejected, that the call came too early – both can be
recovered from – or something else.

A call that has ended well has a `CallResult`. Its document, if there is a
body at all, is in whatever encoding its octets announce; a body that is not
the document it should be is a fault of communication, unless it is nested
too deep to tell, which is a defect.
-/

namespace CloudClient

/-- What an answer means. -/
inductive Verdict where
  | success
  | absent
  /-- The credentials are rejected. -/
  | rejection (report : ErrorReport)
  /-- The call came too early. -/
  | throttle (report : ErrorReport)
  /-- The call failed in another way. -/
  | failure (report : ErrorReport)
  deriving DecidableEq, Repr

namespace Verdict

/-- The status of a resource that is absent. -/
def absentCode : Int := 404

/-- What a report means. -/
def ofReport (r : ErrorReport) : Verdict :=
  if r.isRejection then .rejection r
  else if r.isThrottle then .throttle r
  else .failure r

/-- What a report means, or that there is none. -/
def ofReport? : Option ErrorReport → Verdict
  | none => .absent
  | some report => ofReport report

/-- What an answer means. -/
def of (answer : Response) : Except Defect Verdict :=
  if answer.isOk then .ok .success
  else if answer.status = absentCode then .ok .absent
  else (ErrorReport.ofResponse answer).map ofReport?

/-- **How an answer is read**: one rule for each verdict, and one for a body
that cannot be read. -/
inductive Reading (answer : Response) : Except Defect Verdict → Prop where
  | success (hok : answer.isOk = true) : Reading answer (.ok .success)
  | absent (hok : answer.isOk = false)
      (h : answer.status = absentCode ∨ ErrorReport.ofResponse answer = .ok none) :
      Reading answer (.ok .absent)
  | unreadable {defect : Defect} (hok : answer.isOk = false) (h404 : answer.status ≠ absentCode)
      (h : ErrorReport.ofResponse answer = .error defect) : Reading answer (.error defect)
  | rejection {report : ErrorReport} (hok : answer.isOk = false)
      (h404 : answer.status ≠ absentCode) (h : ErrorReport.ofResponse answer = .ok (some report))
      (hr : report.isRejection = true) : Reading answer (.ok (.rejection report))
  | throttle {report : ErrorReport} (hok : answer.isOk = false)
      (h404 : answer.status ≠ absentCode) (h : ErrorReport.ofResponse answer = .ok (some report))
      (hr : report.isRejection = false) (ht : report.isThrottle = true) :
      Reading answer (.ok (.throttle report))
  | failure {report : ErrorReport} (hok : answer.isOk = false)
      (h404 : answer.status ≠ absentCode) (h : ErrorReport.ofResponse answer = .ok (some report))
      (hr : report.isRejection = false) (ht : report.isThrottle = false) :
      Reading answer (.ok (.failure report))

/-- The verdict on an answer follows the rules. -/
theorem reading_of (answer : Response) : Reading answer (of answer) := by
  unfold of
  cases hok : answer.isOk with
  | true => exact .success hok
  | false =>
    rw [if_neg Bool.false_ne_true]
    by_cases h404 : answer.status = absentCode
    · rw [if_pos h404]
      exact .absent hok (.inl h404)
    · rw [if_neg h404]
      cases h : ErrorReport.ofResponse answer with
      | error defect => exact .unreadable hok h404 h
      | ok report? =>
        cases report? with
        | none => exact .absent hok (.inr h)
        | some report =>
          show Reading answer (.ok (ofReport report))
          unfold ofReport
          cases hr : report.isRejection with
          | true => exact .rejection hok h404 h hr
          | false =>
            cases ht : report.isThrottle with
            | true => exact .throttle hok h404 h hr ht
            | false => exact .failure hok h404 h hr ht

end Verdict

/-- The result of a call. -/
structure CallResult where
  /-- Whether the resource is there. -/
  found : Bool
  /-- The status of the answer. -/
  code : Int
  headers : ResponseHeaders
  /-- The body of the answer. -/
  payload : Octets

namespace CallResult

/-- The result that an answer is. -/
def ofResponse (found : Bool) (answer : Response) : CallResult :=
  ⟨found, answer.status, answer.headers, answer.body⟩

/-- How a call has ended, in a word. -/
def ending (r : CallResult) : String := if r.found then "success" else "absent"

/-- The body as text. -/
def text (r : CallResult) : String := Utf8.decodeLossy r.payload

/-- Whether an octet is a blank. -/
def isBlankOctet (b : UInt8) : Bool := Text.isAsciiBlank (Char.ofNat b.toNat)

/-- What is said of a body that is no document. -/
def malformedExplanation : String := "Cloud returned malformed JSON in a success response"

/-- What comes of a body that is not read. -/
def unread (r : CallResult) : Json.OctetsFault → Failure
  | .undecodable => .fault (.invalidDocument r.code malformedExplanation (some .undecodable))
  | .unreadable fault => .unread r.code malformedExplanation fault

/-- The document that the body is; null if the body is blank. -/
def json (r : CallResult) : Except Failure Json :=
  if r.payload.all isBlankOctet then .ok .null
  else (Json.readOctets r.payload).mapError r.unread

end CallResult

end CloudClient
