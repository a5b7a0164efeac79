import CloudClient.Http.Message
import CloudClient.Json.Writer

/-!
# Error reports

A response that is no success says in its body what went wrong, more or less.
An `ErrorReport` is what is made of it: the status, a kind, a short message, a
longer explanation, and for how long to wait if the body says so. Two shapes
of body are known, which mean the same: the parts lie flat in one object, or
in an object inside it whose name is the fault. A body that is neither is an
explanation as a whole.

Some bodies do not report an error at all: that an item is not there, or that
an identifier has the wrong form and so cannot be there, is *absence*, and
`ErrorReport.ofRaw` then has no report. Whether that is so depends on the
body alone.

A body that is malformed is an explanation like any other text. Only one that
is nested too deep has no report and does not lack one either: it is a defect.

The status decides a single thing: with 413 the kind is throttling whatever
the body says. An exhausted limit together with a waiting time is throttling
too, and without one a matter of quota.
-/

namespace CloudClient

/-- What a failed response reports. -/
structure ErrorReport where
  /-- The status of the response. -/
  code : Int
  /-- How it is classified. -/
  kind : FaultKind
  /-- The name of the fault, or a short message. -/
  message : String
  /-- A longer explanation. -/
  explanation : String
  /-- For how many seconds to wait. -/
  retryAfter : Option Int
  deriving DecidableEq, Repr

namespace ErrorReport

/-- The message of a body without one. -/
def defaultMessage : String := "unknown"

/-- The explanation of a body without one. -/
def defaultExplanation : String := "The cloud provided an error code without explanation"

/-- The status of a throttled call. -/
def throttleCode : Int := 413

/-- Whether credentials were rejected. -/
def isRejection (r : ErrorReport) : Bool :=
  r.code == 401 || r.code == 403 || r.kind == .authentication

/-- Whether the call was throttled. -/
def isThrottle (r : ErrorReport) : Bool := r.code == throttleCode || r.kind == .throttling

/-- The fault of a call that has no role of its own. -/
def toFault (r : ErrorReport) : Fault := .cloud .call r.code r.kind r.message r.explanation none

/-! ## Classification -/

/-- The kinds of the known faults, by name in lower case. -/
def kinds : List (String × FaultKind) :=
  [("unauthorized", .authentication), ("serviceunavailable", .capacity),
   ("servercapacityunavailable", .capacity), ("overlimit", .quota),
   ("badrequest", .communication), ("badmediatype", .communication),
   ("badmethod", .communication), ("notimplemented", .communication)]

/-- The fault of an item that is not there, in lower case. -/
def absenceName : String := "itemnotfound"

/-- What an explanation has in it when an identifier has the wrong form. -/
def absencePhrases : List String := ["id should be integer"]

/-- The kind of a fault by its name; none if the fault is absence. -/
def classify (message : Option String) : Option FaultKind :=
  let name := Text.lower (Text.trim (message.getD ""))
  if name = absenceName then none else some ((kinds.lookup name).getD .general)

/-- Whether message and explanation say that an identifier has the wrong
form. -/
def saysAbsent (message explanation : String) : Bool :=
  let said := Text.lower (message ++ " " ++ explanation)
  absencePhrases.any fun phrase => Text.hasWithin phrase said

/-! ## Parts of a body -/

/-- A part of a body as text: a text itself, repaired if it is not whole, any
other value as a document, and nothing for null. -/
def textOf (v : Json) : String :=
  match v with
  | .null => ""
  | .str t => t.repaired
  | other => other.write

/-- The part of a body with the given name, as text; empty if it is
missing. -/
def part (body : List (RawText × Json)) (name : String) : String :=
  textOf ((Entries.find? body (RawText.ofString name)).getD .null)

/-- For how many seconds a part of a body says to wait: an integer, or the
notation of one; never less than zero. -/
def waitOf (v : Json) : Option Int :=
  match v with
  | .null => none
  | v =>
    match Integer.read v.shown.trim with
    | .ok n => some (max n 0)
    | .error _ => none

/-- The text, or another if it is empty. -/
def orDefault (s default : String) : String := if s = "" then default else s

/-- The first member of a body that is an object itself, with its name. -/
def wrapped? : List (RawText × Json) → Option (String × List (RawText × Json))
  | [] => none
  | (name, .obj inner) :: _ => some (name.repaired, inner)
  | _ :: more => wrapped? more

/-- The name of the fault, if the body has one, and the object with the
parts. -/
def faultOf (body : List (RawText × Json)) : Option String × List (RawText × Json) :=
  if Entries.has body (RawText.ofString "message") || Entries.has body (RawText.ofString "details")
  then (none, body)
  else match wrapped? body with
    | none => (none, body)
    | some (name, inner) => (some name, inner)

/-! ## Reports -/

/-- The kind of a body that says nothing. -/
def bareKind (code : Int) : FaultKind := if code = throttleCode then .throttling else .general

/-- The report of a body that says nothing but, perhaps, an explanation. -/
def bare (code : Int) (explanation : String) : ErrorReport :=
  ⟨code, bareKind code, defaultMessage, explanation, none⟩

/-- The kind of a report whose body is classified. -/
def settleKind (code : Int) (classified : FaultKind) (wait : Option Int) : FaultKind :=
  if code = throttleCode then .throttling
  else if classified = .quota ∧ wait.isSome then .throttling
  else classified

/-- The report of a fault with the given name and parts; none if they say that
something is absent. -/
def ofParts (code : Int) (name message explanation : String) (wait : Option Int) :
    Option ErrorReport :=
  match classify (some name) with
  | none => none
  | some classified =>
    if classified = .communication ∧ saysAbsent message explanation then none
    else some ⟨code, settleKind code classified wait, message, explanation, wait⟩

/-- The report of a body that is an object; none if it says that something is
absent. -/
def ofMembers (code : Int) (body : List (RawText × Json)) : Option ErrorReport :=
  let fault := faultOf body
  let message := orDefault (part fault.2 "message") (orDefault (fault.1.getD "") defaultMessage)
  ofParts code (orDefault (fault.1.getD "") message) message
    (orDefault (part fault.2 "details") defaultExplanation)
    (waitOf ((Entries.find? fault.2 (RawText.ofString "retryAfter")).getD .null))

/-- The report of a body; none if it says that something is absent. -/
def ofRaw (code : Int) (body : RawText) : Except Defect (Option ErrorReport) :=
  if body.isBlank then .ok (some (bare code defaultExplanation))
  else match Json.readRaw body with
    | .ok (.obj (first :: more)) => .ok (ofMembers code (first :: more))
    | .error .tooDeep => .error .deepDocument
    | _ => .ok (some (bare code body.repaired))

/-- The report of a body that is a whole text. -/
def ofText (code : Int) (body : String) : Except Defect (Option ErrorReport) := ofRaw code body

theorem ofText_eq (code : Int) (body : String) :
    ofText code body =
      if Text.allBlank body then .ok (some (bare code defaultExplanation))
      else match Json.read body with
        | .ok (.obj (first :: more)) => .ok (ofMembers code (first :: more))
        | .error .tooDeep => .error .deepDocument
        | _ => .ok (some (bare code body)) := by
  rw [ofText, ofRaw, RawText.isBlank_ofString, RawText.repaired_ofString, Json.read_eq_readRaw]

/-- The report of a body that is octets. -/
def ofOctets (code : Int) (body : Octets) : Except Defect (Option ErrorReport) :=
  ofText code (Utf8.decodeLossy body)

/-- The report of a response. -/
def ofResponse (r : Response) : Except Defect (Option ErrorReport) := ofOctets r.status r.body

end ErrorReport

/-- The body of a failed call in the form in which it is at hand. -/
inductive FailureBody where
  | missing
  | text (t : RawText)
  | octets (bytes : Octets)

/-- What a body says: nothing if it is missing, and octets what they encode,
with a replacement for those that are not UTF-8. -/
def FailureBody.said : FailureBody → RawText
  | .missing => ""
  | .text t => t
  | .octets bytes => Utf8.decodeLossy bytes

/-- The report of a body in any form. -/
def ErrorReport.ofBody (code : Int) (body : FailureBody) : Except Defect (Option ErrorReport) :=
  ofRaw code body.said

/-- Whether a response rejects the credentials it was asked with. The body
counts only if the status does not settle it. -/
def Response.rejects (r : Response) : Except Defect Bool :=
  if r.status = 401 ∨ r.status = 403 then .ok true
  else if r.isOk then .ok false
  else (ErrorReport.ofResponse r).map fun report => report.any ErrorReport.isRejection

end CloudClient
