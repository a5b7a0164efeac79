import CloudClient.Endpoint.Label
import CloudClient.Json.Reader
import CloudClient.Number.Integer
import CloudClient.Profile.SectionFile
import CloudClient.Url.Locator

/-!
# Faults

A call ends well, finds nothing – which is an answer, not a fault – or ends
in a `Fault`. Faults are told apart by what went wrong: a matter inside this
library, a setting that is missing or unreadable, or an answer of the cloud.
The wording is in one place, `Fault.message`, and every part of a fault that
a program could act on is in `Fault.details`.

A fault of the cloud has the status of the answer, a kind, a short message
and a longer explanation, and a `CloudRole` that says which situation of the
call it arose in. Roles narrow each other: an authentication that fails is a
rejection of credentials, which is a fault of the cloud.

## What is no fault

A few inputs are neither handled nor turned into a fault: octets that are no
text, a locator that cannot be read, a region that is no key. Such a
condition is a `Defect` and surfaces as it is, past everything that handles
faults. `Failure` is either.

A document that cannot be read may be one or the other. Where malformed
documents are expected they are a fault, or part of a report; one that is
nested too deep is not even malformed as far as anybody can tell, and is a
defect everywhere (`Failure.unread`).
-/

namespace CloudClient

/-- How a failed call is classified. -/
inductive FaultKind where
  | general
  | communication
  | authentication
  | capacity
  | quota
  | throttling
  deriving DecidableEq, Repr, Inhabited

/-- The name of a kind. -/
def FaultKind.name : FaultKind → String
  | .general => "general"
  | .communication => "communication"
  | .authentication => "authentication"
  | .capacity => "capacity"
  | .quota => "quota"
  | .throttling => "throttling"

/-- A matter inside the library. -/
inductive InternalMatter where
  /-- A version is not made of numbers. -/
  | unreadableVersion (text : RawText)
  /-- A catalog has an empty locator. -/
  | emptyLocator (service : RawText) (region : Region)
  /-- A plan names a dialect that is not registered. -/
  | unknownDialect (name : String)
  /-- Any other matter, in words. -/
  | other (message : String)

/-- What a matter inside the library says. -/
def InternalMatter.message : InternalMatter → String
  | .unreadableVersion text => "버전 문자열을 해석할 수 없습니다: " ++ Text.quoted text
  | .emptyLocator service region =>
    "빈 URL이 카탈로그에 있습니다: " ++ service.repaired ++ "/" ++ region.shown
  | .unknownDialect name => "등록되지 않은 인증 방식: " ++ name
  | .other message => message

/-- A matter of the settings. -/
inductive SettingMatter where
  /-- There is no endpoint to authenticate at. -/
  | noEndpoint
  /-- There is no account. -/
  | noAccount
  /-- A profile lacks a value that a session needs. -/
  | missingValue (profile key : String)
  /-- The port of the proxy is no number. -/
  | badPort (text : String)
  /-- A file cannot be read as a section file. -/
  | unreadableFile (path : String)
  /-- There is no profile of that name. -/
  | noProfile (name : String)
  /-- Any other matter, in words. -/
  | other (message : String)

/-- What a matter of the settings says. -/
def SettingMatter.message : SettingMatter → String
  | .noEndpoint => "인증 엔드포인트가 없습니다"
  | .noAccount => "계정 식별자가 없습니다"
  | .missingValue profile key => "프로파일 '" ++ profile ++ "'에 " ++ key ++ " 값이 없습니다"
  | .badPort text => "proxy_port가 숫자가 아닙니다: " ++ Text.quoted text
  | .unreadableFile path => "설정 파일 파싱 실패: " ++ path
  | .noProfile name => "프로파일을 찾을 수 없습니다: " ++ name
  | .other message => message

/-- The situation in which a fault of the cloud arose. -/
inductive CloudRole where
  /-- A call failed. -/
  | call
  /-- The exchange itself failed, or a successful answer cannot be read. -/
  | communication
  /-- The home region has no endpoint of the service. -/
  | noService (service : String) (region : Region)
  /-- A call was throttled again after all pauses. -/
  | throttled
  /-- A call was rejected again with fresh credentials. -/
  | rejected
  /-- Every dialect rejected the credentials. -/
  | authenticationFailed (endpoint : Option String)

/-- The kind of a fault whose role decides it. -/
def CloudRole.defaultKind : CloudRole → FaultKind
  | .call => .general
  | .communication => .communication
  | .noService .. => .general
  | .throttled => .throttling
  | .rejected => .authentication
  | .authenticationFailed _ => .authentication

/-- A failure of the network, as the layer below reports it. -/
structure NetworkFailure where
  /-- The sort of failure. -/
  sort : String
  /-- What it says. -/
  text : String
  deriving DecidableEq, Repr

mutual

/-- Why a call did not end well. -/
inductive Fault where
  /-- A fault without further distinction. -/
  | plain (message : String) (details : List (String × Json)) (cause : Option Cause)
  | internal (matter : InternalMatter) (details : List (String × Json)) (cause : Option Cause)
  | configuration (matter : SettingMatter) (key : Option String) (cause : Option Cause)
  | cloud (role : CloudRole) (code : Int) (kind : FaultKind) (message explanation : String)
      (cause : Option Cause)

/-- What brought a fault about. -/
inductive Cause where
  | fault (f : Fault)
  | integer (f : IntegerFault)
  | document (f : Json.ReadFault)
  | undecodable
  | sections (f : SectionFault)
  | network (f : NetworkFailure)
  /-- An error of the program around this library. -/
  | foreign (sort text : String)

end

instance : Inhabited Fault := ⟨.plain "" [] none⟩

/-- A condition that is not turned into a fault. -/
inductive Defect where
  /-- Octets are no text. -/
  | undecodable
  /-- A text has half of a pair of units in it, and no octets. -/
  | unencodable
  /-- A locator cannot be read. -/
  | badLocator (fault : LocatorFault)
  /-- An integer has more digits than are converted. -/
  | longInteger
  /-- A body that is read directly is no document. -/
  | badDocument
  /-- A document is nested deeper than is read. -/
  | deepDocument
  /-- A region is an array or an object and cannot be a key. -/
  | regionNoKey
  /-- The home region is no text, and has no ending to compare. -/
  | homeNoText
  /-- The home region is compared with a region that is no text. -/
  | regionNoText
  /-- A waiting time is beyond all numbers. -/
  | hugeDelay
  /-- A lock is released that nobody holds. -/
  | lockNotHeld
  deriving DecidableEq, Repr

/-- A fault, or a condition that is not turned into one. -/
inductive Failure where
  | fault (f : Fault)
  | defect (d : Defect)

namespace Fault

/-- The short form of a fault of the cloud: the status, the message, and the
explanation if there is one. -/
def cloudMessage (code : Int) (message explanation : String) : String :=
  let head := "[" ++ toString code ++ " : " ++ message ++ "]"
  if explanation = "" then head else head ++ " " ++ explanation

/-- What a fault says, without its cause. -/
def message : Fault → String
  | .plain message _ _ => message
  | .internal matter _ _ => matter.message
  | .configuration matter _ _ => matter.message
  | .cloud _ code _ message explanation _ => cloudMessage code message explanation

/-- What brought the fault about. -/
def cause? : Fault → Option Cause
  | .plain _ _ cause | .internal _ _ cause | .configuration _ _ cause
  | .cloud _ _ _ _ _ cause => cause

/-- The endpoint that refused every dialect, as a member of the details. -/
def endpointDetail : CloudRole → List (String × Json)
  | .authenticationFailed (some endpoint) =>
    if endpoint = "" then [] else [("endpoint", .str endpoint)]
  | _ => []

/-- The parts of a fault that a program could act on. -/
def details : Fault → List (String × Json)
  | .plain _ details _ => details
  | .internal _ details _ => details
  | .configuration _ (some key) _ => if key = "" then [] else [("config_key", .str key)]
  | .configuration _ none _ => []
  | .cloud role code kind message explanation _ =>
    [("code", .int code), ("kind", .str kind.name), ("error_message", .str message),
      ("error_details", .str explanation)] ++ endpointDetail role

end Fault

mutual

/-- What a fault says, with its cause. -/
def Fault.text : Fault → String
  | .plain message _ cause => message ++ Cause.suffix cause
  | .internal matter _ cause => matter.message ++ Cause.suffix cause
  | .configuration matter _ cause => matter.message ++ Cause.suffix cause
  | .cloud _ code _ message explanation cause =>
    Fault.cloudMessage code message explanation ++ Cause.suffix cause

/-- What a cause says; for some causes the words are not kept. -/
def Cause.text? : Cause → Option String
  | .fault f => some f.text
  | .integer f => f.text?
  | .document _ => none
  | .undecodable => none
  | .sections _ => none
  | .network f => some f.text
  | .foreign _ text => some text

/-- What the cause adds to the words of its fault. -/
def Cause.suffix : Option Cause → String
  | none => ""
  | some cause => ": " ++ (Cause.text? cause).getD ""

end

namespace Fault

/-- The words for the user of a kind that has some. -/
def friendlyText? : FaultKind → Option String
  | .authentication => some "인증이 거부되었습니다."
  | .capacity => some "클라우드 용량이 부족합니다. 잠시 후 다시 시도하세요."
  | .quota => some "쿼터 한도를 초과했습니다."
  | .throttling => some "요청이 너무 많습니다. 잠시 후 다시 시도하세요."
  | .general | .communication => none

/-- What a user is told. -/
def userText : Fault → String
  | .cloud (.authenticationFailed _) _ _ _ _ _ =>
    "API 키 인증에 실패했습니다. 엔드포인트와 자격 증명을 확인하세요."
  | .cloud role code kind message explanation cause =>
    match friendlyText? kind with
    | some words => words ++ " (" ++ toString code ++ ": " ++ message ++ ")"
    | none => text (.cloud role code kind message explanation cause)
  | f => f.text

/-! ## The faults that this library raises -/

/-- A setting is at fault; `key` names it. -/
def setting (matter : SettingMatter) (key : String) : Fault := .configuration matter (some key) none

/-- A version is not made of numbers. -/
def badVersion (text : RawText) (cause : IntegerFault) : Fault :=
  .internal (.unreadableVersion text) [] (some (.integer cause))

/-- An exchange failed, or its answer cannot be used. -/
def communication (code : Int) (message explanation : String) (cause : Option Cause) : Fault :=
  .cloud .communication code .communication message explanation cause

/-- The network failed while a request was on its way. -/
def network (method url : String) (failure : NetworkFailure) : Fault :=
  communication 0 "communication" (method ++ " " ++ url ++ " failed: " ++ failure.text)
    (some (.network failure))

/-- The answer to an authentication has no token. -/
def noToken (code : Int) (explanation : String) : Fault :=
  communication code "noToken" explanation none

/-- A successful answer is not the document it should be. -/
def invalidDocument (code : Int) (explanation : String) (cause : Option Cause) : Fault :=
  communication code "invalidJson" explanation cause

/-- The home region has no endpoint of a service. -/
def noService (service : String) (region : Region) : Fault :=
  .cloud (.noService service region) 0 .general "noSuchService"
    ("No " ++ service ++ " endpoint has been established in " ++ region.shown) none

/-- Every dialect rejected the credentials. -/
def authenticationFailed (endpoint : Option String) : Fault :=
  .cloud (.authenticationFailed endpoint) 401 .authentication "unauthorized"
    "The API keys failed to authenticate with the specified endpoint." none

/-- A call failed in a way that has no role of its own. -/
def call (code : Int) (message explanation : String) : Fault :=
  .cloud .call code .general message explanation none

end Fault

/-- What comes of a text that has to be a document and is not read as one. -/
def Defect.unread : Json.ReadFault → Defect
  | .malformed => .badDocument
  | .longInteger => .longInteger
  | .tooDeep => .deepDocument

/-- What comes of a successful answer that is not read as a document. -/
def Failure.unread (code : Int) (explanation : String) : Json.ReadFault → Failure
  | .tooDeep => .defect .deepDocument
  | why => .fault (.invalidDocument code explanation (some (.document why)))

/-- A failure cannot be compared; that there is none can be, with the value. -/
theorem eq_ok_of_toOption {ε α : Type} {x : Except ε α} {a : α} (h : x.toOption = some a) :
    x = .ok a := by
  cases x with
  | error e => cases h
  | ok b => exact congrArg Except.ok (Option.some.inj h)

end CloudClient
