import CloudClient.Authentication.Sequence
import CloudClient.Proofs.AccessDocument

/-!
# What an attempt lets through

An attempt to authenticate turns faults into outcomes, and its caller is
prepared for outcomes alone. But what is no fault goes past it, and an attempt
reads what the other side has written: a document with any value in any place,
a body, the host of an endpoint. This module says when that is so, exactly.

The last answer of an attempt decides it, and it takes a `Mishap`, of which
there are three kinds:

* a document or an error body is nested deeper than is read, and something
  has to be read of it;
* a locator cannot be taken apart: one in the document whose version or whose
  region is wanted, or the endpoint itself, whose host is a region;
* a region of the document is an array or an object, and is to be a key.

Both directions are shown of every conversation that an attempt can be, by
going through it with the last exchange in view (`Conversation.Ends`).
`contained_unless_mishap` then says it of the attempt that is held: without a
mishap it ends in one of the three ways it is meant to, and with one it never
does. It also says what faults there are: none is the one that is reserved for
when all dialects have rejected (`Fault.IsOfAttempt`).
-/

namespace CloudClient

/-! ## Error bodies -/

/-- The body of an answer is nested deeper than is read. -/
def Response.IsTooDeep (answer : Response) : Prop :=
  Text.allBlank answer.text = false ∧ Json.read answer.text = .error .tooDeep

/-- The status of an answer says by itself that credentials were rejected. -/
def Response.RejectsByStatus (answer : Response) : Prop :=
  answer.status = 401 ∨ answer.status = 403

theorem ErrorReport.ofResponse_eq_error_iff {answer : Response} {defect : Defect} :
    ErrorReport.ofResponse answer = .error defect ↔ answer.IsTooDeep ∧ defect = .deepDocument := by
  show ErrorReport.ofText answer.status answer.text = _ ↔ _
  rw [ErrorReport.ofText_eq]
  unfold Response.IsTooDeep
  split
  · rename_i hblank
    simp [hblank]
  · rename_i hblank
    rw [Bool.not_eq_true] at hblank
    split
    · rename_i hread
      simp [hread]
    · rename_i hread
      simp [hread, hblank, eq_comm]
    · rename_i hother hdeep
      simpa using fun _ h => absurd h hdeep

/-- Whether an answer rejects, and what is known of it then. -/
inductive Response.Judged (answer : Response) : Except Defect Bool → Prop where
  | rejects (h : answer.RejectsByStatus ∨ ¬ answer.IsTooDeep) : Judged answer (.ok true)
  | passes (hstatus : ¬ answer.RejectsByStatus) (h : answer.isOk = true ∨ ¬ answer.IsTooDeep) :
      Judged answer (.ok false)
  | unread (hstatus : ¬ answer.RejectsByStatus) (hok : answer.isOk = false)
      (hdeep : answer.IsTooDeep) : Judged answer (.error .deepDocument)

theorem Response.judged (answer : Response) : answer.Judged answer.rejects := by
  unfold Response.rejects
  split
  · rename_i hstatus
    exact .rejects (.inl hstatus)
  · rename_i hstatus
    split
    · rename_i hok
      exact .passes hstatus (.inl hok)
    · rename_i hok
      cases hreport : ErrorReport.ofResponse answer with
      | error defect =>
        obtain ⟨hdeep, rfl⟩ := ErrorReport.ofResponse_eq_error_iff.1 hreport
        exact .unread hstatus (Bool.eq_false_iff.2 hok) hdeep
      | ok report =>
        have hread : ¬ answer.IsTooDeep := fun hdeep => by
          rw [ErrorReport.ofResponse_eq_error_iff.2 ⟨hdeep, rfl⟩] at hreport
          cases hreport
        show answer.Judged (.ok (report.any ErrorReport.isRejection))
        cases report.any ErrorReport.isRejection with
        | false => exact .passes hstatus (.inr hread)
        | true => exact .rejects (.inr hread)

/-- An answer that is neither a success nor a rejection is a fault, if its
body can be read. -/
theorem Outcome.unexpected_cases (answer : Response) (place : String) :
    answer.IsTooDeep ∧ Outcome.unexpected answer place = .error .deepDocument
      ∨ ¬ answer.IsTooDeep
        ∧ ∃ report, Outcome.unexpected answer place
          = .ok (.failed (Outcome.faultOf place report)) := by
  unfold Outcome.unexpected
  cases hreport : ErrorReport.ofResponse answer with
  | error defect =>
    obtain ⟨hdeep, rfl⟩ := ErrorReport.ofResponse_eq_error_iff.1 hreport
    exact .inl ⟨hdeep, rfl⟩
  | ok report =>
    refine .inr ⟨fun hdeep => ?_, report, rfl⟩
    rw [ErrorReport.ofResponse_eq_error_iff.2 ⟨hdeep, rfl⟩] at hreport
    cases hreport

/-! ## Answers without the status of success -/

namespace Identity

/-- The answer of a server that does not know the dialect. -/
def IsFaultDocument (answer : Response) : Prop :=
  answer.status = 500 ∧ Text.hasWithin faultMark answer.text = true

/-- What an answer without the status of success comes to. -/
inductive Refused (answer : Response) : Except Defect Outcome → Prop where
  | rejected (why : Rejection)
      (h : IsFaultDocument answer ∨ answer.RejectsByStatus ∨ ¬ answer.IsTooDeep) :
      Refused answer (.ok (.rejected why))
  | failed (report : Option ErrorReport) (hread : ¬ answer.IsTooDeep) :
      Refused answer (.ok (.failed (Outcome.faultOf tokensPath report)))
  | unread (hmark : ¬ IsFaultDocument answer) (hstatus : ¬ answer.RejectsByStatus)
      (hdeep : answer.IsTooDeep) : Refused answer (.error .deepDocument)

theorem refused (answer : Response) : Refused answer (refuse answer) := by
  unfold refuse
  split
  · rename_i hmark
    exact .rejected _ (.inl hmark)
  · rename_i hmark
    have hjudged := answer.judged
    generalize answer.rejects = rejects at hjudged ⊢
    cases hjudged with
    | rejects h => exact .rejected _ (.inr h)
    | unread hstatus _ hdeep => exact .unread hmark hstatus hdeep
    | passes hstatus _ =>
      show Refused answer (Outcome.unexpected answer tokensPath)
      obtain ⟨hdeep, h⟩ | ⟨hread, report, h⟩ := Outcome.unexpected_cases answer tokensPath
      · rw [h]
        exact .unread hmark hstatus hdeep
      · rw [h]
        exact .failed report hread

end Identity

namespace ServiceHeaders

/-- What an answer comes to as far as its status and body go. -/
inductive Refused (answer : Response) (url : String) : Except Defect (Option Outcome) → Prop where
  | succeeds (hcode : successCodes.contains answer.status = true) : Refused answer url (.ok none)
  | rejected (why : Rejection) (hcode : successCodes.contains answer.status = false)
      (h : answer.RejectsByStatus ∨ ¬ answer.IsTooDeep) :
      Refused answer url (.ok (some (.rejected why)))
  | failed (report : Option ErrorReport) (hcode : successCodes.contains answer.status = false)
      (hread : ¬ answer.IsTooDeep) :
      Refused answer url (.ok (some (.failed (Outcome.faultOf url report))))
  | unread (hcode : successCodes.contains answer.status = false)
      (hstatus : ¬ answer.RejectsByStatus) (hdeep : answer.IsTooDeep) :
      Refused answer url (.error .deepDocument)

/-- The statuses of success reject nothing. -/
theorem rejects_of_successCodes {answer : Response}
    (h : successCodes.contains answer.status = true) : answer.rejects = .ok false := by
  have hcode : answer.status = 200 ∨ answer.status = 204 := by
    simpa [successCodes] using h
  have hok : answer.isOk = true := by
    rw [Response.isOk, Bool.and_eq_true, decide_eq_true_eq, decide_eq_true_eq]
    omega
  unfold Response.rejects
  rw [if_neg (by omega), if_pos hok]

theorem refused (answer : Response) (url : String) :
    Refused answer url (refusal? answer url) := by
  unfold refusal?
  cases hcode : successCodes.contains answer.status with
  | true =>
    rw [rejects_of_successCodes hcode]
    exact .succeeds hcode
  | false =>
    have hjudged := answer.judged
    generalize answer.rejects = rejects at hjudged ⊢
    cases hjudged with
    | rejects h => exact .rejected _ hcode h
    | unread hstatus _ hdeep => exact .unread hcode hstatus hdeep
    | passes hstatus _ =>
      show Refused answer url ((Outcome.unexpected answer url).map some)
      obtain ⟨hdeep, h⟩ | ⟨hread, report, h⟩ := Outcome.unexpected_cases answer url
      · rw [h]
        exact .unread hcode hstatus hdeep
      · rw [h]
        exact .failed report hcode hread

end ServiceHeaders

/-! ## Mishaps -/

/-- **A mishap of an attempt in a dialect**: what the last answer, asked for at
`url`, is like when a defect goes past the attempt. -/
inductive Mishap (s : Session) (url : String) (answer : Response) : Dialect → Defect → Prop where
  /-- The body of an answer without the status of success is nested too deep,
  and neither status nor marks make it a rejection. -/
  | identityBody (hcode : answer.status ≠ Identity.successCode)
      (hmark : ¬ Identity.IsFaultDocument answer) (hstatus : ¬ answer.RejectsByStatus)
      (hdeep : answer.IsTooDeep) : Mishap s url answer .identity .deepDocument
  /-- The document of access is nested too deep. -/
  | document (hcode : answer.status = Identity.successCode)
      (h : Json.read answer.text = .error .tooDeep) : Mishap s url answer .identity .deepDocument
  /-- An endpoint of the document has a locator without a version, and the
  locator cannot be taken apart. -/
  | service {services : List Json} {fault : LocatorFault}
      (hcode : answer.status = Identity.successCode)
      (hlisted : Identity.Listed s.account answer.text services)
      (h : FirstAt (Reads Identity.candidatesOf) (Identity.BrokenService fault) services) :
      Mishap s url answer .identity (.badLocator fault)
  /-- Of the candidates in the document, the first that is refused has a
  locator without a region, which cannot be taken apart, or a region that is
  no key. -/
  | candidate {services : List Json} {cs : List Candidate} {defect : Defect}
      (hcode : answer.status = Identity.successCode)
      (hlisted : Identity.Listed s.account answer.text services)
      (hgathered : Identity.gather Identity.candidatesOf services = .ok cs)
      (h : FirstAt (Reads (Resolution.consider (Identity.regionRule s)))
        (Resolution.Considered (Identity.regionRule s) · (.error (.defect defect))) cs) :
      Mishap s url answer .identity defect
  /-- The body of an answer without a status of success is nested too deep,
  and the status does not make it a rejection. -/
  | headersBody {d : Dialect} (hd : d ≠ .identity)
      (hcode : ServiceHeaders.successCodes.contains answer.status = false)
      (hstatus : ¬ answer.RejectsByStatus) (hdeep : answer.IsTooDeep) :
      Mishap s url answer d .deepDocument
  /-- An endpoint that has answered gives no region. -/
  | regionalHost {fault : LocatorFault}
      (hcode : ServiceHeaders.successCodes.contains answer.status = true)
      (hlocator : Text.hasWithin "://" url = true) (hread : Locator.read url = .error fault) :
      Mishap s url answer .regional (.badLocator fault)
  /-- An endpoint that has answered with a token gives no region. -/
  | storageHost {fault : LocatorFault}
      (hcode : ServiceHeaders.successCodes.contains answer.status = true)
      (htoken : (answer.header? ServiceHeaders.tokenHeader).isSome = true)
      (hlocator : Text.hasWithin "://" url = true) (hread : Locator.read url = .error fault) :
      Mishap s url answer .storage (.badLocator fault)

/-- **A fault that an attempt may end in**: the network, a document, or an
error that an answer reports. -/
inductive Fault.IsOfAttempt : Fault → Prop where
  | network (method url : String) (failure : NetworkFailure) :
      IsOfAttempt (.network method url failure)
  | document {f : Fault} (h : f.IsOfDocument) : IsOfAttempt f
  | reported (report : ErrorReport) : IsOfAttempt report.toFault

theorem Outcome.isOfAttempt_faultOf (place : String) (report : Option ErrorReport) :
    (Outcome.faultOf place report).IsOfAttempt := by
  cases report with
  | none => exact .document (.communication ..)
  | some report => exact .reported report

/-- **What an attempt may end in**, by its last exchange. -/
structure Contained (s : Session) (d : Dialect) (last : Option (Request × Reply))
    (outcome : Except Defect Outcome) : Prop where
  /-- A defect is the mishap of the last answer, and every mishap is one. -/
  defect : ∀ defect, outcome = .error defect
    ↔ ∃ request answer, last = some (request, .response answer)
      ∧ Mishap s request.url answer d defect
  /-- A fault is of a kind that an attempt may end in. -/
  fault : ∀ f, outcome = .ok (.failed f) → f.IsOfAttempt
  /-- A document of access is settled by itself: it rejects nothing, and what
  is wrong with it is a fault of a document. -/
  document : ∀ request answer, last = some (request, .response answer) → d = .identity →
    answer.status = Identity.successCode →
    (∀ why, outcome ≠ .ok (.rejected why)) ∧ ∀ f, outcome = .ok (.failed f) → f.IsOfDocument

namespace Contained

variable {s : Session} {d : Dialect} {last : Option (Request × Reply)} {request : Request}
  {answer : Response}

/-- A network that fails is a fault. -/
theorem of_failure (failure : NetworkFailure) :
    Contained s d (some (request, .failure failure))
      (.ok (.failed (.network request.method request.url failure))) where
  defect _ := iff_of_false nofun nofun
  fault f h := by
    cases h
    exact .network ..
  document _ _ h := by cases h

/-- A fault of a document ends an attempt without a mishap. -/
theorem of_fault {f : Fault} (hf : f.IsOfDocument)
    (hnone : ∀ request answer, last = some (request, .response answer) →
      ∀ defect, ¬ Mishap s request.url answer d defect) : Contained s d last (.ok (.failed f)) where
  defect defect := iff_of_false nofun fun ⟨request, answer, h, hmishap⟩ =>
    hnone request answer h defect hmishap
  fault f' h := by
    cases h
    exact .document hf
  document _ _ _ _ _ := ⟨nofun, fun f' h => by cases h; exact hf⟩

/-- An outcome of the last answer, where the answer has no mishap. -/
theorem of_answer {outcome : Except Defect Outcome}
    (hdefect : ∀ defect, outcome = .error defect ↔ Mishap s request.url answer d defect)
    (hfault : ∀ f, outcome = .ok (.failed f) → f.IsOfAttempt)
    (hdocument : d = .identity → answer.status = Identity.successCode →
      (∀ why, outcome ≠ .ok (.rejected why)) ∧ ∀ f, outcome = .ok (.failed f) → f.IsOfDocument) :
    Contained s d (some (request, .response answer)) outcome where
  defect defect := by
    rw [hdefect]
    constructor
    · intro h
      exact ⟨request, answer, rfl, h⟩
    · rintro ⟨request', answer', h, hmishap⟩
      cases h
      exact hmishap
  fault := hfault
  document request' answer' h := by
    cases h
    exact hdocument

end Contained

/-! ## The dialects -/

namespace Identity

variable {s : Session} {url : String} {answer : Response} {defect : Defect}

theorem catalogOf_eq_defect_iff (hcode : answer.status = successCode) :
    catalogOf s answer.text = .error (.defect defect) ↔ Mishap s url answer .identity defect := by
  constructor
  · intro h
    have hgranted := granted s answer.text
    rw [h] at hgranted
    cases hgranted with
    | deep hread => exact .document hcode hread
    | broken hlisted hfirst => exact .service hcode hlisted hfirst
    | refused hlisted hgathered hfirst =>
      exact .candidate hcode hlisted hgathered
        ((FirstAt.congr fun _ => Resolution.consider_eq_iff).1 hfirst)
  · intro h
    cases h with
    | identityBody hno => exact absurd hcode hno
    | document _ hread => exact catalogOf_of_deep hread
    | service _ hlisted hfirst => exact catalogOf_of_broken hlisted hfirst
    | candidate _ hlisted hgathered hfirst =>
      exact catalogOf_of_refused hlisted hgathered
        ((FirstAt.congr fun _ => Resolution.consider_eq_iff).2 hfirst)
    | headersBody hd => exact absurd rfl hd

/-- Where the status is not that of success, only the body can be nested too
deep. -/
theorem refuse_eq_error_iff (hcode : answer.status ≠ successCode) :
    refuse answer = .error defect ↔ Mishap s url answer .identity defect := by
  constructor
  · intro h
    have hrefused := refused answer
    rw [h] at hrefused
    cases hrefused with
    | unread hmark hstatus hdeep => exact .identityBody hcode hmark hstatus hdeep
  · intro h
    cases h with
    | identityBody _ hmark hstatus hdeep =>
      have hrefused := refused answer
      generalize refuse answer = outcome at hrefused ⊢
      cases hrefused with
      | rejected _ h =>
        exact (h.elim hmark fun h => h.elim hstatus fun hread => hread hdeep).elim
      | failed _ hread => exact absurd hdeep hread
      | unread => rfl
    | document h => exact absurd h hcode
    | service h => exact absurd h hcode
    | candidate h => exact absurd h hcode
    | headersBody hd => exact absurd rfl hd

theorem judge_eq_error_iff :
    judge s answer = .error defect ↔ Mishap s url answer .identity defect := by
  unfold judge
  by_cases hcode : answer.status = successCode
  · rw [if_pos hcode, ← catalogOf_eq_defect_iff hcode]
    rcases catalogOf s answer.text with (f | d) | catalog <;> simp [Except.map, Outcome.settle]
  · rw [if_neg hcode]
    exact refuse_eq_error_iff hcode

/-- A document of access is settled by itself. -/
theorem judge_of_success (hcode : answer.status = successCode) :
    (∀ why, judge s answer ≠ .ok (.rejected why))
      ∧ ∀ f, judge s answer = .ok (.failed f) → f.IsOfDocument := by
  unfold judge
  rw [if_pos hcode]
  have hgranted := granted s answer.text
  generalize catalogOf s answer.text = result at hgranted ⊢
  cases hgranted with
  | faulty hf => exact ⟨nofun, fun f h => by cases h; exact hf⟩
  | _ => exact ⟨nofun, nofun⟩

theorem isOfAttempt_of_judge {f : Fault} (h : judge s answer = .ok (.failed f)) :
    f.IsOfAttempt := by
  by_cases hcode : answer.status = successCode
  · exact .document ((judge_of_success hcode).2 f h)
  · unfold judge at h
    rw [if_neg hcode] at h
    have hrefused := refused answer
    rw [h] at hrefused
    cases hrefused with
    | failed report => exact Outcome.isOfAttempt_faultOf tokensPath report

theorem attempt_contained (s : Session) (endpoints : String) (hpublic : ∃ k, s.publicText = .ok k)
    (hprivate : ∃ k, s.privateText = .ok k) :
    (attempt s endpoints).Ends (Contained s .identity) none := by
  obtain ⟨publicKey, hpublic⟩ := hpublic
  obtain ⟨privateKey, hprivate⟩ := hprivate
  unfold attempt credentials
  simp only [hpublic, hprivate]
  refine .exchange (fun failure => .ended (.of_failure failure)) fun answer => .ended ?_
  exact .of_answer (fun _ => judge_eq_error_iff) (fun _ => isOfAttempt_of_judge)
    fun _ => judge_of_success

end Identity

/-! ### Headers -/

namespace ServiceHeaders

variable {s : Session} {d : Dialect} {url : String} {answer : Response}

/-- Where credentials go out in headers, only a success can have a mishap
beyond its body. -/
theorem refusal?_eq_error_iff (hd : d ≠ .identity)
    (hcode : successCodes.contains answer.status = false) {defect : Defect} :
    refusal? answer url = .error defect ↔ Mishap s url answer d defect := by
  constructor
  · intro h
    have hrefused := refused answer url
    rw [h] at hrefused
    cases hrefused with
    | unread _ hstatus hdeep => exact .headersBody hd hcode hstatus hdeep
  · intro h
    cases h with
    | headersBody _ _ hstatus hdeep =>
      have hrefused := refused answer url
      generalize refusal? answer url = outcome at hrefused ⊢
      cases hrefused with
      | succeeds h => rw [hcode] at h; cases h
      | rejected _ _ h => exact (h.elim hstatus fun hread => hread hdeep).elim
      | failed _ _ hread => exact absurd hdeep hread
      | unread => rfl
    | identityBody => exact absurd rfl hd
    | document => exact absurd rfl hd
    | service => exact absurd rfl hd
    | candidate => exact absurd rfl hd
    | regionalHost h => rw [hcode] at h; cases h
    | storageHost h => rw [hcode] at h; cases h

/-- The status of a success needs no look at the body. -/
theorem successCodes_of_refusal? (h : refusal? answer url = .ok none) :
    successCodes.contains answer.status = true := by
  have hrefused := refused answer url
  rw [h] at hrefused
  cases hrefused with
  | succeeds hcode => exact hcode

theorem successCodes_eq_false {result : Except Defect (Option Outcome)}
    (h : refusal? answer url = result) (hsome : result ≠ .ok none) :
    successCodes.contains answer.status = false := by
  have hrefused := refused answer url
  rw [h] at hrefused
  cases hrefused with
  | succeeds => exact absurd rfl hsome
  | rejected _ hcode => exact hcode
  | failed _ hcode => exact hcode
  | unread hcode => exact hcode

/-- An answer without the status of success ends an attempt as it should. -/
theorem contained_of_refusal {request : Request} (hd : d ≠ .identity)
    (outcome : Except Defect Outcome)
    (h : refusal? answer request.url = outcome.map some) :
    Contained s d (some (request, .response answer)) outcome := by
  have hcode : successCodes.contains answer.status = false := by
    refine successCodes_eq_false h ?_
    cases outcome <;> nofun
  refine .of_answer (fun defect => ?_) (fun f hf => ?_) fun h => absurd h hd
  · rw [← refusal?_eq_error_iff hd hcode, h]
    cases outcome <;> simp [Except.map]
  · have hrefused := refused answer request.url
    rw [h, hf] at hrefused
    cases hrefused with
    | failed report => exact Outcome.isOfAttempt_faultOf request.url report

theorem mishap_regional_iff (hcode : successCodes.contains answer.status = true)
    {defect : Defect} : Mishap s url answer .regional defect
      ↔ ∃ fault, Region.infer url = .error fault ∧ defect = .badLocator fault := by
  constructor
  · intro h
    cases h with
    | headersBody _ hno => rw [hcode] at hno; cases hno
    | @regionalHost fault _ hlocator hread =>
      exact ⟨fault, Region.infer_eq_error_iff.2 ⟨hlocator, hread⟩, rfl⟩
  · rintro ⟨fault, hinfer, rfl⟩
    obtain ⟨hlocator, hread⟩ := Region.infer_eq_error_iff.1 hinfer
    exact .regionalHost hcode hlocator hread

theorem mishap_storage_iff (hcode : successCodes.contains answer.status = true)
    {defect : Defect} : Mishap s url answer .storage defect
      ↔ (answer.header? tokenHeader).isSome = true
        ∧ ∃ fault, Region.infer url = .error fault ∧ defect = .badLocator fault := by
  constructor
  · intro h
    cases h with
    | headersBody _ hno => rw [hcode] at hno; cases hno
    | @storageHost fault _ htoken hlocator hread =>
      exact ⟨htoken, fault, Region.infer_eq_error_iff.2 ⟨hlocator, hread⟩, rfl⟩
  · rintro ⟨htoken, fault, hinfer, rfl⟩
    obtain ⟨hlocator, hread⟩ := Region.infer_eq_error_iff.1 hinfer
    exact .storageHost hcode htoken hlocator hread

/-- A success without a mishap makes a catalog, or its endpoint is at fault. -/
theorem contained_of_success {result : Except Failure Outcome} (hd : d ≠ .identity)
    {last : Option (Request × Reply)} {request : Request}
    (hlast : last = some (request, .response answer))
    (hnone : ∀ defect, ¬ Mishap s request.url answer d defect)
    (hresult : (∃ catalog, result = .ok (.authenticated catalog))
      ∨ ∃ f : Fault, f.IsOfDocument ∧ result = .error (.fault f)) :
    Contained s d last (Outcome.settle result) := by
  subst hlast
  obtain ⟨catalog, rfl⟩ | ⟨f, hf, rfl⟩ := hresult
  · exact .of_answer (fun defect => iff_of_false nofun (hnone defect)) nofun fun h => absurd h hd
  · refine .of_answer (fun defect => iff_of_false nofun (hnone defect)) (fun f' h => ?_)
      fun h => absurd h hd
    cases h
    exact .document hf

theorem catalogOf_cases (account : String) (home : Region) (endpoints : EndpointMap)
    (token : String) (answer : Response) :
    (∃ catalog, catalogOf account home endpoints token answer = .ok (.authenticated catalog))
      ∨ ∃ f : Fault, f.IsOfDocument
        ∧ catalogOf account home endpoints token answer = .error (.fault f) := by
  unfold catalogOf
  split
  · rename_i f hmake
    exact .inr ⟨f, Identity.isOfDocument_of_make hmake, rfl⟩
  · rename_i catalog _
    exact .inl ⟨catalog, rfl⟩

end ServiceHeaders

namespace StorageHeaders

theorem judge_contained (s : Session) {request : Request} (answer : Response) :
    Contained s .storage (some (request, .response answer))
      (Outcome.settle (judge s.account request.url answer)) := by
  have hd : Dialect.storage ≠ .identity := nofun
  unfold judge
  cases hrefusal : ServiceHeaders.refusal? answer request.url with
  | error defect => exact ServiceHeaders.contained_of_refusal hd (.error defect) hrefusal
  | ok refusal =>
    cases refusal with
    | some outcome => exact ServiceHeaders.contained_of_refusal hd (.ok outcome) hrefusal
    | none =>
      have hcode := ServiceHeaders.successCodes_of_refusal? hrefusal
      simp only [finish]
      cases htoken : answer.header? ServiceHeaders.tokenHeader with
      | none =>
        refine ServiceHeaders.contained_of_success hd rfl (fun defect => ?_)
          (.inr ⟨_, .communication .., rfl⟩)
        rw [ServiceHeaders.mishap_storage_iff hcode, htoken]
        exact fun h => Bool.noConfusion h.1
      | some token =>
        simp only
        cases hinfer : Region.infer request.url with
        | error fault =>
          refine .of_answer (fun defect => ?_) nofun fun h => absurd h hd
          rw [ServiceHeaders.mishap_storage_iff hcode, htoken, hinfer]
          simp [Outcome.settle, eq_comm]
        | ok region =>
          refine ServiceHeaders.contained_of_success hd rfl (fun defect => ?_)
            (ServiceHeaders.catalogOf_cases ..)
          rw [ServiceHeaders.mishap_storage_iff hcode, hinfer]
          exact fun ⟨_, fault, h, _⟩ => nomatch h

theorem attempt_contained (s : Session) (endpoints : String) (hpublic : ∃ k, s.publicText = .ok k)
    (hprivate : ∃ k, s.privateText = .ok k) :
    (attempt s endpoints).Ends (Contained s .storage) none := by
  obtain ⟨publicKey, hpublic⟩ := hpublic
  obtain ⟨privateKey, hprivate⟩ := hprivate
  unfold attempt user
  simp only [hpublic, hprivate, Except.map]
  exact .exchange (fun failure => .ended (.of_failure failure))
    fun answer => .ended (judge_contained s answer)

end StorageHeaders

namespace RegionalHeaders

/-- **The endpoints asked in order.** The answers in front of an endpoint have
had no mishap, and the induction carries that along. -/
theorem ask_contained (s : Session) (k : Keys) (urls : List String) :
    ∀ (home : Option String) (endpoints : EndpointMap) (last : Option (Request × Reply)),
      (∀ request answer, last = some (request, .response answer) →
        ∀ defect, ¬ Mishap s request.url answer .regional defect) →
      (ask s.account k home endpoints urls).Ends (Contained s .regional) last := by
  have hd : Dialect.regional ≠ .identity := nofun
  induction urls with
  | nil => exact fun _ _ _ hlast => .ended (.of_fault (.communication ..) hlast)
  | cons url more ih =>
    intro home endpoints last _
    unfold ask
    refine .exchange (fun failure => .ended (.of_failure failure)) fun answer => ?_
    cases hrefusal : ServiceHeaders.refusal? answer url with
    | error defect =>
      exact .ended (ServiceHeaders.contained_of_refusal hd (.error defect) hrefusal)
    | ok refusal =>
      cases refusal with
      | some outcome =>
        exact .ended (ServiceHeaders.contained_of_refusal hd (.ok outcome) hrefusal)
      | none =>
        have hcode := ServiceHeaders.successCodes_of_refusal? hrefusal
        simp only
        cases hinfer : Region.infer url with
        | error fault =>
          refine .ended (.of_answer (fun defect => ?_) nofun fun h => absurd h hd)
          rw [show (request s.account k url).url = url from rfl,
            ServiceHeaders.mishap_regional_iff hcode, hinfer]
          simp [eq_comm]
        | ok region =>
          have hnone (defect : Defect) : ¬ Mishap s url answer .regional defect := by
            rw [ServiceHeaders.mishap_regional_iff hcode, hinfer]
            exact fun ⟨fault, h, _⟩ => nomatch h
          simp only
          split
          · refine .ended (ServiceHeaders.contained_of_success hd rfl hnone ?_)
            unfold finish
            split
            · exact .inr ⟨_, .communication .., rfl⟩
            · exact ServiceHeaders.catalogOf_cases ..
          · refine ih _ _ _ fun request' answer' h => ?_
            cases h
            exact hnone

theorem attempt_contained (s : Session) (endpoints : String) (hpublic : ∃ k, s.publicText = .ok k)
    (hprivate : ∃ k, s.privateText = .ok k) :
    (attempt s endpoints).Ends (Contained s .regional) none := by
  obtain ⟨publicKey, hpublic⟩ := hpublic
  obtain ⟨privateKey, hprivate⟩ := hprivate
  unfold attempt keys
  simp only [hpublic, hprivate, Except.map]
  split
  · exact .ended (.of_fault (.communication ..) nofun)
  · exact ask_contained s ⟨publicKey, privateKey⟩ _ _ _ _ nofun

end RegionalHeaders

/-- **An attempt lets through the mishaps of its last answer and nothing
else.** -/
theorem contained_unless_mishap (d : Dialect) (s : Session) (endpoint : String)
    (replies : List Reply) (hpublic : ∃ k, s.publicText = .ok k) (hprivate : ∃ k, s.privateText = .ok k) :
    Contained s d ((d.attempt s endpoint).hold replies).exchanges.getLast?
      ((d.attempt s endpoint).hold replies).outcome := by
  have hends : (d.attempt s endpoint).Ends (Contained s d) none := by
    cases d with
    | identity => exact Identity.attempt_contained s endpoint hpublic hprivate
    | regional => exact RegionalHeaders.attempt_contained s endpoint hpublic hprivate
    | storage => exact StorageHeaders.attempt_contained s endpoint hpublic hprivate
  have h := hends.hold replies
  rwa [Option.or_none] at h

/-! ## What is let through

A session with plain keys, an identity service whose document offers a single
endpoint, and a store of objects at an endpoint with half a pair of brackets.
-/

namespace Escape

/-- The defect that an attempt has let through. -/
def defect? : Except Defect Outcome → Option Defect
  | .error defect => some defect
  | .ok _ => none

theorem eq_error_of_defect? {outcome : Except Defect Outcome} {defect : Defect}
    (h : defect? outcome = some defect) : outcome = .error defect := by
  cases outcome with
  | error defect' =>
    cases h
    rfl
  | ok outcome => cases h

def session : Session where
  publicKey := .text "user"
  privateKey := .text "secret"
  endpoint := "https://id"
  account := "demo"
  endpoint_not_blank := by decide

/-- An answer with a document of access whose only endpoint has the given
members. -/
def offering (members : String) : Reply :=
  .response ⟨200, .empty, Utf8.encode ("\x7b\"access\":\x7b\"token\":\x7b\"id\":\"t\"\x7d,"
    ++ "\"serviceCatalog\":[\x7b\"type\":\"a\",\"endpoints\":[\x7b" ++ members
    ++ "\x7d]\x7d]\x7d\x7d"), "OK"⟩

/-- A document whose endpoint is in an array of regions. -/
def arrayRegion : Reply := offering "\"region\":[1],\"url\":\"u\",\"versionId\":\"2\""

/-- A document whose endpoint has a locator that cannot be taken apart. -/
def halfBracket : Reply := offering "\"region\":\"r\",\"url\":\"s://[\""

/-- The answer of a service that speaks through headers. -/
def token : Reply := .response ⟨204, .ofList [("X-Auth-Token", "t")], [], "No Content"⟩

theorem outcome_arrayRegion :
    ((Dialect.identity.attempt session "https://id").hold [arrayRegion]).outcome
      = .error .regionNoKey :=
  eq_error_of_defect? (by decide +kernel)

/-- **Defects go past attempts** in every dialect: a region that is an array,
a locator of a document, and the endpoint itself. -/
theorem defects_let_through :
    ((Dialect.identity.attempt session "https://id").hold [arrayRegion]).outcome
        = .error .regionNoKey
      ∧ ((Dialect.identity.attempt session "https://id").hold [halfBracket]).outcome
        = .error (.badLocator .unbalancedBrackets)
      ∧ ((Dialect.regional.attempt session "s://[").hold [token]).outcome
        = .error (.badLocator .unbalancedBrackets)
      ∧ ((Dialect.storage.attempt session "s://[").hold [token]).outcome
        = .error (.badLocator .unbalancedBrackets) :=
  ⟨outcome_arrayRegion, eq_error_of_defect? (by decide +kernel),
    eq_error_of_defect? (by decide +kernel), eq_error_of_defect? (by decide +kernel)⟩

/-- The array of regions is a mishap of its answer. -/
theorem mishap_of_arrayRegion :
    ∃ request answer, ((Dialect.identity.attempt session "https://id").hold
        [arrayRegion]).exchanges.getLast? = some (request, .response answer)
      ∧ Mishap session request.url answer .identity .regionNoKey :=
  ((contained_unless_mishap .identity session "https://id" [arrayRegion] ⟨_, rfl⟩
    ⟨_, rfl⟩).defect .regionNoKey).1 outcome_arrayRegion

end Escape

end CloudClient
