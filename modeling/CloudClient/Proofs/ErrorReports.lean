import CloudClient.Http.ErrorReport
import CloudClient.Proofs.DocumentRoundTrip

/-!
# What a body says, and what a status adds

A report has two sources, the status of a response and its body, and they are
kept apart. All that the status decides is whether the report says throttling,
so the reports of one body for two statuses are the same but for the status and,
where one of them is that of a throttled call, the kind (`ErrorReport.withCode`).
Whether there is a report at all is up to the body.

A report is made in one of three ways: of a body that says nothing, of a body
that is no object and is taken as a whole, and of the parts of a fault. However
it is made it is *well-formed*: there is something in the message and in the
explanation, nobody is told to wait for less than no time, and a throttled call
is never taken for one whose credentials were rejected.

## Two shapes of a fault

The parts of a fault lie flat in an object that says its name as the message, or
in an object inside it that stands under its name. What is reported depends on
the name and on two of the parts alone (`ErrorReport.ofParts`), and in both
shapes these are the same; the message of the wrapped shape, which is missing,
is the name. Around a wrapped fault there may be other members, as long as none
of them is an object or makes the outer object look flat.
-/

namespace CloudClient

namespace ErrorReport

/-- **The report of the same body for another status.** -/
def withCode (code : Int) (report : ErrorReport) : ErrorReport :=
  { report with code, kind := if code = throttleCode then .throttling else report.kind }

/-- **A report is well-formed.** -/
structure IsWellFormed (code : Int) (report : ErrorReport) : Prop where
  /-- It has the status that it is made for. -/
  code_eq : report.code = code
  /-- There is something in the message, -/
  message_ne : report.message ≠ ""
  /-- and in the explanation. -/
  explanation_ne : report.explanation ≠ ""
  /-- Nobody waits for less than no time. -/
  retryAfter_nonneg : ∀ n, report.retryAfter = some n → 0 ≤ n
  /-- A call was throttled if that is the kind. -/
  isThrottle_iff : report.isThrottle = true ↔ report.kind = .throttling
  /-- A call that was throttled by its status has not been rejected. -/
  not_rejection : code = throttleCode → report.isRejection = false

/-- What members say message, explanation and waiting time are. -/
structure HasParts (members : List (RawText × Json)) (message explanation wait : Option Json) :
    Prop where
  message : Entries.find? members (RawText.ofString "message") = message
  explanation : Entries.find? members (RawText.ofString "details") = explanation
  wait : Entries.find? members (RawText.ofString "retryAfter") = wait

/-- A member that may stand beside a wrapped fault: it is no fault itself, and
does not make the object a flat one. -/
structure IsBystander (e : RawText × Json) : Prop where
  not_object : ∀ inner, e.2 ≠ .obj inner
  not_message : e.1 ≠ RawText.ofString "message"
  not_details : e.1 ≠ RawText.ofString "details"

end ErrorReport

/-- **A body reads as an object** with the given members. -/
def FailureBody.Holds (body : FailureBody) (members : List (RawText × Json)) : Prop :=
  Json.readRaw body.said = .ok (.obj members)

theorem RawText.repaired_eq_empty_iff {t : RawText} : t.repaired = "" ↔ t.isEmpty = true := by
  rw [repaired, ← String.toList_eq_nil_iff, String.toList_ofList, List.map_eq_nil_iff, isEmpty,
    List.isEmpty_iff]

namespace ErrorReport

/-! ## The status -/

section Status

variable {code code' : Int} (hcode : code ≠ throttleCode)

include hcode

theorem bare_withCode (explanation : String) :
    bare code' explanation = (bare code explanation).withCode code' := by
  unfold bare withCode bareKind
  rw [if_neg hcode]

theorem settleKind_eq (classified : FaultKind) (wait : Option Int) :
    settleKind code' classified wait
      = if code' = throttleCode then .throttling else settleKind code classified wait := by
  unfold settleKind
  rw [if_neg hcode]

theorem ofParts_withCode (name message explanation : String) (wait : Option Int) :
    ofParts code' name message explanation wait
      = (ofParts code name message explanation wait).map (withCode code') := by
  unfold ofParts
  split
  · rfl
  · split
    · rfl
    · rw [settleKind_eq hcode]
      rfl

/-- **What a body reports for another status** is the same but for that. -/
theorem ofRaw_withCode (body : RawText) :
    ofRaw code' body = (ofRaw code body).map (Option.map (withCode code')) := by
  unfold ofRaw
  split
  · rw [bare_withCode hcode]
    rfl
  · split
    · rw [ofMembers, ofParts_withCode hcode]
      rfl
    · rfl
    · rw [bare_withCode hcode]
      rfl

end Status

theorem withCode_of_ne {code : Int} (h : code ≠ throttleCode) (report : ErrorReport) :
    report.withCode code = { report with code } := by
  rw [withCode, if_neg h]

/-! ## Well-formed reports -/

section WellFormed

variable {code : Int}

theorem orDefault_ne_empty {s default : String} (h : default ≠ "") : orDefault s default ≠ "" := by
  unfold orDefault
  split
  · exact h
  · assumption

theorem waitOf_nonneg {v : Json} {n : Int} (h : waitOf v = some n) : 0 ≤ n := by
  unfold waitOf at h
  split at h
  · cases h
  · split at h
    · cases h
      exact Int.le_max_right _ _
    · cases h

/-- A report is well-formed if its kind is settled by the status. -/
theorem isWellFormed_of_kind {report : ErrorReport} (hcode : report.code = code)
    (hmessage : report.message ≠ "") (hexplanation : report.explanation ≠ "")
    (hwait : ∀ n, report.retryAfter = some n → 0 ≤ n)
    (hkind : code = throttleCode → report.kind = .throttling) : report.IsWellFormed code where
  code_eq := hcode
  message_ne := hmessage
  explanation_ne := hexplanation
  retryAfter_nonneg := hwait
  isThrottle_iff := by
    unfold isThrottle
    rw [Bool.or_eq_true, beq_iff_eq, beq_iff_eq, or_iff_right_iff_imp, hcode]
    exact hkind
  not_rejection hthrottle := by
    rw [isRejection, hcode, hkind hthrottle, hthrottle]
    rfl

theorem defaultMessage_ne : defaultMessage ≠ "" := by decide

theorem defaultExplanation_ne : defaultExplanation ≠ "" := by decide

theorem isWellFormed_bare {explanation : String} (h : explanation ≠ "") :
    (bare code explanation).IsWellFormed code :=
  isWellFormed_of_kind rfl defaultMessage_ne h nofun fun hthrottle => if_pos hthrottle

theorem isWellFormed_ofParts {name message explanation : String} {wait : Option Int}
    (hmessage : message ≠ "") (hexplanation : explanation ≠ "")
    (hwait : ∀ n, wait = some n → 0 ≤ n) {report : ErrorReport}
    (h : ofParts code name message explanation wait = some report) : report.IsWellFormed code := by
  unfold ofParts at h
  split at h
  · cases h
  · split at h
    · cases h
    · cases h
      exact isWellFormed_of_kind rfl hmessage hexplanation hwait fun hthrottle => if_pos hthrottle

/-- **Every report is well-formed.** -/
theorem isWellFormed_of_ofRaw {body : RawText} {report : ErrorReport}
    (h : ofRaw code body = .ok (some report)) : report.IsWellFormed code := by
  unfold ofRaw at h
  split at h
  · cases h
    exact isWellFormed_bare defaultExplanation_ne
  · rename_i hblank
    have hsaid : body.repaired ≠ "" := by
      rw [Ne, RawText.repaired_eq_empty_iff, RawText.isEmpty, List.isEmpty_iff]
      intro hnil
      exact hblank (by rw [RawText.isBlank, hnil]; rfl)
    split at h
    · rename_i first more _
      have hparts : ofMembers code (first :: more) = some report := Except.ok.inj h
      unfold ofMembers at hparts
      exact isWellFormed_ofParts (orDefault_ne_empty (orDefault_ne_empty defaultMessage_ne))
        (orDefault_ne_empty defaultExplanation_ne) (fun _ => waitOf_nonneg) hparts
    · cases h
    · cases h
      exact isWellFormed_bare hsaid

end WellFormed

/-- **What a report owes to the status.** Whether a body reports anything does
not depend on the status. For two statuses other than that of a throttled call
the reports are the same but for the status, and for that one the kind is
throttling as well. Every report is well-formed. -/
theorem status_adds_little (body : FailureBody) :
    (∀ code code', ofBody code body = .ok none ↔ ofBody code' body = .ok none) ∧
    (∀ code code', code ≠ throttleCode → code' ≠ throttleCode →
      ofBody code' body
        = (ofBody code body).map (Option.map fun report => { report with code := code' })) ∧
    (∀ code, code ≠ throttleCode →
      ofBody throttleCode body = (ofBody code body).map (Option.map fun report =>
        { report with code := throttleCode, kind := .throttling })) ∧
    (∀ code report, ofBody code body = .ok (some report) → report.IsWellFormed code) := by
  have habsent (code : Int) : ofBody code body = .ok none ↔ ofBody 0 body = .ok none := by
    unfold ofBody
    rw [ofRaw_withCode (by decide : (0 : Int) ≠ throttleCode)]
    cases ofRaw 0 body.said with
    | error defect => exact iff_of_false nofun nofun
    | ok report? =>
      cases report? with
      | none => exact iff_of_true rfl rfl
      | some report => exact iff_of_false nofun nofun
  refine ⟨fun code code' => (habsent code).trans (habsent code').symm,
    fun code code' hcode hcode' => ?_, fun code hcode => ofRaw_withCode hcode body.said,
    fun code report => isWellFormed_of_ofRaw⟩
  rw [← funext (withCode_of_ne hcode')]
  exact ofRaw_withCode hcode body.said

/-- A body that says that credentials were rejected. -/
def refusal : FailureBody := .text "\x7b\"unauthorized\": \x7b\x7d\x7d"

/-- It is a rejection with any status but that of a throttled call. -/
theorem status_adds_little_refusal :
    ∃ report throttled : ErrorReport,
      ofBody 401 refusal = .ok (some report) ∧ report.isRejection = true ∧
      ofBody 500 refusal = .ok (some { report with code := 500 }) ∧
      ofBody 413 refusal = .ok (some throttled) ∧
      throttled = { report with code := 413, kind := .throttling } ∧
      throttled.IsWellFormed 413 ∧ throttled.isRejection = false := by
  have hrefused : (ofBody 401 refusal).toOption
      = some (some ⟨401, .authentication, "unauthorized", defaultExplanation, none⟩) := by
    decide +kernel
  have hreport := eq_ok_of_toOption hrefused
  obtain ⟨-, hother, hthrottle, hwell⟩ := status_adds_little refusal
  have hat500 := hother 401 500 (by decide) (by decide)
  have hat413 := hthrottle 401 (by decide)
  rw [hreport] at hat500 hat413
  have hwellFormed := hwell 413 _ hat413
  exact ⟨_, _, hreport, rfl, hat500, hat413, rfl, hwellFormed, hwellFormed.not_rejection rfl⟩

/-! ## Two shapes of a fault -/

/-- The report of an object that a body holds. -/
theorem ofBody_of_holds {body : FailureBody} {members : List (RawText × Json)}
    (h : body.Holds members) (hmembers : members ≠ []) (code : Int) :
    ofBody code body = .ok (ofMembers code members) := by
  have hblank : ¬ body.said.isBlank = true := fun hblank => by
    rw [FailureBody.Holds, Json.readRaw_of_isBlank hblank] at h
    cases h
  obtain ⟨first, more, rfl⟩ := List.exists_cons_of_ne_nil hmembers
  rw [ofBody, ofRaw, if_neg hblank, h]

section Shapes

variable {name : RawText} {details wait : Option Json}

/-- The report of a fault with the given name, whichever shape it has. -/
def ofFault (code : Int) (name : RawText) (details wait : Option Json) : Option ErrorReport :=
  ofParts code name.repaired name.repaired
    (orDefault (textOf (details.getD .null)) defaultExplanation) (waitOf (wait.getD .null))

theorem orDefault_of_ne {s default : String} (h : s ≠ "") : orDefault s default = s := if_neg h

theorem orDefault_empty (default : String) : orDefault "" default = default := rfl

theorem ofMembers_flat {flat : List (RawText × Json)} (hname : name.isEmpty = false)
    (h : HasParts flat (some (.str name)) details wait) (code : Int) :
    ofMembers code flat = ofFault code name details wait := by
  have hne : name.repaired ≠ "" := by
    rw [Ne, RawText.repaired_eq_empty_iff, hname]
    exact Bool.false_ne_true
  have hfault : faultOf flat = (none, flat) := by
    rw [faultOf, ← Entries.isSome_find?, h.message]
    rfl
  have hmessage : part flat "message" = name.repaired := by
    rw [part, h.message]
    rfl
  unfold ofMembers ofFault
  simp only [hfault, hmessage, Option.getD_none, orDefault_empty, orDefault_of_ne hne]
  rw [part, h.explanation, h.wait]

/-- A name that no member has is not there. -/
theorem has_eq_false {members : List (RawText × Json)} {name : RawText}
    (h : ∀ e ∈ members, e.1 ≠ name) : Entries.has members name = false :=
  List.any_eq_false.2 fun e he => by simpa using h e he

theorem wrapped?_append {before after inner : List (RawText × Json)}
    (hbefore : ∀ e ∈ before, IsBystander e) :
    wrapped? (before ++ (name, .obj inner) :: after) = some (name.repaired, inner) := by
  induction before with
  | nil => rfl
  | cons e more ih =>
    obtain ⟨he, hmore⟩ := List.forall_mem_cons.1 hbefore
    rw [List.cons_append, wrapped?]
    · exact ih hmore
    · rintro name' inner' rfl
      exact he.not_object inner' rfl

theorem ofMembers_wrapped {before after inner : List (RawText × Json)}
    (hname : name.isEmpty = false) (hmessage : name ≠ RawText.ofString "message")
    (hdetails : name ≠ RawText.ofString "details") (h : HasParts inner none details wait)
    (hbefore : ∀ e ∈ before, IsBystander e) (hafter : ∀ e ∈ after, IsBystander e) (code : Int) :
    ofMembers code (before ++ (name, .obj inner) :: after) = ofFault code name details wait := by
  have hne : name.repaired ≠ "" := by
    rw [Ne, RawText.repaired_eq_empty_iff, hname]
    exact Bool.false_ne_true
  have hfault : faultOf (before ++ (name, .obj inner) :: after) = (some name.repaired, inner) := by
    rw [faultOf, has_eq_false, has_eq_false, wrapped?_append hbefore]
    · rfl
    · exact List.forall_mem_append.2 ⟨fun e he => (hbefore e he).not_details,
        List.forall_mem_cons.2 ⟨hdetails, fun e he => (hafter e he).not_details⟩⟩
    · exact List.forall_mem_append.2 ⟨fun e he => (hbefore e he).not_message,
        List.forall_mem_cons.2 ⟨hmessage, fun e he => (hafter e he).not_message⟩⟩
  have hpart : part inner "message" = "" := by
    rw [part, h.message]
    rfl
  unfold ofMembers ofFault
  simp only [hfault, hpart, Option.getD_some, orDefault_empty, orDefault_of_ne hne]
  rw [part, h.explanation, h.wait]

end Shapes

/-- **Flat and wrapped faults mean the same.** A fault that stands alone in an
object under its name is reported like one whose parts lie flat in an object
that says the name as its message, whatever the explanation and the waiting time
are, also if they are missing. Members beside the wrapped fault that are neither
objects nor parts do not matter. -/
theorem wrapped_means_flat {name : RawText} (hname : name.isEmpty = false)
    (hmessage : name ≠ RawText.ofString "message") (hdetails : name ≠ RawText.ofString "details")
    {details wait : Option Json} {inner flat before after : List (RawText × Json)}
    (hinner : HasParts inner none details wait)
    (hflat : HasParts flat (some (.str name)) details wait)
    (hbefore : ∀ e ∈ before, IsBystander e) (hafter : ∀ e ∈ after, IsBystander e)
    {alone amid flatly : FailureBody} (halone : alone.Holds [(name, .obj inner)])
    (hamid : amid.Holds (before ++ (name, .obj inner) :: after)) (hflatly : flatly.Holds flat)
    (code : Int) :
    ofBody code alone = ofBody code flatly ∧ ofBody code amid = ofBody code alone ∧
      ∃ report?, ofBody code flatly = .ok report? := by
  have hsome : flat ≠ [] := by
    rintro rfl
    exact nomatch hflat.message
  have hreport : ofBody code flatly = .ok (ofFault code name details wait) := by
    rw [ofBody_of_holds hflatly hsome, ofMembers_flat hname hflat]
  have hwrapped : ofBody code alone = .ok (ofFault code name details wait) := by
    rw [ofBody_of_holds halone (List.cons_ne_nil _ _)]
    exact congrArg _ (ofMembers_wrapped hname hmessage hdetails hinner (List.forall_mem_nil _)
      (List.forall_mem_nil _) code)
  have hamong : ofBody code amid = .ok (ofFault code name details wait) := by
    rw [ofBody_of_holds hamid (List.append_ne_nil_of_right_ne_nil _ (List.cons_ne_nil _ _)),
      ofMembers_wrapped hname hmessage hdetails hinner hbefore hafter]
  exact ⟨hwrapped.trans hreport.symm, hamong.trans hwrapped.symm, _, hreport⟩

/-! ## A limit that is exhausted -/

namespace Exhausted

/-- For how long to wait, and why. -/
def inner : List (RawText × Json) :=
  [("details", .str "slow down"), ("retryAfter", .int 30)]

/-- The fault in its wrapped shape, -/
def alone : List (RawText × Json) := [("overLimit", .obj inner)]

/-- with other members around it, -/
def amid : List (RawText × Json) :=
  [("code", .int 413), ("overLimit", .obj inner), ("retryAfter", .str "later")]

/-- and in its flat shape. -/
def flat : List (RawText × Json) := ("message", .str "overLimit") :: inner

/-- What is written of an object as the body of a response. -/
def written (members : List (RawText × Json)) : FailureBody :=
  .octets (Utf8.encode (Json.obj members).write)

theorem holds_written {members : List (RawText × Json)} (h : (Json.obj members).IsPlain)
    (hdepth : (Json.obj members).depth ≤ Json.nestingLimit) : (written members).Holds members := by
  rw [FailureBody.Holds, written, FailureBody.said, ← Json.read_eq_readRaw]
  exact (Json.readOctets_encode h hdepth).2

/-- In all three it says to wait. -/
theorem wrapped_means_flat_exhausted :
    (written alone).Holds alone ∧ (written amid).Holds amid ∧ (written flat).Holds flat ∧
    ofBody 503 (written alone) = ofBody 503 (written flat) ∧
    ofBody 503 (written amid) = ofBody 503 (written alone) ∧
    ofBody 503 (written flat)
      = .ok (some ⟨503, .throttling, "overLimit", "slow down", some 30⟩) := by
  have hinner : Json.MembersPlain inner :=
    ⟨rfl, rfl, rfl, (by decide : (Nat.toDigits 10 30).length ≤ 4300), trivial⟩
  have hobject : (Json.obj inner).IsPlain := ⟨by decide, hinner⟩
  have halone : (written alone).Holds alone :=
    holds_written ⟨by decide, rfl, hobject, trivial⟩ (by decide)
  have hamid : (written amid).Holds amid :=
    holds_written ⟨by decide, rfl, (by decide : (Nat.toDigits 10 413).length ≤ 4300), rfl, hobject,
      rfl, rfl, trivial⟩ (by decide)
  have hflat : (written flat).Holds flat := holds_written ⟨by decide, rfl, rfl, hinner⟩ (by decide)
  have hcode : IsBystander ("code", .int 413) := ⟨nofun, by decide, by decide⟩
  have hlater : IsBystander ("retryAfter", .str "later") := ⟨nofun, by decide, by decide⟩
  have hname : (RawText.ofString "overLimit").isEmpty = false := rfl
  have hparts : HasParts inner none (some (.str "slow down")) (some (.int 30)) := ⟨rfl, rfl, rfl⟩
  have hflatParts : HasParts flat (some (.str "overLimit")) (some (.str "slow down"))
    (some (.int 30)) := ⟨rfl, rfl, rfl⟩
  obtain ⟨hsame, haround, -⟩ := wrapped_means_flat hname (by decide) (by decide) hparts hflatParts
    (List.forall_mem_singleton.2 hcode) (List.forall_mem_singleton.2 hlater) halone hamid hflat 503
  have hreport : ofMembers 503 flat
      = some ⟨503, .throttling, "overLimit", "slow down", some 30⟩ := by decide +kernel
  exact ⟨halone, hamid, hflat, hsame, haround,
    (ofBody_of_holds hflat (List.cons_ne_nil _ _) 503).trans (congrArg _ hreport)⟩

end Exhausted

end ErrorReport

end CloudClient
