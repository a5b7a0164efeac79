import CloudClient.Proofs.BinaryValues
import CloudClient.Proofs.CallRecovery
import CloudClient.Proofs.CatalogRefresh
import CloudClient.Proofs.ErrorReports
import CloudClient.Proofs.IntegerNotation
import Mathlib.Tactic.NormNum

/-!
# How long a throttled call pauses

For how long a throttled call pauses, the other side says: with a number in the
report, as great or small as it likes, or with a header, which may be any text.
The configuration has a limit. If that limit is a number and no negative one
(`Throttle.IsBounded`), then every pause is between zero and it
(`Throttle.Allows`), and it is the time that is asked for if that is between
them. An infinite time is the limit, or zero if it is negative, and what is not
a number is zero (`Binary64.clamped`).

## Where there is no pause

The number in a report is an integer, and before it is held against the limit
it becomes a binary number. One that is too great is none
(`ErrorReport.AsksTooMuch`), and then there is no pause but a defect, although
the limit would do. A header cannot do that: a decimal that is too great is an
infinity. So a call that is throttled, and may still pause, goes on after a
pause within the limit, unless it is asked to pause for too long; and that is
how it ends then.
-/

namespace CloudClient

/-! ## Within limits -/

namespace Binary64

/-- The value from zero up to a limit that is nearest to a number, and zero for
what is not a number. -/
def clamped (limit : ℚ) : Binary64 → ℚ
  | .nan => 0
  | .infinite negative => if negative then 0 else limit
  | .finite s m e => Max.max 0 (Min.min (finite s m e).value limit)

theorem clamped_of_isFinite {limit : ℚ} {x : Binary64} (h : x.isFinite = true) :
    x.clamped limit = Max.max 0 (Min.min x.value limit) := by
  match x, h with
  | .finite .., _ => rfl

theorem clamped_nonneg {limit : ℚ} (hlimit : 0 ≤ limit) (x : Binary64) : 0 ≤ x.clamped limit := by
  match x with
  | .nan => exact le_refl _
  | .infinite true => exact le_refl _
  | .infinite false => exact hlimit
  | .finite .. => exact le_max_left _ _

theorem clamped_le {limit : ℚ} (hlimit : 0 ≤ limit) (x : Binary64) : x.clamped limit ≤ limit := by
  match x with
  | .nan => exact hlimit
  | .infinite true => exact hlimit
  | .infinite false => exact le_refl _
  | .finite .. => exact max_le hlimit (min_le_right _ _)

/-- The greater of zero and a finite number. -/
theorem value_max_zero {x : Binary64} (h : x.isFinite = true) :
    (Binary64.max (.zero false) x).isFinite = true
      ∧ (Binary64.max (.zero false) x).value = Max.max 0 x.value := by
  have hzero : (zero false).isFinite = true := rfl
  obtain ⟨hfinite, hvalue⟩ := value_max hzero h
  rw [value_zero] at hvalue
  exact ⟨hfinite, hvalue⟩

end Binary64

namespace Throttle

/-- **The longest pause is a number, and no negative one.** -/
structure IsBounded (t : Throttle) : Prop where
  finite : t.maxDelay.isFinite = true
  nonneg : 0 ≤ t.maxDelay.value

/-- **A pause that is allowed** is a number from zero up to the longest. -/
structure Allows (t : Throttle) (d : Binary64) : Prop where
  finite : d.isFinite = true
  nonneg : 0 ≤ d.value
  le : d.value ≤ t.maxDelay.value

/-- **The pause that follows from what is asked for.** -/
structure PausesFor (t : Throttle) (wait : Option Int) (header : Option String) (d : Binary64) :
    Prop where
  allows : t.Allows d
  /-- The report asks for a number of seconds. -/
  of_wait : ∀ n, wait = some n → n.natAbs < 2 ^ 53 → d.value = max 0 (min (n : ℚ) t.maxDelay.value)
  /-- It does not, but perhaps the header does. -/
  of_header : wait = none →
    d.value = ((headerDelay? header).getD t.defaultDelay).clamped t.maxDelay.value

variable {t : Throttle} {wait : Option Int} {header : Option String}

/-- **Within bounds there is the nearest value.** -/
theorem value_bounded (ht : t.IsBounded) (x : Binary64) :
    (t.bounded x).isFinite = true ∧ (t.bounded x).value = x.clamped t.maxDelay.value := by
  obtain ⟨defaultDelay, maxDelay, maxPauses⟩ := t
  obtain ⟨hfinite, hnonneg⟩ := ht
  unfold bounded
  simp only at hfinite hnonneg ⊢
  -- what is not finite is compared by its kind, and there is no value to speak of
  cases x with
  | nan =>
    have hmin : Binary64.min .nan maxDelay = .nan := by cases maxDelay <;> rfl
    rw [hmin]
    exact ⟨rfl, Binary64.value_zero false⟩
  | infinite negative =>
    cases negative with
    | true =>
      have hmin : Binary64.min (.infinite true) maxDelay = .infinite true := by
        cases maxDelay with
        | finite => rfl
        | _ => cases hfinite
      rw [hmin]
      exact ⟨rfl, Binary64.value_zero false⟩
    | false =>
      have hmin : Binary64.min (.infinite false) maxDelay = maxDelay := by
        cases maxDelay with
        | finite => rfl
        | _ => cases hfinite
      obtain ⟨hmax, hvalue⟩ := Binary64.value_max_zero hfinite
      rw [hmin, hvalue, max_eq_right hnonneg]
      exact ⟨hmax, rfl⟩
  | finite s m e =>
    obtain ⟨hmin, hless⟩ := Binary64.value_min (x := .finite s m e) rfl hfinite
    obtain ⟨hmax, hvalue⟩ := Binary64.value_max_zero hmin
    rw [hvalue, hless]
    exact ⟨hmax, rfl⟩

/-- So it is allowed. -/
theorem allows_bounded (ht : t.IsBounded) (x : Binary64) : t.Allows (t.bounded x) where
  finite := (value_bounded ht x).1
  nonneg := (value_bounded ht x).2 ▸ Binary64.clamped_nonneg ht.nonneg x
  le := (value_bounded ht x).2 ▸ Binary64.clamped_le ht.nonneg x

/-- There is no pause of more seconds than any binary number has. -/
theorem delay_of_huge {n : Int} (hn : Binary64.beyond ≤ n.natAbs) :
    t.delay (some n) header = .error .hugeDelay := by
  rw [delay, asked, (Binary64.ofInt?_eq_none_iff n).2 hn]
  rfl

/-- **There is a pause** as it is asked for, unless it is asked for one of more
seconds than any binary number has. -/
theorem delay_cases (ht : t.IsBounded) (wait : Option Int) (header : Option String) :
    (∃ n, wait = some n ∧ Binary64.beyond ≤ n.natAbs ∧ t.delay wait header = .error .hugeDelay)
      ∨ (∀ n, wait = some n → n.natAbs < Binary64.beyond)
        ∧ ∃ d, t.delay wait header = .ok d ∧ t.PausesFor wait header d := by
  cases wait with
  | none => exact .inr ⟨nofun, _, rfl, allows_bounded ht _, nofun, fun _ => (value_bounded ht _).2⟩
  | some n =>
    have hnone := Binary64.ofInt?_eq_none_iff n
    cases hn : Binary64.ofInt? n with
    | none => exact .inl ⟨n, rfl, hnone.1 hn, delay_of_huge (hnone.1 hn)⟩
    | some x =>
      have hless : n.natAbs < Binary64.beyond := by
        rw [← Nat.not_le, ← hnone, hn]
        exact nofun
      refine .inr ⟨fun _ hsome => Option.some.inj hsome ▸ hless, t.bounded x, ?_,
        allows_bounded ht x, ?_, nofun⟩
      · rw [delay, asked, hn]
        rfl
      · intro _ hsome hshort
        obtain rfl := Option.some.inj hsome
        rw [(value_bounded ht x).2, Binary64.clamped_of_isFinite (Binary64.isFinite_of_ofInt? hn),
          Binary64.value_of_ofInt? hshort hn]

theorem allows_of_delay (ht : t.IsBounded) {d : Binary64} (h : t.delay wait header = .ok d) :
    t.Allows d := by
  rcases delay_cases ht wait header with ⟨n, -, -, herror⟩ | ⟨-, d', hok, hpauses⟩
  · rw [herror] at h
    cases h
  · rw [hok] at h
    cases h
    exact hpauses.allows

end Throttle

/-! ## What reports ask for -/

/-- **More seconds than any binary number has.** -/
def ErrorReport.AsksTooMuch (report : ErrorReport) : Prop :=
  ∃ n, report.retryAfter = some n ∧ (Binary64.beyond : Int) ≤ n

namespace Throttle

variable {t : Throttle} {report : ErrorReport}

/-- **A report leads to a pause** unless it asks for too much. -/
theorem delay_of_report (ht : t.IsBounded) {code : Int} {body : RawText}
    (h : ErrorReport.ofRaw code body = .ok (some report)) (header : Option String) :
    report.AsksTooMuch ∧ t.delay report.retryAfter header = .error .hugeDelay
      ∨ ¬ report.AsksTooMuch ∧ ∃ d, t.delay report.retryAfter header = .ok d
        ∧ t.PausesFor report.retryAfter header d := by
  have hnonneg := (ErrorReport.isWellFormed_of_ofRaw h).retryAfter_nonneg
  have hnat {n : Int} (hn : 0 ≤ n) : Binary64.beyond ≤ n.natAbs ↔ (Binary64.beyond : Int) ≤ n := by
    omega
  rcases delay_cases ht report.retryAfter header with ⟨n, hn, hhuge, herror⟩ | ⟨hless, hpause⟩
  · exact .inl ⟨⟨n, hn, (hnat (hnonneg n hn)).1 hhuge⟩, herror⟩
  · refine .inr ⟨fun ⟨n, hn, hhuge⟩ => ?_, hpause⟩
    exact Nat.not_le.2 (hless n hn) ((hnat (hnonneg n hn)).2 hhuge)

end Throttle

/-! ## Calls -/

/-- Acts that pause, if at all, no longer than allowed. -/
def Throttle.AllowsAct (t : Throttle) : Act → Prop
  | .pause d => t.Allows d
  | _ => True

namespace Caller

variable {c : Caller}

/-- Who searches for a catalog does not pause. -/
theorem allowsAct_of_isSearching {act : Act} (h : act.isSearching = true) :
    c.throttle.AllowsAct act := by
  cases act with
  | pause d => cases h
  | _ => trivial

/-- **All attempts together pause only as allowed.** -/
theorem attempt_allowsAct (ht : c.throttle.IsBounded) (call : Call) (payload : Option Octets)
    (held : Issued) (renewals pauses : Nat) :
    (c.attempt call payload held renewals pauses).Confined c.throttle.AllowsAct := by
  -- either budget may be the next to go down, so it goes by their sum
  induction h : renewals + pauses using Nat.strongRecOn generalizing held renewals pauses with
  | ind budget ih =>
    rw [Caller.attempt]
    cases call.request payload held.catalog with
    | error failure => trivial
    | ok request =>
      refine ⟨trivial, fun reply => ?_⟩
      beta_reduce
      cases Channel.receive request reply with
      | error fault => trivial
      | ok answer =>
        simp only
        cases Verdict.of answer with
        | error defect => trivial
        | ok verdict =>
          cases verdict with
          | success => trivial
          | absent => trivial
          | failure report => trivial
          | rejection report =>
            cases renewals with
            | zero => trivial
            | succ renewals =>
              refine ((c.replace_isSearching held).mono fun _ => allowsAct_of_isSearching).andThen
                fun obtained => ?_
              cases obtained with
              | error failure => trivial
              | ok other => exact ih (renewals + pauses) (by omega) _ _ _ rfl
          | throttle report =>
            cases pauses with
            | zero => trivial
            | succ pauses =>
              simp only
              cases hdelay : c.throttle.delay report.retryAfter
                  (answer.header? Throttle.header) with
              | error defect => trivial
              | ok d =>
                exact ⟨Throttle.allows_of_delay ht hdelay,
                  fun _ => ih (renewals + pauses) (by omega) _ _ _ rfl⟩

theorem perform_allowsAct (ht : c.throttle.IsBounded) (call : Call) :
    (c.perform call).Confined c.throttle.AllowsAct := by
  unfold perform
  split
  · trivial
  · unfold performWith
    refine (c.resolve_isSearching.mono fun _ => allowsAct_of_isSearching).andThen fun obtained => ?_
    cases obtained with
    | error failure => trivial
    | ok held => exact attempt_allowsAct ht _ _ _ _ _

/-- A pause that is seen is an act. -/
theorem allows_of_mem_outward (ht : c.throttle.IsBounded) {call : Call} {w : Surroundings}
    {d : Binary64} (h : .pause d ∈ (c.perform call).outward w) : c.throttle.Allows d := by
  obtain ⟨m, hm, hevent⟩ := List.mem_filterMap.1 h
  have hallowed := (perform_allowsAct ht call).of_mem_history hm
  obtain ⟨before, act⟩ := m
  cases act with
  | pause delay =>
    cases hevent
    exact hallowed
  | _ => cases hevent

end Caller

/-- What a reply reports is the report of its body. -/
theorem Reply.exists_of_report? {reply : Reply} {report : ErrorReport}
    (h : reply.report? = some report) :
    ∃ answer, reply = .response answer ∧ ErrorReport.ofResponse answer = .ok (some report) := by
  cases reply with
  | failure fault => cases h
  | response answer =>
    refine ⟨answer, rfl, ?_⟩
    simp only [report?] at h
    split at h
    · cases h
    · cases hread : ErrorReport.ofResponse answer with
      | error defect =>
        rw [hread] at h
        cases h
      | ok found =>
        rw [hread] at h
        exact congrArg Except.ok h

section Ends

open CallRecovery

/-- **How a call ends that was throttled last**: there is no pause left, or it
was asked to pause for too long. -/
theorem CallRecovery.EndsOn.of_bounded_throttling {c : Caller} {call : Call} {renewals pauses : Nat}
    {earlier : List Trial} {last : Trial} {result : Except Failure CallResult}
    {report : ErrorReport} (ht : c.throttle.IsBounded)
    (h : EndsOn c call renewals pauses earlier last result)
    (hreport : last.reply.report? = some report) (hr : report.isRejection = false)
    (hthrottle : report.isThrottle = true) :
    throttlings earlier = pauses ∧ result = .error (.fault (.throttled report))
      ∨ throttlings earlier < pauses ∧ report.AsksTooMuch
        ∧ result = .error (.defect .hugeDelay) := by
  rcases h.of_throttling hreport hr hthrottle with
    hspent | ⟨hleft, answer, defect, hanswer, hdelay, rfl⟩
  · exact .inl hspent
  · obtain ⟨answer', hanswer', hread⟩ := Reply.exists_of_report? hreport
    rcases Throttle.delay_of_report ht hread (answer.header? Throttle.header) with
      ⟨hmuch, herror⟩ | ⟨-, d, hok, -⟩
    · rw [herror] at hdelay
      cases hdelay
      exact .inr ⟨hleft, hmuch, rfl⟩
    · rw [hok] at hdelay
      cases hdelay

/-- **A throttled call pauses within the limit** if that is a number and no
negative one. Whatever is reported for whatever status and body, and whatever
the header says, there is a pause that is allowed and is what is asked for
within the limit, unless the report asks for more seconds than any binary
number has; and just then there is none but a defect. Whatever surrounds a call,
all its pauses are allowed, and if it was throttled last, then it ends so because
there is no pause left, or else with that defect. -/
theorem pauses_within_limit (t : Throttle) (ht : t.IsBounded) :
    (∀ code body report header, ErrorReport.ofBody code body = .ok (some report) →
      report.AsksTooMuch ∧ t.delay report.retryAfter header = .error .hugeDelay
        ∨ ¬ report.AsksTooMuch ∧ ∃ d, t.delay report.retryAfter header = .ok d
          ∧ t.PausesFor report.retryAfter header d) ∧
    ∀ (c : Caller) (call : Call) (w : Surroundings), c.throttle = t →
      (∀ d, .pause d ∈ (c.perform call).outward w → t.Allows d) ∧
      ∀ earlier last report, trials ((c.perform call).history w) = earlier ++ [last] →
        last.reply.report? = some report → report.isRejection = false → report.isThrottle = true →
        throttlings earlier = t.maxPauses.toNat
            ∧ (c.execute call w).1 = .error (.fault (.throttled report))
          ∨ throttlings earlier < t.maxPauses.toNat ∧ report.AsksTooMuch
            ∧ (c.execute call w).1 = .error (.defect .hugeDelay) := by
  refine ⟨fun code body report header h => Throttle.delay_of_report ht h header, ?_⟩
  rintro c call w rfl
  refine ⟨fun d => Caller.allows_of_mem_outward ht, ?_⟩
  intro earlier last report htried hreport hr hthrottle
  obtain ⟨rest, -, htrials, -, -, houtcome⟩ := exists_pursued c call w
  rw [← htrials, htried] at houtcome
  unfold Caller.execute
  generalize ((c.perform call).run w).1 = result at houtcome ⊢
  -- there has been a trial, so the call ends on its last one
  generalize hconcat : earlier ++ [last] = tried at houtcome
  cases houtcome with
  | unencodable h => cases List.append_ne_nil_of_right_ne_nil _ (List.cons_ne_nil _ _) hconcat
  | encoded hbody h =>
    cases h with
    | unasked h => cases List.append_ne_nil_of_right_ne_nil _ (List.cons_ne_nil _ _) hconcat
    | answered h =>
      obtain ⟨rfl, hlast⟩ := List.append_inj' hconcat rfl
      cases hlast
      exact h.of_bounded_throttling ht hreport hr hthrottle

end Ends

/-! ## Calls that are asked to wait -/

namespace Limited

open CatalogRefresh (someCaller listServers outdated refreshedMeanwhile)
open ErrorReport

/-- A fault that says for how many seconds to wait. -/
def fault (n : Nat) : List (RawText × Json) := [("retryAfter", .int n)]

/-- What is reported of it. -/
def report (n : Nat) : ErrorReport :=
  ⟨413, .throttling, "overLimit", defaultExplanation, some n⟩

/-- A body that has it. -/
def body (n : Nat) : FailureBody := Exhausted.written [("overLimit", .obj (fault n))]

/-- An answer with this body. -/
def answer (n : Nat) : Response :=
  ⟨413, .empty, Utf8.encode (Json.obj [("overLimit", .obj (fault n))]).write,
    "Request Entity Too Large"⟩

section Fitting

variable {n : Nat} (hn : (Nat.toDigits 10 n).length ≤ Integer.digitLimit)

include hn

theorem waitOf_int : waitOf (.int n) = some (n : Int) := by
  have hshown : (Json.int n).shown = RawText.ofString (toString n) := rfl
  unfold waitOf
  simp only [hshown, RawText.trim_toString, Integer.read_toString hn]
  exact congrArg some (max_eq_left (Int.natCast_nonneg n))

/-- **Any number of seconds can be asked for** that has no more digits than are
converted. -/
theorem ofBody_body : ofBody 413 (body n) = .ok (some (report n)) := by
  have hinner : (Json.obj (fault n)).IsPlain := ⟨List.pairwise_singleton _ _, rfl, hn, trivial⟩
  have hplain : (Json.obj [("overLimit", .obj (fault n))]).IsPlain :=
    ⟨List.pairwise_singleton _ _, rfl, hinner, trivial⟩
  have hholds := Exhausted.holds_written hplain (by decide : 2 ≤ Json.nestingLimit)
  have hparts : HasParts (fault n) none none (some (.int n)) := ⟨rfl, rfl, rfl⟩
  have hname : (RawText.ofString "overLimit").isEmpty = false := rfl
  have hnone : ∀ e ∈ ([] : List (RawText × Json)), IsBystander e := List.forall_mem_nil _
  have hmembers := ofMembers_wrapped hname (by decide) (by decide) hparts hnone hnone 413
  have hfault : ofFault 413 "overLimit" none (some (.int n)) = some (report n) := by
    unfold ofFault
    rw [Option.getD_some, waitOf_int hn]
    rfl
  exact (ofBody_of_holds hholds (List.cons_ne_nil _ _) 413).trans
    (congrArg _ (hmembers.trans hfault))

theorem ofResponse_answer : ofResponse (answer n) = .ok (some (report n)) := by
  have hbody := ofBody_body hn
  exact hbody

theorem report?_answer : (Reply.response (answer n)).report? = some (report n) :=
  Reply.report?_response rfl (by decide : (413 : Int) ≠ Verdict.absentCode) (ofResponse_answer hn)

end Fitting

/-- The cache has a catalog, and the first answer says to wait. -/
def surroundings (n : Nat) : Surroundings :=
  { refreshedMeanwhile with
    script := [⟨.response (answer n), [], 0, 1⟩, ⟨.response ⟨200, .empty, [], "OK"⟩, [], 0, 1⟩] }

theorem delay_report {n : Nat} (hhuge : Binary64.beyond ≤ n) (t : Throttle)
    (header : Option String) : t.delay (report n).retryAfter header = .error .hugeDelay :=
  Throttle.delay_of_huge hhuge

/-- A call that is asked to wait for too long ends on that. -/
theorem perform_of_huge {n : Nat} (hn : (Nat.toDigits 10 n).length ≤ Integer.digitLimit)
    (hhuge : Binary64.beyond ≤ n) :
    (∃ last, trials ((someCaller.perform listServers).history (surroundings n)) = [] ++ [last]
        ∧ last.reply = .response (answer n))
      ∧ (someCaller.execute listServers (surroundings n)).1 = .error (.defect .hugeDelay) := by
  have hverdict : Verdict.of (answer n) = .ok (.throttle (report n)) := by
    unfold Verdict.of
    rw [ofResponse_answer hn]
    rfl
  have hbody : listServers.body.encode = .ok none := rfl
  have hpauses : someCaller.throttle.pauseCount = 0 + 1 := rfl
  obtain ⟨request, hrequest⟩ : ∃ request, listServers.request none outdated.catalog = .ok request :=
    ⟨_, rfl⟩
  have hsent : (((surroundings n).lookup someCaller.key).2.send (.resource outdated) request).1
      = .response (answer n) := rfl
  have hfound : ((surroundings n).lookup someCaller.key).1 = some outdated := rfl
  have hresolved := CatalogRefresh.resolve_of_lookup hfound
  have hquiet := Course.trials_of_confined someCaller.resolve_isSearching (w := surroundings n)
  unfold Caller.execute
  rw [Caller.perform_of_encode someCaller hbody, Caller.performWith, Course.run_andThen,
    Course.history_andThen, trials_append, hquiet, hresolved]
  simp only
  rw [Caller.attempt, hrequest, hpauses]
  simp only [Course.run_does, Course.history_does, Surroundings.perform]
  rw [hsent]
  simp only [Channel.receive, hverdict, delay_report hhuge]
  exact ⟨⟨_, rfl, hsent⟩, rfl⟩

/-- A number of seconds that is too great and can be asked for. -/
def immense : Nat := 10 ^ 309

theorem immense_fits : (Nat.toDigits 10 immense).length ≤ Integer.digitLimit := by
  decide +kernel

theorem le_immense : Binary64.beyond ≤ immense := by decide +kernel

theorem hour_fits : (Nat.toDigits 10 3600).length ≤ Integer.digitLimit := by decide

theorem value_maxDelay_usual : Throttle.usual.maxDelay.value = 60 := by
  have hsixty : Binary64.ofInt? 60 = some Throttle.usual.maxDelay := by decide
  exact Binary64.value_of_ofInt? (by decide) hsixty

theorem isBounded_usual : Throttle.usual.IsBounded where
  finite := by decide
  nonneg := by
    rw [value_maxDelay_usual]
    norm_num

/-- **No pause is short enough** if the report asks for too much, although the
longest one would do; and the call fails with a defect. -/
theorem immense_wait_has_no_pause :
    Throttle.usual.IsBounded ∧
    ofBody 413 (body immense) = .ok (some (report immense)) ∧
    (∀ header d, Throttle.usual.delay (report immense).retryAfter header ≠ .ok d) ∧
    (someCaller.execute listServers (surroundings immense)).1 = .error (.defect .hugeDelay) := by
  refine ⟨isBounded_usual, ofBody_body immense_fits, fun header d hok => ?_,
    (perform_of_huge immense_fits le_immense).2⟩
  exact nomatch (delay_report le_immense .usual header).symm.trans hok

/-- An hour is a minute at most. -/
theorem pauses_within_limit_usual :
    Throttle.usual.IsBounded ∧
    (∃ d, Throttle.usual.delay (report 3600).retryAfter none = .ok d ∧ d.value = 60) ∧
    (∀ d, .pause d ∈ (someCaller.perform listServers).outward (surroundings 3600) →
      0 ≤ d.value ∧ d.value ≤ 60) ∧
    (someCaller.execute listServers (surroundings immense)).1 = .error (.defect .hugeDelay) := by
  obtain ⟨hreports, hcalls⟩ := pauses_within_limit .usual isBounded_usual
  refine ⟨isBounded_usual, ?_, fun d hd => ?_, ?_⟩
  · rcases hreports 413 (body 3600) (report 3600) none (ofBody_body hour_fits) with
      ⟨⟨n, hn, hmuch⟩, -⟩ | ⟨-, d, hd, hpauses⟩
    · obtain rfl := Option.some.inj hn
      exact absurd hmuch (by decide +kernel)
    · refine ⟨d, hd, ?_⟩
      rw [hpauses.of_wait 3600 rfl (by decide), value_maxDelay_usual, min_eq_right (by norm_num),
        max_eq_right (by norm_num)]
  · have hallowed := (hcalls someCaller listServers (surroundings 3600) rfl).1 d hd
    exact ⟨hallowed.nonneg, value_maxDelay_usual ▸ hallowed.le⟩
  · obtain ⟨⟨last, htrials, hreply⟩, -⟩ := perform_of_huge immense_fits le_immense
    have hreport : last.reply.report? = some (report immense) :=
      hreply ▸ report?_answer immense_fits
    rcases (hcalls someCaller listServers (surroundings immense) rfl).2 [] last (report immense)
      htrials hreport rfl rfl with ⟨hspent, -⟩ | ⟨-, -, hdefect⟩
    · exact absurd hspent (by decide)
    · exact hdefect

end Limited

end CloudClient
