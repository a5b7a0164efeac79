import CloudClient.Proofs.CatalogRefresh
import CloudClient.Proofs.ErrorReports

/-!
# Whether credentials were rejected

The question is asked of an answer in three places, each with an order of
tests of its own: by an attempt to authenticate (`Response.rejects`), by a
probe (`Caller.answerSpeaks`), and by a call, which counts a trial as rejected
or not by the `Verdict` on it. This module says how far the three agree.

The first two always do: a probe speaks for a catalog exactly when an attempt
would not count the answer as a rejection, and where the one cannot read the
body the other cannot either. A status of 401 or 403 settles it for both.

A call asks in another order. It looks for absence first, so that a 404 is an
absent resource whatever its body says, and a report is what it then judges.
Elsewhere, if the body has a report where the status alone would settle it,
the call agrees with the others.

## What a call does

That a call *takes* an answer as a rejection is said by what it does next
(`TakenAsRejection`), not by the test it makes. The first time it has the
catalog replaced, and the second time it ends with the fault of rejected
credentials. Nothing else it does after a trial looks like either, so the
equivalence is one of behaviours: `follows_of_pursuit` is the induction over
the rules of a call, and `rejection_tests_agree` compares the three.
-/

namespace CloudClient

/-! ## Attempts and probes -/

/-- **A probe and an attempt agree**, also on what cannot be read. -/
theorem Caller.answerSpeaks_eq (answer : Response) :
    Caller.answerSpeaks answer = answer.rejects.map fun rejected => !rejected := by
  unfold Caller.answerSpeaks Response.rejects
  split
  · rfl
  · split
    · rfl
    · cases ErrorReport.ofResponse answer with
      | error defect => rfl
      | ok report => cases report <;> rfl

/-- **An attempt and the report of an answer agree**, where there is a
report or the status does not settle it. -/
theorem Reply.isRejection_iff_rejects {answer : Response} (hok : answer.isOk = false)
    (h404 : answer.status ≠ Verdict.absentCode)
    (hreported : answer.status = 401 ∨ answer.status = 403 →
      ∃ report, ErrorReport.ofResponse answer = .ok (some report)) :
    (Reply.response answer).isRejection = true ↔ answer.rejects = .ok true := by
  have hreport : (Reply.response answer).report?
      = (ErrorReport.ofResponse answer).toOption.join := by
    unfold Reply.report?
    simp [hok, h404]
  unfold Reply.isRejection Response.rejects
  rw [hreport]
  by_cases hstatus : answer.status = 401 ∨ answer.status = 403
  · obtain ⟨report, h⟩ := hreported hstatus
    have hcode : report.code = answer.status := (ErrorReport.isWellFormed_of_ofRaw h).code_eq
    rw [if_pos hstatus, h]
    refine iff_of_true ?_ rfl
    show report.isRejection = true
    unfold ErrorReport.isRejection
    rw [hcode]
    obtain h | h := hstatus <;> simp [h]
  · rw [if_neg hstatus, hok, if_neg Bool.false_ne_true]
    cases ErrorReport.ofResponse answer with
    | error defect => simp [Except.toOption, Except.map]
    | ok report => simp [Except.toOption, Except.map]

/-! ## Calls -/

/-- What settles a call whatever may still be recovered from is no rejection. -/
theorem Settled.result_ne_rejected {request : Request} {reply : Reply}
    {result : Except Failure CallResult} (h : Settled request reply result) (report : ErrorReport) :
    result ≠ .error (.fault (.rejected report)) := by
  cases h with
  | failed => simp [ErrorReport.toFault, Fault.rejected]
  | unreachable fault => simp [Fault.network, Fault.communication, Fault.rejected]
  | success => nofun
  | absent => nofun
  | unreadable => nofun

namespace CatalogRefresh

/-- **What follows a trial** of a call: the moments after it, and the result
of the call if there are none. `spent` says of the moments before it that the
call has recovered from a rejection already. -/
inductive Follows (c : Caller) (spent : List Moment → Prop) (result : Except Failure CallResult)
    (pre : List Moment) (t : Trial) (post : List Moment) : Prop where
  /-- The catalog of the trial is replaced. -/
  | replaced (h : t.reply.isRejection = true) (hspent : ¬ spent pre) (more : List Moment)
      (hpost : post = (c.replace t.held).history t.after ++ more)
  | rejected {report : ErrorReport} (h : t.reply.isRejection = true) (hspent : spent pre)
      (hpost : post = []) (hresult : result = .error (.fault (.rejected report)))
  | settled (h : Settled t.request t.reply result) (hpost : post = [])
  | throttled {report : ErrorReport} (h : t.reply.isThrottling = true) (hpost : post = [])
      (hresult : result = .error (.fault (.throttled report)))
  | endless {defect : Defect} (h : t.reply.isThrottling = true) (hpost : post = [])
      (hresult : result = .error (.defect defect))
  | paused {delay : Binary64} (h : t.reply.isThrottling = true) (more : List Moment)
      (hpost : post = ⟨t.after, .pause delay⟩ :: more)

/-- What follows the trial of a moment, if it is one. -/
def FollowsMoment (c : Caller) (spent : List Moment → Prop) (result : Except Failure CallResult)
    (pre : List Moment) (m : Moment) (post : List Moment) : Prop :=
  ∀ t, m.trial? = some t → Follows c spent result pre t post

section Follows

variable {c : Caller} {call : Call} {payload : Option Octets} {held : Issued}
  {renewals pauses : Nat} {request : Request} {reply : Reply} {w w' : Surroundings}
  {spent spent' : List Moment → Prop} {result : Except Failure CallResult}
  {pre pre' post moments : List Moment} {m : Moment}

theorem FollowsMoment.congr (h : FollowsMoment c spent result pre m post)
    (hspent : spent pre ↔ spent' pre') : FollowsMoment c spent' result pre' m post := by
  intro t ht
  cases h t ht with
  | replaced h hno more hpost => exact .replaced h (fun hs => hno (hspent.2 hs)) more hpost
  | rejected h hs hpost hresult => exact .rejected h (hspent.1 hs) hpost hresult
  | settled h hpost => exact .settled h hpost
  | throttled h hpost hresult => exact .throttled h hpost hresult
  | endless h hpost hresult => exact .endless h hpost hresult
  | paused h more hpost => exact .paused h more hpost

/-- There are no trials in a search for a catalog. -/
theorem followsMoment_of_confined {p : Course α} (h : p.Confined (·.isSearching = true))
    {Q Q' : List Moment → List Moment} :
    Everywhere (fun pre m post => FollowsMoment c spent result (Q pre) m (Q' post))
      (p.history w) := by
  refine everywhere_of_forall fun m hm _ _ t ht => ?_
  rw [Moment.trial?_of_isSearching (h.of_mem_history hm)] at ht
  cases ht

/-- The moment at which the resource is asked for is a trial. -/
theorem followsMoment_asking (hasked : Asked call payload held request w reply w')
    (h : Follows c spent result pre ⟨held, request, reply, w'⟩ post) :
    FollowsMoment c spent result pre (.asking held request w) post := by
  intro t ht
  have htrial : (Moment.asking held request w).trial? = some ⟨held, request, reply, w'⟩ := by
    show some (⟨held, request, (w.send (.resource held) request).1,
      (w.send (.resource held) request).2⟩ : Trial) = _
    rw [hasked.answered]
  rw [htrial] at ht
  cases ht
  exact h

/-- **What follows the trials in the pursuit of a call**, which may recover
from one rejection at most. -/
theorem follows_of_pursuit (h : Pursuit c call payload held renewals pauses w moments result)
    (honce : renewals ≤ 1) :
    Everywhere (FollowsMoment c (fun pre => renewals = 0 ∨ HasBeenRejected pre) result)
      moments := by
  have hnone : ¬ HasBeenRejected [] := fun ⟨t, ht, _⟩ => List.not_mem_nil ht
  induction h with
  | unsent => exact everywhere_nil
  | settled hasked h =>
    exact everywhere_cons.2 ⟨followsMoment_asking hasked (.settled h rfl), everywhere_nil⟩
  | rejected hasked h hr =>
    refine everywhere_cons.2 ⟨followsMoment_asking hasked ?_, everywhere_nil⟩
    exact .rejected ((Reply.isRejection_of_report? h).trans hr) (.inl rfl) rfl rfl
  | lost hasked h hlost =>
    refine everywhere_cons.2 ⟨followsMoment_asking hasked ?_,
      followsMoment_of_confined (c.replace_isSearching _)⟩
    exact .replaced h (not_or.2 ⟨Nat.succ_ne_zero _, hnone⟩) [] (List.append_nil _).symm
  | @renewed held other renewals pauses w w' request reply rest result hasked h hother hrest ih =>
    -- it was the only one there is, and it stands in front of the rest
    obtain rfl : renewals = 0 := by omega
    refine everywhere_cons.2 ⟨followsMoment_asking hasked ?_, everywhere_append.2
      ⟨followsMoment_of_confined (c.replace_isSearching held), ?_⟩⟩
    · exact .replaced h (not_or.2 ⟨Nat.succ_ne_zero _, hnone⟩) rest rfl
    · refine (ih (Nat.zero_le _)).imp fun pre m post hfollows => hfollows.congr ?_
      exact iff_of_true (.inl rfl) (.inr (hasBeenRejected_asking hasked h _))
  | throttled hasked h hr ht =>
    refine everywhere_cons.2 ⟨followsMoment_asking hasked (.throttled ?_ rfl rfl), everywhere_nil⟩
    rw [Reply.isThrottling_of_report? h, hr, ht]
    rfl
  | endless hasked h hr ht hdelay =>
    refine everywhere_cons.2 ⟨followsMoment_asking hasked (.endless ?_ rfl rfl), everywhere_nil⟩
    rw [Reply.isThrottling_of_report? h, hr, ht]
    rfl
  | @paused held renewals pauses w w' request reply delay rest result hasked h hrest ih =>
    refine everywhere_cons.2 ⟨followsMoment_asking hasked (.paused h rest rfl),
      everywhere_cons.2 ⟨fun t ht => (by cases ht), ?_⟩⟩
    refine (ih honce).imp fun pre m post hfollows => hfollows.congr (or_congr_right ?_)
    unfold HasBeenRejected
    rw [trials_asking hasked.answered]
    constructor
    · rintro ⟨t, ht, hrejected⟩
      exact ⟨t, List.mem_cons_of_mem _ ht, hrejected⟩
    · rintro ⟨t, ht, hrejected⟩
      obtain rfl | ht := List.mem_cons.1 ht
      · rw [Reply.isRejection_eq_false h] at hrejected
        cases hrejected
      · exact ⟨t, ht, hrejected⟩

/-- **What follows the trials of a call.** -/
theorem follows_of_perform (c : Caller) (call : Call) (w : Surroundings) :
    Everywhere (FollowsMoment c HasBeenRejected (c.execute call w).1)
      ((c.perform call).history w) := by
  unfold Caller.execute
  cases hbody : call.body.encode with
  | error defect =>
    unfold Caller.perform
    rw [hbody]
    exact everywhere_nil
  | ok payload =>
    rw [c.perform_of_encode hbody]
    obtain ⟨failure, -, hhistory, -⟩ | ⟨held, rest, -, hhistory, hpursuit⟩ :=
      performWith_cases c call payload w
    · rw [hhistory]
      exact followsMoment_of_confined c.resolve_isSearching
    · rw [hhistory]
      refine everywhere_append.2 ⟨followsMoment_of_confined c.resolve_isSearching, ?_⟩
      refine (follows_of_pursuit hpursuit (Nat.le_refl _)).imp fun pre m post h => h.congr ?_
      unfold HasBeenRejected
      rw [trials_append, Course.trials_of_confined c.resolve_isSearching, List.nil_append]
      exact or_iff_right Nat.one_ne_zero

end Follows

/-! ## What a call takes as a rejection -/

/-- **A call takes the answer to a trial as a rejection**: it has the catalog
of the trial replaced, unless there has been a rejection before, and then it
ends with the fault of rejected credentials. -/
def TakenAsRejection (c : Caller) (result : Except Failure CallResult) (pre : List Moment)
    (t : Trial) (post : List Moment) : Prop :=
  (¬ HasBeenRejected pre ∧ ∃ more, post = (c.replace t.held).history t.after ++ more)
    ∨ HasBeenRejected pre ∧ post = [] ∧ ∃ report, result = .error (.fault (.rejected report))

section Taken

variable {c : Caller} {result : Except Failure CallResult} {pre post : List Moment} {t : Trial}

/-- What a call does after a rejection begins with the removal of the
catalog. -/
theorem history_replace_ne (c : Caller) (held : Issued) (w : Surroundings) (more : List Moment)
    (h : ∀ m ∈ post.head?, ∀ issued, m.act ≠ .invalidate c.key issued) :
    post ≠ (c.replace held).history w ++ more := by
  rintro rfl
  exact h ⟨w, .invalidate c.key held⟩ rfl held rfl

/-- A call that ends otherwise has not taken the last answer as a
rejection. -/
theorem not_taken_of_last (hpost : post = [])
    (hresult : ∀ report, result ≠ .error (.fault (.rejected report))) :
    ¬ TakenAsRejection c result pre t post := by
  subst hpost
  rintro (⟨-, more, hmore⟩ | ⟨-, -, report, hreport⟩)
  · refine history_replace_ne c t.held t.after more (fun m hm => ?_) hmore
    cases hm
  · exact hresult report hreport

/-- **To be a rejection is to be taken as one.** -/
theorem Follows.taken_iff (h : Follows c HasBeenRejected result pre t post) :
    t.reply.isRejection = true ↔ TakenAsRejection c result pre t post := by
  cases h with
  | replaced h hspent more hpost => exact iff_of_true h (.inl ⟨hspent, more, hpost⟩)
  | rejected h hspent hpost hresult => exact iff_of_true h (.inr ⟨hspent, hpost, _, hresult⟩)
  | settled h hpost =>
    exact iff_of_false (Bool.eq_false_iff.1 h.isRejection_eq_false)
      (not_taken_of_last hpost h.result_ne_rejected)
  | throttled h hpost hresult =>
    refine iff_of_false (Bool.eq_false_iff.1 (Reply.isRejection_eq_false h))
      (not_taken_of_last hpost fun report => ?_)
    simp [hresult, Fault.throttled, Fault.rejected]
  | endless h hpost hresult =>
    refine iff_of_false (Bool.eq_false_iff.1 (Reply.isRejection_eq_false h))
      (not_taken_of_last hpost fun report => ?_)
    simp [hresult]
  | paused h more hpost =>
    refine iff_of_false (Bool.eq_false_iff.1 (Reply.isRejection_eq_false h)) ?_
    subst hpost
    rintro (⟨-, more, hmore⟩ | ⟨-, hnil, -⟩)
    · refine history_replace_ne c t.held t.after more (fun m hm issued => ?_) hmore
      obtain rfl := Option.mem_some.1 hm
      nofun
    · cases hnil

/-- Absence is no report. -/
theorem report?_of_absent {answer : Response}
    (h : answer.status = Verdict.absentCode ∨ ErrorReport.ofResponse answer = .ok none) :
    (Reply.response answer).report? = none := by
  obtain h | h := h
  · simp [Reply.report?, h]
  · simp [Reply.report?, h, Except.toOption]

/-- A reply that reports nothing settles a call. -/
theorem Follows.settled_of_unreported (h : Follows c HasBeenRejected result pre t post)
    (hreport : t.reply.report? = none) : post = [] ∧ Settled t.request t.reply result := by
  have hrejection : t.reply.isRejection = false := by rw [Reply.isRejection, hreport]; rfl
  have hthrottling : t.reply.isThrottling = false := by rw [Reply.isThrottling, hreport]; rfl
  cases h with
  | settled h hpost => exact ⟨hpost, h⟩
  | replaced h => rw [hrejection] at h; cases h
  | rejected h => rw [hrejection] at h; cases h
  | throttled h => rw [hthrottling] at h; cases h
  | endless h => rw [hthrottling] at h; cases h
  | paused h => rw [hthrottling] at h; cases h

/-- **Absence ends a call**, and is no rejection. -/
theorem Follows.absent {answer : Response} (h : Follows c HasBeenRejected result pre t post)
    (hreply : t.reply = .response answer) (hok : answer.isOk = false)
    (habsent : answer.status = Verdict.absentCode ∨ ErrorReport.ofResponse answer = .ok none) :
    post = [] ∧ result = .ok (.ofResponse false answer) := by
  have hreport := report?_of_absent habsent
  rw [← hreply] at hreport
  obtain ⟨hpost, hsettled⟩ := h.settled_of_unreported hreport
  refine ⟨hpost, ?_⟩
  rw [hreply] at hsettled hreport
  cases hsettled with
  | success hyes => rw [hok] at hyes; cases hyes
  | absent => rfl
  | unreadable _ h404 hread => exact absurd habsent (not_or.2 ⟨h404, by rw [hread]; nofun⟩)
  | failed hsome => rw [hsome] at hreport; cases hreport

end Taken

/-! ## One answer -/

/-- A catalog is in the cache, and this is how it is answered. -/
def answering (answer : Response) : Surroundings :=
  { refreshedMeanwhile with script := [⟨.response answer, [], 0, 1⟩] }

/-- There is a trial that is answered so. -/
theorem exists_trial_answering (answer : Response) :
    ∃ pre m post t, (someCaller.perform listServers).history (answering answer) = pre ++ m :: post
      ∧ m.trial? = some t ∧ t.reply = .response answer := by
  have hfound : ((answering answer).lookup someCaller.key).1 = some outdated := by rfl
  have hresolve : someCaller.resolve.run (answering answer)
      = (.ok outdated, ((answering answer).lookup someCaller.key).2) := by
    rw [(Caller.resolve_of_found hfound).2]
    rfl
  obtain ⟨request, hrequest⟩ : ∃ request,
      listServers.request none outdated.catalog = .ok request := ⟨_, rfl⟩
  have hbody : listServers.body.encode = .ok none := rfl
  rw [someCaller.perform_of_encode hbody]
  obtain ⟨failure, hobtained, -⟩ | ⟨held, rest, hobtained, hhistory, hpursuit⟩ :=
    performWith_cases someCaller listServers none (answering answer)
  · rw [hresolve] at hobtained
    cases hobtained
  · rw [hresolve] at hobtained hpursuit
    cases hobtained
    obtain ⟨asked, more, rfl⟩ | ⟨-, failure, hunsent, -⟩ := goesOn_of_pursuit hpursuit
    · exact ⟨_, _, more, _, hhistory, rfl, rfl⟩
    · rw [hrequest] at hunsent
      cases hunsent

/-- An answer that rejects the credentials and says nothing else. -/
def unauthorized : Response := ⟨401, .empty, [], "Unauthorized"⟩

/-! ## Agreement -/

/-- A probe that is answered like this speaks for its catalog exactly when an
attempt would not count the answer as a rejection. -/
def ProbeAgrees (c : Caller) (answer : Response) : Prop :=
  ∀ held w service base, c.probed held.catalog = .ok (some (service, base)) →
    (w.send (.probe held) (c.probeRequest held.catalog service base)).1 = .response answer →
    ((c.accepts held).run w).1 = (answer.rejects.map fun rejected => !rejected).mapError .defect

/-- What a call makes of an answer to a trial. -/
structure CallAgrees (c : Caller) (answer : Response) (result : Except Failure CallResult)
    (pre : List Moment) (t : Trial) (post : List Moment) : Prop where
  /-- A 404 is an absent resource, whatever its body says. -/
  absent : answer.status = Verdict.absentCode →
    post = [] ∧ result = .ok (.ofResponse false answer)
  /-- Any other answer is taken as a rejection exactly when an attempt would
  count it as one. -/
  agrees : answer.status ≠ Verdict.absentCode →
    (answer.status = 401 ∨ answer.status = 403 →
      ∃ report, ErrorReport.ofResponse answer = .ok (some report)) →
    (answer.rejects = .ok true ↔ TakenAsRejection c result pre t post)

/-- **The three agree on an answer that is no success.** A status of 401 or
403 is a rejection for an attempt; a probe goes by what an attempt would
count; and so does every call at every trial, except that a 404 is absence. -/
theorem rejection_tests_agree (c : Caller) (answer : Response) (hno : answer.isOk = false) :
    (answer.status = 401 ∨ answer.status = 403 → answer.rejects = .ok true)
      ∧ ProbeAgrees c answer
      ∧ ∀ call w, Everywhere (fun pre m post => ∀ t, m.trial? = some t →
          t.reply = .response answer → CallAgrees c answer (c.execute call w).1 pre t post)
        ((c.perform call).history w) := by
  refine ⟨fun hstatus => if_pos hstatus, ?_, ?_⟩
  · intro held w service base hprobed hanswered
    unfold Caller.accepts
    rw [hprobed]
    show (Caller.speaksFor _ (w.send _ _).1).mapError Failure.defect = _
    rw [hanswered]
    show (Caller.answerSpeaks answer).mapError Failure.defect = _
    rw [Caller.answerSpeaks_eq]
  · intro call w pre m post hsplit t ht hreply
    have hfollows := follows_of_perform c call w pre m post hsplit t ht
    refine ⟨fun h404 => hfollows.absent hreply hno (.inl h404), fun h404 hreported => ?_⟩
    rw [← Reply.isRejection_iff_rejects hno h404 hreported, ← hreply]
    exact hfollows.taken_iff

/-- The outdated catalog is rejected: an attempt would count that, and so does
the call. -/
theorem rejection_tests_agree_unauthorized :
    unauthorized.isOk = false ∧ unauthorized.rejects = .ok true
      ∧ ∃ pre m post t,
        (someCaller.perform listServers).history (answering unauthorized) = pre ++ m :: post
          ∧ m.trial? = some t ∧ t.reply = .response unauthorized
          ∧ TakenAsRejection someCaller
            (someCaller.execute listServers (answering unauthorized)).1 pre t post := by
  have hno : unauthorized.isOk = false := by rfl
  obtain ⟨hrejects, -, hcalls⟩ := rejection_tests_agree someCaller unauthorized hno
  obtain ⟨pre, m, post, t, hsplit, ht, hreply⟩ := exists_trial_answering unauthorized
  refine ⟨hno, hrejects (.inl rfl), pre, m, post, t, hsplit, ht, hreply, ?_⟩
  have hagrees := (hcalls listServers _ pre m post hsplit t ht hreply).agrees (by decide)
    fun _ => ⟨_, rfl⟩
  exact hagrees.1 (hrejects (.inl rfl))

/-! ## Answers on which they disagree -/

/-- An attempt and a probe count an answer as a rejection that a call takes as
absence. -/
def Disputed (answer : Response) : Prop :=
  answer.isOk = false ∧ answer.rejects = .ok true
    ∧ ((someCaller.accepts outdated).run (answering answer)).1 = .ok false
    ∧ (someCaller.execute listServers (answering answer)).1 = .ok (.ofResponse false answer)

theorem disputed_of_absent {answer : Response} (hno : answer.isOk = false)
    (hrejects : answer.rejects = .ok true)
    (habsent : answer.status = Verdict.absentCode ∨ ErrorReport.ofResponse answer = .ok none) :
    Disputed answer := by
  refine ⟨hno, hrejects, ?_, ?_⟩
  · show (Caller.answerSpeaks answer).mapError Failure.defect = _
    rw [Caller.answerSpeaks_eq, hrejects]
    rfl
  · obtain ⟨pre, m, post, t, hsplit, ht, hreply⟩ := exists_trial_answering answer
    have hfollows := follows_of_perform someCaller listServers _ pre m post hsplit t ht
    exact (hfollows.absent hreply hno habsent).2

/-- A 404 whose body says that the credentials are rejected. -/
def unauthorizedAs404 : Response :=
  ⟨404, .empty, Utf8.encode "\x7b\"unauthorized\":\x7b\x7d\x7d", "Not Found"⟩

/-- A 401 whose body says that an item is not there. -/
def itemNotFoundAs401 : Response :=
  ⟨401, .empty, Utf8.encode "\x7b\"itemNotFound\":\x7b\x7d\x7d", "Unauthorized"⟩

/-- **Where status and body disagree, so may the three.** -/
theorem disputed_answers : Disputed unauthorizedAs404 ∧ Disputed itemNotFoundAs401 := by
  constructor
  · have hrejects : unauthorizedAs404.rejects.toOption = some true := by decide +kernel
    exact disputed_of_absent rfl (eq_ok_of_toOption hrejects) (.inl rfl)
  · have habsent : (ErrorReport.ofResponse itemNotFoundAs401).toOption = some none := by
      decide +kernel
    exact disputed_of_absent rfl rfl (.inr (eq_ok_of_toOption habsent))

end CatalogRefresh

end CloudClient
