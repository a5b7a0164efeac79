import CloudClient.Proofs.Pursuit

/-!
# What a call recovers from, and how it ends

A call recovers from rejections and from throttlings, in whatever order they
come, and from nothing else. This module proves for every caller, every call
and all surroundings – whatever the cache holds, whatever others do to it, and
however the other side replies – how far that goes and how it ends.

## How far it goes

Two budgets are counted down: one rejection, and as many throttlings as the
configuration says, which are none if it says less than none. `Bounded` is what
a pursuit keeps with the budgets it has left: each trial that led to another one
was one of the two, and was taken from its budget; there are as many pauses as
throttlings that led on; and an authentication is taken from the budget of
rejections. The one at the beginning of the call comes in addition.

## How it ends

If there has been a trial, its last one decides: `EndsOn`. A budget matters only
in that a rejection or a throttling ends the call when there is nothing left of
it, with an error that says so. If there has been none, the call has had no
request to make, for one of the reasons that `Withheld` lists.
-/

namespace CloudClient.CallRecovery

/-- How many of some trials have been rejected. -/
def rejections (tried : List Trial) : Nat := tried.countP (·.reply.isRejection)

/-- How many of some trials have been throttled. -/
def throttlings (tried : List Trial) : Nat := tried.countP (·.reply.isThrottling)

/-! ## How far it goes -/

/-- **What a pursuit does** when so many rejections and so many throttlings may
be recovered from. -/
structure Bounded (renewals pauses : Nat) (moments : List Moment) : Prop where
  /-- Only a rejection or a throttling leads to another trial, -/
  recovered : ∀ t ∈ (trials moments).dropLast,
    t.reply.isRejection = true ∨ t.reply.isThrottling = true
  /-- as often as that is allowed. -/
  rejections_le : rejections (trials moments).dropLast ≤ renewals
  throttlings_le : throttlings (trials moments).dropLast ≤ pauses
  /-- There is a pause after each throttling that leads on, and no other. -/
  pauses_eq : pauseCount moments = throttlings (trials moments).dropLast
  /-- Only a rejection leads to an authentication. -/
  authentications_le : authenticationCount moments ≤ renewals

/-- Trials that are either rejected or throttled are no more than that. -/
theorem length_eq {tried : List Trial}
    (h : ∀ t ∈ tried, t.reply.isRejection = true ∨ t.reply.isThrottling = true) :
    tried.length = rejections tried + throttlings tried := by
  induction tried with
  | nil => rfl
  | cons t more ih =>
    have hmore := ih fun s hs => h s (List.mem_cons_of_mem t hs)
    unfold rejections throttlings at hmore ⊢
    rw [List.countP_cons, List.countP_cons, List.length_cons, hmore]
    cases hr : t.reply.isRejection with
    | true =>
      rw [Reply.isThrottling_eq_false hr]
      simp only [if_true, Bool.false_eq_true, if_false]
      omega
    | false =>
      have ht : t.reply.isThrottling = true :=
        (h t List.mem_cons_self).resolve_left (by simp [hr])
      rw [ht]
      simp only [if_true, Bool.false_eq_true, if_false]
      omega

/-- So there is at most one trial more than may be recovered from. -/
theorem Bounded.length_le {renewals pauses : Nat} {moments : List Moment}
    (h : Bounded renewals pauses moments) :
    (trials moments).length ≤ 1 + renewals + pauses := by
  have hlen := length_eq h.recovered
  rw [List.length_dropLast] at hlen
  have hr := h.rejections_le
  have ht := h.throttlings_le
  omega

/-- A pursuit that begins with a request makes a trial. -/
theorem trials_ne_nil {c : Caller} {call : Call} {payload : Option Octets} {held : Issued}
    {renewals pauses : Nat} {w : Surroundings} {moments : List Moment}
    {result : Except Failure CallResult}
    (h : Pursuit c call payload held renewals pauses w moments result) {request : Request}
    (hsent : call.request payload held.catalog = .ok request) : trials moments ≠ [] := by
  cases h with
  | unsent hunsent => rw [hunsent] at hsent; cases hsent
  | settled => exact List.cons_ne_nil _ _
  | rejected => exact List.cons_ne_nil _ _
  | lost => exact List.cons_ne_nil _ _
  | renewed => exact List.cons_ne_nil _ _
  | throttled => exact List.cons_ne_nil _ _
  | endless => exact List.cons_ne_nil _ _
  | paused => exact List.cons_ne_nil _ _

theorem Bounded.nil (renewals pauses : Nat) : Bounded renewals pauses [] where
  recovered := fun _ ht => absurd ht (List.not_mem_nil)
  rejections_le := Nat.zero_le renewals
  throttlings_le := Nat.zero_le pauses
  pauses_eq := rfl
  authentications_le := Nat.zero_le renewals

/-- A trial that nothing follows is within any bounds. -/
theorem Bounded.single (renewals pauses : Nat) (held : Issued) (request : Request)
    (w : Surroundings) : Bounded renewals pauses [.asking held request w] where
  recovered := fun _ ht => absurd ht (List.not_mem_nil)
  rejections_le := Nat.zero_le renewals
  throttlings_le := Nat.zero_le pauses
  pauses_eq := rfl
  authentications_le := Nat.zero_le renewals

section EarlierTrials

variable {t : Trial} {tried : List Trial} {p : Trial → Bool}

/-- With one trial more in front, it is the only one more that may have led to
another. -/
theorem mem_dropLast_cons {s : Trial} (h : s ∈ (t :: tried).dropLast) :
    s = t ∨ s ∈ tried.dropLast := by
  cases tried with
  | nil => cases h
  | cons u more =>
    rw [List.dropLast_cons_cons] at h
    exact List.mem_cons.1 h

theorem countP_dropLast_cons_le :
    (t :: tried).dropLast.countP p ≤ tried.dropLast.countP p + 1 := by
  cases tried with
  | nil => exact Nat.zero_le _
  | cons u more =>
    rw [List.dropLast_cons_cons, List.countP_cons]
    split <;> omega

theorem countP_dropLast_cons_of_neg (hp : p t = false) :
    (t :: tried).dropLast.countP p = tried.dropLast.countP p := by
  cases tried with
  | nil => rfl
  | cons u more =>
    rw [List.dropLast_cons_cons, List.countP_cons_of_neg (by simp [hp])]

theorem countP_dropLast_cons_of_pos (h : tried ≠ []) (hp : p t = true) :
    (t :: tried).dropLast.countP p = tried.dropLast.countP p + 1 := by
  rw [List.dropLast_cons_of_ne_nil h, List.countP_cons_of_pos hp]

end EarlierTrials

variable {c : Caller} {call : Call} {payload : Option Octets} {held : Issued}
  {renewals pauses : Nat} {request : Request} {reply : Reply} {w w' : Surroundings}
  {moments rest : List Moment} {result : Except Failure CallResult}

/-- **A rejection is taken from its budget**, together with what is done to
get another catalog. -/
theorem Bounded.renewed (hanswered : w.send (.resource held) request = (reply, w'))
    (hr : reply.isRejection = true) (h : Bounded renewals pauses rest) :
    Bounded (renewals + 1) pauses
      (.asking held request w :: ((c.replace held).history w' ++ rest)) := by
  have hsearch := c.replace_isSearching held
  have htried : trials (.asking held request w :: ((c.replace held).history w' ++ rest))
      = ⟨held, request, reply, w'⟩ :: trials rest := by
    rw [trials_asking hanswered, trials_append, Course.trials_of_confined hsearch,
      List.nil_append]
  have hthrottlings : throttlings (⟨held, request, reply, w'⟩ :: trials rest).dropLast
      = throttlings (trials rest).dropLast :=
    countP_dropLast_cons_of_neg (Reply.isThrottling_eq_false hr)
  constructor
  case recovered =>
    rw [htried]
    intro t ht
    rcases mem_dropLast_cons ht with rfl | ht
    · exact .inl hr
    · exact h.recovered t ht
  case rejections_le =>
    rw [htried]
    exact Nat.le_trans countP_dropLast_cons_le (Nat.succ_le_succ h.rejections_le)
  case throttlings_le =>
    rw [htried, hthrottlings]
    exact h.throttlings_le
  case pauses_eq =>
    rw [htried, hthrottlings, pauseCount_cons, pauseCount_append,
      Course.pauseCount_of_confined hsearch, Nat.zero_add]
    exact h.pauses_eq
  case authentications_le =>
    rw [authenticationCount_cons, authenticationCount_append]
    have hsearched := c.authenticationCount_replace_le held w'
    have hrest := h.authentications_le
    show _ + _ + 0 ≤ _
    omega

/-- **A throttling is taken from its budget**, together with its pause. -/
theorem Bounded.paused {delay : Binary64}
    (hanswered : w.send (.resource held) request = (reply, w'))
    (ht : reply.isThrottling = true) (htried : trials rest ≠ [])
    (h : Bounded renewals pauses rest) :
    Bounded renewals (pauses + 1)
      (.asking held request w :: ⟨w', .pause delay⟩ :: rest) := by
  have hcons : trials (.asking held request w :: ⟨w', .pause delay⟩ :: rest)
      = ⟨held, request, reply, w'⟩ :: trials rest :=
    trials_asking hanswered _
  have hthrottlings : throttlings (⟨held, request, reply, w'⟩ :: trials rest).dropLast
      = throttlings (trials rest).dropLast + 1 :=
    countP_dropLast_cons_of_pos htried ht
  constructor
  case recovered =>
    rw [hcons]
    intro t hmem
    rcases mem_dropLast_cons hmem with rfl | hmem
    · exact .inr ht
    · exact h.recovered t hmem
  case rejections_le =>
    rw [hcons]
    have hrejections : rejections (⟨held, request, reply, w'⟩ :: trials rest).dropLast
        = rejections (trials rest).dropLast :=
      countP_dropLast_cons_of_neg (Reply.isRejection_eq_false ht)
    rw [hrejections]
    exact h.rejections_le
  case throttlings_le =>
    rw [hcons, hthrottlings]
    exact Nat.succ_le_succ h.throttlings_le
  case pauses_eq =>
    rw [hcons, hthrottlings, ← h.pauses_eq, pauseCount_cons, pauseCount_cons]
    rfl
  case authentications_le =>
    rw [authenticationCount_cons, authenticationCount_cons]
    exact h.authentications_le

/-- **A pursuit stays within its budgets.** -/
theorem bounded_of_pursuit (h : Pursuit c call payload held renewals pauses w moments result) :
    Bounded renewals pauses moments := by
  -- the rules put a trial in front; what follows it decides whether it led on
  induction h with
  | unsent hunsent => exact .nil _ _
  | settled hasked h => exact .single _ _ _ _ _
  | rejected hasked h hr => exact .single _ _ _ _ _
  | lost hasked h hlost =>
    rw [← List.append_nil ((c.replace _).history _)]
    exact (Bounded.nil _ _).renewed hasked.answered h
  | renewed hasked h hother hrest ih => exact ih.renewed hasked.answered h
  | throttled hasked h hr ht => exact .single _ _ _ _ _
  | endless hasked h hr ht hdelay => exact .single _ _ _ _ _
  | paused hasked h hrest ih =>
    exact ih.paused hasked.answered h (trials_ne_nil hrest hasked.sent)

/-! ## How it ends -/

/-- **Why a call has no request to make**, given what came of the search for a
catalog. -/
inductive Withheld (call : Call) (obtained : Except Failure Issued) : Failure → Prop where
  | noCatalog {failure : Failure} (h : obtained = .error failure) : Withheld call obtained failure
  | noService {held : Issued} (h : obtained = .ok held)
      (hnone : held.catalog.serviceUrl call.service = .ok none) :
      Withheld call obtained (.fault (.noService call.service held.catalog.homeRegion))
  | noLocator {held : Issued} {defect : Defect} (h : obtained = .ok held)
      (hdefect : held.catalog.serviceUrl call.service = .error defect) :
      Withheld call obtained (.defect defect)
  | noTarget {held : Issued} {base : String} {defect : Defect} (h : obtained = .ok held)
      (hbase : held.catalog.serviceUrl call.service = .ok (some base))
      (hdefect : Target.build base call.path call.resource = .error defect) :
      Withheld call obtained (.defect defect)

/-- **How a call ends on its last trial**, when so many rejections and so many
throttlings may be recovered from, and `earlier` are the trials before. -/
inductive EndsOn (c : Caller) (call : Call) (renewals pauses : Nat) (earlier : List Trial)
    (last : Trial) : Except Failure CallResult → Prop where
  /-- The reply settles it. -/
  | settled {result : Except Failure CallResult} (h : Settled last.request last.reply result) :
      EndsOn c call renewals pauses earlier last result
  /-- Rejected once more. -/
  | rejected {report : ErrorReport} (h : last.reply.report? = some report)
      (hr : report.isRejection = true) (hspent : rejections earlier = renewals) :
      EndsOn c call renewals pauses earlier last (.error (.fault (.rejected report)))
  /-- Rejected, and there is no request with another catalog. -/
  | lost {failure : Failure} (h : last.reply.isRejection = true)
      (hleft : rejections earlier < renewals)
      (hlost : Withheld call ((c.replace last.held).run last.after).1 failure) :
      EndsOn c call renewals pauses earlier last (.error failure)
  /-- Throttled once more. -/
  | throttled {report : ErrorReport} (h : last.reply.report? = some report)
      (hr : report.isRejection = false) (ht : report.isThrottle = true)
      (hspent : throttlings earlier = pauses) :
      EndsOn c call renewals pauses earlier last (.error (.fault (.throttled report)))
  /-- Throttled, and the pause that is asked for has no length. -/
  | endless {answer : Response} {report : ErrorReport} {defect : Defect}
      (hanswer : last.reply = .response answer) (h : last.reply.report? = some report)
      (hr : report.isRejection = false) (ht : report.isThrottle = true)
      (hleft : throttlings earlier < pauses)
      (hdelay : c.throttle.delay report.retryAfter (answer.header? Throttle.header)
        = .error defect) :
      EndsOn c call renewals pauses earlier last (.error (.defect defect))

/-- How a call ends after some trials, or without one. -/
inductive Ends (c : Caller) (call : Call) (obtained : Except Failure Issued)
    (renewals pauses : Nat) : List Trial → Except Failure CallResult → Prop where
  | unasked {failure : Failure} (h : Withheld call obtained failure) :
      Ends c call obtained renewals pauses [] (.error failure)
  | answered {earlier : List Trial} {last : Trial} {result : Except Failure CallResult}
      (h : EndsOn c call renewals pauses earlier last result) :
      Ends c call obtained renewals pauses (earlier ++ [last]) result

theorem Ends.single {obtained : Except Failure Issued} {last : Trial}
    (h : EndsOn c call renewals pauses [] last result) :
    Ends c call obtained renewals pauses [last] result :=
  .answered h

/-- Without a request there is a reason for it. -/
theorem withheld_of_request {failure : Failure}
    (h : call.request payload held.catalog = .error failure) :
    Withheld call (.ok held) failure := by
  obtain ⟨defect, hurl, hway⟩ | ⟨hurl, hway⟩ | ⟨base, defect, hurl, htarget, hway⟩
    | ⟨base, url, -, -, hway⟩ := call.request_cases payload held.catalog
  all_goals
    rw [hway] at h
    cases h
  · exact .noLocator rfl hurl
  · exact .noService rfl hurl
  · exact .noTarget rfl hurl htarget

/-! ## The rules leave no choice -/

theorem Settled.unique {other : Except Failure CallResult} (h : Settled request reply result)
    (h' : Settled request reply other) : result = other := by
  cases h <;> cases h' <;> simp_all [Reply.report?, Except.toOption]

theorem Withheld.unique {obtained : Except Failure Issued} {failure other : Failure}
    (h : Withheld call obtained failure) (h' : Withheld call obtained other) :
    failure = other := by
  cases h <;> cases h' <;> simp_all

section LastTrial

variable {earlier : List Trial} {last : Trial} {report : ErrorReport}

theorem EndsOn.of_unreported (h : EndsOn c call renewals pauses earlier last result)
    (hnone : last.reply.report? = none) : Settled last.request last.reply result := by
  cases h with
  | settled h => exact h
  | rejected h => rw [hnone] at h; cases h
  | lost h => rw [Reply.isRejection, hnone] at h; cases h
  | throttled h => rw [hnone] at h; cases h
  | endless hanswer h => rw [hnone] at h; cases h

/-- After a last rejection the error says so if no other may be recovered
from, and else that there was no other request to make. -/
theorem EndsOn.of_rejection (h : EndsOn c call renewals pauses earlier last result)
    (hreport : last.reply.report? = some report) (hr : report.isRejection = true) :
    rejections earlier = renewals ∧ result = .error (.fault (.rejected report))
      ∨ rejections earlier < renewals ∧ ∃ failure,
        Withheld call ((c.replace last.held).run last.after).1 failure
          ∧ result = .error failure := by
  cases h with
  | settled h => rw [(Settled.of_report h hreport).1] at hr; cases hr
  | rejected h hr' hspent =>
    obtain rfl : _ = report := Option.some_inj.1 (h.symm.trans hreport)
    exact .inl ⟨hspent, rfl⟩
  | lost h hleft hlost => exact .inr ⟨hleft, _, hlost, rfl⟩
  | throttled h hr' =>
    obtain rfl : _ = report := Option.some_inj.1 (h.symm.trans hreport)
    rw [hr'] at hr
    cases hr
  | endless hanswer h hr' =>
    obtain rfl : _ = report := Option.some_inj.1 (h.symm.trans hreport)
    rw [hr'] at hr
    cases hr

/-- After a last throttling the error says so if no other may be recovered
from, and else that the pause has no length. -/
theorem EndsOn.of_throttling (h : EndsOn c call renewals pauses earlier last result)
    (hreport : last.reply.report? = some report) (hr : report.isRejection = false)
    (ht : report.isThrottle = true) :
    throttlings earlier = pauses ∧ result = .error (.fault (.throttled report))
      ∨ throttlings earlier < pauses ∧ ∃ answer defect, last.reply = .response answer
        ∧ c.throttle.delay report.retryAfter (answer.header? Throttle.header) = .error defect
        ∧ result = .error (.defect defect) := by
  cases h with
  | settled h => rw [(Settled.of_report h hreport).2.1] at ht; cases ht
  | rejected h hr' =>
    obtain rfl : _ = report := Option.some_inj.1 (h.symm.trans hreport)
    rw [hr'] at hr
    cases hr
  | lost h => rw [Reply.isRejection_of_report? hreport, hr] at h; cases h
  | throttled h hr' ht' hspent =>
    obtain rfl : _ = report := Option.some_inj.1 (h.symm.trans hreport)
    exact .inl ⟨hspent, rfl⟩
  | endless hanswer h hr' ht' hleft hdelay =>
    obtain rfl : _ = report := Option.some_inj.1 (h.symm.trans hreport)
    exact .inr ⟨hleft, _, _, hanswer, hdelay, rfl⟩

/-- After another failure the error is what is reported. -/
theorem EndsOn.of_failure (h : EndsOn c call renewals pauses earlier last result)
    (hreport : last.reply.report? = some report) (hr : report.isRejection = false)
    (ht : report.isThrottle = false) : result = .error (.fault report.toFault) := by
  cases h with
  | settled h => exact (Settled.of_report h hreport).2.2
  | lost h => rw [Reply.isRejection_of_report? hreport, hr] at h; cases h
  | rejected h hr' =>
    obtain rfl : _ = report := Option.some_inj.1 (h.symm.trans hreport)
    rw [hr'] at hr
    cases hr
  | throttled h hr' ht' =>
    obtain rfl : _ = report := Option.some_inj.1 (h.symm.trans hreport)
    rw [ht'] at ht
    cases ht
  | endless hanswer h hr' ht' =>
    obtain rfl : _ = report := Option.some_inj.1 (h.symm.trans hreport)
    rw [ht'] at ht
    cases ht

/-- **The last trial and the budgets decide how a call ends.** -/
theorem EndsOn.unique {other : Except Failure CallResult}
    (h : EndsOn c call renewals pauses earlier last result)
    (h' : EndsOn c call renewals pauses earlier last other) : result = other := by
  cases hreport : last.reply.report? with
  | none => exact Settled.unique (h.of_unreported hreport) (h'.of_unreported hreport)
  | some report =>
    cases hr : report.isRejection with
    | true =>
      rcases h.of_rejection hreport hr with ⟨hspent, rfl⟩ | ⟨hleft, failure, hlost, rfl⟩
      · rcases h'.of_rejection hreport hr with ⟨-, rfl⟩ | ⟨hleft, -⟩
        · rfl
        · omega
      · rcases h'.of_rejection hreport hr with ⟨hspent, -⟩ | ⟨-, failure', hlost', rfl⟩
        · omega
        · rw [hlost.unique hlost']
    | false =>
      cases ht : report.isThrottle with
      | false => rw [h.of_failure hreport hr ht, h'.of_failure hreport hr ht]
      | true =>
        rcases h.of_throttling hreport hr ht with
          ⟨hspent, rfl⟩ | ⟨hleft, answer, defect, hanswer, hdelay, rfl⟩
        · rcases h'.of_throttling hreport hr ht with ⟨-, rfl⟩ | ⟨hleft, -⟩
          · rfl
          · omega
        · rcases h'.of_throttling hreport hr ht with
            ⟨hspent, -⟩ | ⟨-, answer', defect', hanswer', hdelay', rfl⟩
          · omega
          · rw [hanswer] at hanswer'
            cases hanswer'
            rw [hdelay] at hdelay'
            cases hdelay'
            rfl

theorem Ends.unique {obtained : Except Failure Issued} {tried : List Trial}
    {other : Except Failure CallResult} (h : Ends c call obtained renewals pauses tried result)
    (h' : Ends c call obtained renewals pauses tried other) : result = other := by
  cases h with
  | unasked h =>
    generalize hnil : ([] : List Trial) = tried at h'
    cases h' with
    | unasked h' => rw [h.unique h']
    | answered h' => cases List.append_ne_nil_of_right_ne_nil _ (List.cons_ne_nil _ _) hnil.symm
  | answered h =>
    rename_i earlier last
    generalize hconcat : earlier ++ [last] = tried at h'
    cases h' with
    | unasked h' => cases List.append_ne_nil_of_right_ne_nil _ (List.cons_ne_nil _ _) hconcat
    | answered h' =>
      obtain ⟨rfl, hlast⟩ := List.append_inj' hconcat rfl
      cases hlast
      exact h.unique h'

end LastTrial

section OneMore

variable {t last : Trial} {earlier : List Trial}

/-- One recovered rejection more needs one more in the budget. -/
theorem EndsOn.cons_rejection (hr : t.reply.isRejection = true)
    (h : EndsOn c call renewals pauses earlier last result) :
    EndsOn c call (renewals + 1) pauses (t :: earlier) last result := by
  have hrejections : rejections (t :: earlier) = rejections earlier + 1 :=
    List.countP_cons_of_pos hr
  have hthrottlings : throttlings (t :: earlier) = throttlings earlier :=
    List.countP_cons_of_neg (by simp [Reply.isThrottling_eq_false hr])
  cases h with
  | settled h => exact .settled h
  | rejected h hr hspent => exact .rejected h hr (by omega)
  | lost h hleft hlost => exact .lost h (by omega) hlost
  | throttled h hr ht hspent => exact .throttled h hr ht (by omega)
  | endless hanswer h hr ht hleft hdelay => exact .endless hanswer h hr ht (by omega) hdelay

/-- One recovered throttling more needs one more in the budget. -/
theorem EndsOn.cons_throttling (ht : t.reply.isThrottling = true)
    (h : EndsOn c call renewals pauses earlier last result) :
    EndsOn c call renewals (pauses + 1) (t :: earlier) last result := by
  have hrejections : rejections (t :: earlier) = rejections earlier :=
    List.countP_cons_of_neg (by simp [Reply.isRejection_eq_false ht])
  have hthrottlings : throttlings (t :: earlier) = throttlings earlier + 1 :=
    List.countP_cons_of_pos ht
  cases h with
  | settled h => exact .settled h
  | rejected h hr hspent => exact .rejected h hr (by omega)
  | lost h hleft hlost => exact .lost h (by omega) hlost
  | throttled h hr ht hspent => exact .throttled h hr ht (by omega)
  | endless hanswer h hr ht hleft hdelay => exact .endless hanswer h hr ht (by omega) hdelay

end OneMore

/-- **A pursuit ends on its last trial.** -/
theorem ends_of_pursuit (h : Pursuit c call payload held renewals pauses w moments result) :
    Ends c call (.ok held) renewals pauses (trials moments) result := by
  -- the budgets of the rest are what the trial in front has left of them
  induction h with
  | unsent hunsent => exact .unasked (withheld_of_request hunsent)
  | settled hasked h =>
    rw [trials_asking hasked.answered]
    exact .single (.settled h)
  | rejected hasked h hr =>
    rw [trials_asking hasked.answered]
    exact .single (.rejected h hr rfl)
  | lost hasked h hlost =>
    rw [trials_asking hasked.answered, Course.trials_of_confined (c.replace_isSearching _)]
    exact .single (.lost h (Nat.succ_pos _) (.noCatalog hlost))
  | renewed hasked h hother hrest ih =>
    rw [trials_asking hasked.answered, trials_append,
      Course.trials_of_confined (c.replace_isSearching _), List.nil_append]
    generalize trials _ = tried at ih ⊢
    -- the rest may end before its first trial, and then this one was the last
    cases ih with
    | unasked hwithheld =>
      exact .single (.lost h (Nat.succ_pos _) (hother ▸ hwithheld))
    | answered hends => exact .answered (hends.cons_rejection h)
  | throttled hasked h hr ht =>
    rw [trials_asking hasked.answered]
    exact .single (.throttled h hr ht rfl)
  | endless hasked h hr ht hdelay =>
    rw [trials_asking hasked.answered]
    exact .single (.endless rfl h hr ht (Nat.succ_pos _) hdelay)
  | paused hasked h hrest ih =>
    have htried := trials_ne_nil hrest hasked.sent
    rw [trials_asking hasked.answered, trials_pause]
    generalize trials _ = tried at ih htried ⊢
    cases ih with
    | unasked hwithheld => exact absurd rfl htried
    | answered hends => exact .answered (hends.cons_throttling h)

/-! ## When there is a result -/

/-- **A reply that gives a result**: that the resource is there, or that it is
not. -/
def Decides (found : Bool) (reply : Reply) : Prop :=
  ∃ answer, reply = .response answer ∧
    match found with
    | true => answer.isOk = true
    | false => answer.status = 404 ∨ answer.isOk = false ∧ ErrorReport.ofResponse answer = .ok none

/-- A reply that gives a result reports nothing. -/
theorem Decides.report?_eq_none {found : Bool} (h : Decides found reply) : reply.report? = none := by
  obtain ⟨answer, rfl, h⟩ := h
  cases found with
  | true =>
    have hok : answer.isOk = true := h
    simp [Reply.report?, hok]
  | false =>
    rcases h with h404 | ⟨-, hnone⟩
    · simp [Reply.report?, Verdict.absentCode, h404]
    · simp [Reply.report?, hnone, Except.toOption]

theorem isOk_eq_false_of_status {answer : Response} (h : answer.status = 404) :
    answer.isOk = false := by
  simp [Response.isOk, h]

/-- A reply that settles a call gives a result just if the call ends with
one. -/
theorem Settled.found_iff (h : Settled request reply result) (found : Bool) :
    (∃ r, result = .ok r ∧ r.found = found) ↔ Decides found reply := by
  constructor
  · rintro ⟨r, rfl, rfl⟩
    cases h with
    | success hok => exact ⟨_, rfl, hok⟩
    | absent hok habsent =>
      exact ⟨_, rfl, habsent.imp_right fun hnone => ⟨hok, hnone⟩⟩
  · intro hdecides
    have hreport := hdecides.report?_eq_none
    obtain ⟨answer, hanswer, hfound⟩ := hdecides
    cases h with
    | unreachable fault => cases hanswer
    | failed h hr ht => rw [h] at hreport; cases hreport
    | success hok =>
      cases hanswer
      cases found with
      | true => exact ⟨_, rfl, rfl⟩
      | false =>
        have hno : answer.isOk = false := hfound.elim isOk_eq_false_of_status And.left
        rw [hok] at hno
        cases hno
    | absent hok habsent =>
      cases hanswer
      cases found with
      | true => rw [show answer.isOk = true from hfound] at hok; cases hok
      | false => exact ⟨_, rfl, rfl⟩
    | unreadable hok h404 hdefect =>
      cases hanswer
      cases found with
      | true => rw [show answer.isOk = true from hfound] at hok; cases hok
      | false =>
        rcases hfound with hstatus | ⟨-, hnone⟩
        · exact absurd hstatus h404
        · rw [hnone] at hdefect
          cases hdefect

/-- **The last reply decides whether there is a result.** -/
theorem EndsOn.found_iff {earlier : List Trial} {last : Trial}
    (h : EndsOn c call renewals pauses earlier last result) (found : Bool) :
    (∃ r, result = .ok r ∧ r.found = found) ↔ Decides found last.reply := by
  constructor
  · rintro ⟨r, rfl, hr⟩
    cases h with
    | settled h => exact (Settled.found_iff h found).1 ⟨r, rfl, hr⟩
  · intro hdecides
    exact (Settled.found_iff (h.of_unreported hdecides.report?_eq_none) found).2 hdecides

theorem Ends.found_iff {obtained : Except Failure Issued} {tried : List Trial}
    (h : Ends c call obtained renewals pauses tried result) (found : Bool) :
    (∃ r, result = .ok r ∧ r.found = found)
      ↔ ∃ last, tried.getLast? = some last ∧ Decides found last.reply := by
  cases h with
  | unasked h => simp
  | answered h =>
    rw [h.found_iff found, List.getLast?_concat]
    simp

/-! ## The whole call -/

/-- **How a call ends.** A body that has no octets ends it before it begins. -/
inductive Outcome (c : Caller) (call : Call) (w : Surroundings) :
    List Trial → Except Failure CallResult → Prop where
  | unencodable {defect : Defect} (h : call.body.encode = .error defect) :
      Outcome c call w [] (.error (.defect defect))
  | encoded {payload : Option Octets} {tried : List Trial} {result : Except Failure CallResult}
      (hbody : call.body.encode = .ok payload)
      (h : Ends c call (c.catalog w).1 1 c.throttle.maxPauses.toNat tried result) :
      Outcome c call w tried result

theorem Outcome.found_iff {tried : List Trial} (h : Outcome c call w tried result)
    (found : Bool) :
    (∃ r, result = .ok r ∧ r.found = found)
      ↔ ∃ last, tried.getLast? = some last ∧ Decides found last.reply := by
  cases h with
  | unencodable h => simp
  | encoded hbody h => exact h.found_iff found

theorem Outcome.unique {tried : List Trial} {other : Except Failure CallResult}
    (h : Outcome c call w tried result) (h' : Outcome c call w tried other) : result = other := by
  cases h with
  | unencodable h =>
    cases h' with
    | unencodable h' => rw [h] at h'; cases h'; rfl
    | encoded hbody h' => rw [h] at hbody; cases hbody
  | encoded hbody h =>
    cases h' with
    | unencodable h' => rw [hbody] at h'; cases h'
    | encoded hbody' h' => exact h.unique h'

/-- **A call is a search for a catalog and a pursuit.** What the search adds is
one authentication at most. -/
theorem exists_pursued (c : Caller) (call : Call) (w : Surroundings) :
    ∃ rest, Bounded 1 c.throttle.maxPauses.toNat rest ∧
      trials ((c.perform call).history w) = trials rest ∧
      pauseCount ((c.perform call).history w) = pauseCount rest ∧
      authenticationCount ((c.perform call).history w) ≤ 1 + authenticationCount rest ∧
      Outcome c call w (trials rest) ((c.perform call).run w).1 := by
  cases hbody : call.body.encode with
  | error defect =>
    unfold Caller.perform
    rw [hbody]
    exact ⟨[], .nil _ _, rfl, rfl, Nat.zero_le _, .unencodable hbody⟩
  | ok payload =>
    have hsearch := c.resolve_isSearching
    have hsearched := c.authenticationCount_resolve_le w
    rw [c.perform_of_encode hbody]
    rcases performWith_cases c call payload w with
      ⟨failure, hobtained, hhistory, hresult⟩ | ⟨held, rest, hobtained, hhistory, hpursuit⟩
    · rw [hhistory, hresult, Course.trials_of_confined hsearch,
        Course.pauseCount_of_confined hsearch]
      exact ⟨[], .nil _ _, rfl, rfl, hsearched,
        .encoded hbody (.unasked (.noCatalog hobtained))⟩
    · rw [hhistory, trials_append, pauseCount_append, authenticationCount_append,
        Course.trials_of_confined hsearch, Course.pauseCount_of_confined hsearch,
        List.nil_append, Nat.zero_add]
      have hends := ends_of_pursuit hpursuit
      rw [← hobtained] at hends
      exact ⟨rest, bounded_of_pursuit hpursuit, rfl, rfl, Nat.add_le_add_right hsearched _,
        .encoded hbody hends⟩

/-- **A call recovers from one rejection and from as many throttlings as it may
pause for, and its last trial decides how it ends.** Whatever the cache holds,
whatever others do and however the other side replies: what is recorded of the
call are its moments. Each trial but the last was a rejection or a throttling,
within the budgets; there is a pause for each throttling that led on; and there
are two authentications at most. The call ends as `Outcome` says. In
particular it finds the resource just if the last reply is a success, and finds
it absent just if that has the status 404 or is another failure with a body that
says so. -/
theorem recovery_and_outcome (c : Caller) (call : Call) (w : Surroundings) :
    let moments := (c.perform call).history w
    let tried := trials moments
    let earlier := tried.dropLast
    let result := (c.execute call w).1
    (c.execute call w).2.events = w.events ++ moments.filterMap Moment.event? ∧
    (∀ t ∈ earlier, t.reply.isRejection = true ∨ t.reply.isThrottling = true) ∧
    rejections earlier ≤ 1 ∧
    (throttlings earlier : Int) ≤ max 0 c.throttle.maxPauses ∧
    (tried.length : Int) ≤ 2 + max 0 c.throttle.maxPauses ∧
    pauseCount moments = throttlings earlier ∧
    authenticationCount moments ≤ 2 ∧
    (∀ other, Outcome c call w tried other ↔ other = result) ∧
    ((∃ r, result = .ok r ∧ r.found = true) ↔
      ∃ last answer, tried.getLast? = some last ∧ last.reply = .response answer ∧
        200 ≤ answer.status ∧ answer.status < 300) ∧
    ((∃ r, result = .ok r ∧ r.found = false) ↔
      ∃ last answer, tried.getLast? = some last ∧ last.reply = .response answer ∧
        (answer.status = 404 ∨
          answer.isOk = false ∧ ErrorReport.ofResponse answer = .ok none)) := by
  intro moments tried earlier result
  obtain ⟨rest, hbounded, htrials, hpauses, hauthentications, houtcome⟩ := exists_pursued c call w
  have htried : tried = trials rest := htrials
  have hearlier : earlier = (trials rest).dropLast := congrArg List.dropLast htried
  have hlen := hbounded.length_le
  have hthrottlings := hbounded.throttlings_le
  have hauth := hbounded.authentications_le
  rw [← htried] at hlen houtcome
  have hmax : max 0 c.throttle.maxPauses = (c.throttle.maxPauses.toNat : Int) := by omega
  rw [hmax]
  refine ⟨Course.events_run _ w, ?_, ?_, ?_, ?_, ?_, ?_, ?_, ?_, ?_⟩
  · rw [hearlier]
    exact hbounded.recovered
  · rw [hearlier]
    exact hbounded.rejections_le
  · rw [hearlier]
    exact Int.ofNat_le.2 hthrottlings
  · omega
  · rw [hearlier, ← hbounded.pauses_eq]
    exact hpauses
  · exact Nat.le_trans hauthentications (Nat.add_le_add_left hauth 1)
  · exact fun other => ⟨fun h => h.unique houtcome, fun h => h ▸ houtcome⟩
  · refine (houtcome.found_iff true).trans (exists_congr fun last => ?_)
    simp [Decides, Response.isOk]
  · refine (houtcome.found_iff false).trans (exists_congr fun last => ?_)
    simp [Decides]

end CloudClient.CallRecovery
