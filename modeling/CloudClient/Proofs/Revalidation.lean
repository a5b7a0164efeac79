import CloudClient.Proofs.Containment
import CloudClient.Proofs.ErrorReports
import CloudClient.Proofs.FailedAuthentication
import CloudClient.Proofs.HomeRegion
import CloudClient.Proofs.RejectionTests
import CloudClient.Proofs.RequestCatalog

/-!
# Putting a cached catalog to the test

Now and then a caller asks the other side whether the token of its cached
catalog is still good. Such a test must do no harm: a token that is good stays
in use, however the other side is, and only a reply that rejects it
(`Reply.Rejects`) counts. This module says all that a test does, whatever the
probability is, whatever number is drawn and however the probe is replied to, as
long as nobody else stores anything.

## One probe at most

There is one probe if it is the catalog's turn and a service is found to ask,
and none otherwise (`IsTurn`, `Asks`). Whether it is the turn is looked at
first, so where the probability is not positive no number is drawn.

## Three replies

A reply may reject the token, or say nothing against it, and then the catalog
is given out and the cache is what it was. If it rejects the token the entry is
removed, and an authentication takes place, which ends the matter whatever comes
of it. The third kind is an answer whose body is nested deeper than is read:
what it says of the token stays open, and the caller ends with a defect although
its catalog is still there (`Reply.IsTooDeep`). The catalog is not harmed, but
whoever asked for it is.
-/

namespace CloudClient

/-- **A probe that has been sent.** -/
structure Test where
  /-- The catalog that is put to the test. -/
  held : Issued
  request : Request
  reply : Reply

/-- The probe that an event is, if it is one. -/
def Event.test? : Event → Option Test
  | .exchange (.probe held) request reply => some ⟨held, request, reply⟩
  | _ => none

/-- The probes that have been sent. -/
def Surroundings.tests (w : Surroundings) : List Test := w.events.filterMap Event.test?

/-- The reply to the next request. -/
def Surroundings.nextReply (w : Surroundings) : Reply :=
  (w.script.head?.map Turn.reply).getD .silence

/-- **A reply rejects the token** that it was asked with, by its status or by
what it reports. -/
inductive Reply.Rejects : Reply → Prop
  | status {answer : Response} (h : answer.RejectsByStatus) : Rejects (.response answer)
  | report {answer : Response} {report : ErrorReport} (hok : answer.isOk = false)
      (hreport : ErrorReport.ofResponse answer = .ok (some report))
      (h : report.isRejection = true) : Rejects (.response answer)

/-- **A reply is nested too deep**: it would have to be read to know whether it
rejects the token, and cannot be. -/
inductive Reply.IsTooDeep : Reply → Prop
  | answer {answer : Response} (hstatus : ¬ answer.RejectsByStatus) (hok : answer.isOk = false)
      (h : answer.IsTooDeep) : IsTooDeep (.response answer)

/-- **A reply that says nothing against the token**, in one of many ways. -/
inductive Reply.IsHarmless : Reply → Prop
  | failure (f : NetworkFailure) : IsHarmless (.failure f)
  | success {answer : Response} (hstatus : ¬ answer.RejectsByStatus) (hok : answer.isOk = true) :
      IsHarmless (.response answer)
  | absent {answer : Response} (hstatus : ¬ answer.RejectsByStatus)
      (hreport : ErrorReport.ofResponse answer = .ok none) : IsHarmless (.response answer)
  | throttled {answer : Response} {report : ErrorReport} (hstatus : ¬ answer.RejectsByStatus)
      (hreport : ErrorReport.ofResponse answer = .ok (some report))
      (h : report.isThrottle = true) : IsHarmless (.response answer)
  | unclassified {answer : Response} {report : ErrorReport} (hstatus : ¬ answer.RejectsByStatus)
      (hreport : ErrorReport.ofResponse answer = .ok (some report))
      (h : report.kind = .general) : IsHarmless (.response answer)
  /-- A body that is no document, for any reason but its depth. -/
  | unreadable {answer : Response} (hstatus : ¬ answer.RejectsByStatus)
      (hdeep : ¬ answer.IsTooDeep) (hread : ∀ v, Json.read answer.text ≠ .ok v) :
      IsHarmless (.response answer)

namespace Caller

/-- **It is the turn of a catalog to be put to the test.** -/
structure IsTurn (c : Caller) (w : Surroundings) : Prop where
  positive : Binary64.lt (.zero false) c.revalidation = true
  drawn : w.draws.head.lt c.revalidation = true

/-- **Where a probe is sent to.** -/
inductive Asks (c : Caller) (catalog : Catalog) : RawText → String → Prop
  /-- The service that is configured, if the catalog has it, -/
  | configured {base : String} (h : catalog.serviceUrl c.probe.service = .ok (some base)) :
      Asks c catalog c.probe.service base
  /-- and otherwise the first of its services that it has for the home region. -/
  | first {service : RawText} {base : String}
      (hmissing : catalog.serviceUrl c.probe.service = .ok none) (before after : List RawText)
      (hkeys : catalog.endpoints.keys = before ++ service :: after)
      (hbefore : ∀ other ∈ before, catalog.serviceUrl other = .ok none)
      (h : catalog.serviceUrl service = .ok (some base)) : Asks c catalog service base

end Caller

/-- **Some probes have been sent**, and nothing else. -/
structure Surroundings.HasOnlySent (w : Surroundings) (sent : List Test) (w' : Surroundings) :
    Prop where
  tests : w'.tests = w.tests ++ sent
  requests : w'.requests = w.requests ++ sent.map Test.request
  authentications : w'.authenticationCount = w.authenticationCount

/-- **The entry of a caller is removed, and it authenticates**; `v` are the
surroundings in between. -/
structure Caller.Reauthenticates (c : Caller) (w : Surroundings) (sent : List Test)
    (v : Surroundings) (result : Except Failure Issued) (w' : Surroundings) : Prop where
  /-- Until the entry is removed only the probe has been sent. -/
  sent : w.HasOnlySent sent v
  /-- There is no entry then, and all others are what they were. -/
  removed : v.cache.stored? c.key = none
  others : ∀ key, key ≠ c.key → v.cache.stored? key = w.cache.stored? key
  /-- One authentication follows, and no probe; the caller ends as it does. -/
  follows : c.authenticateOnce.run v = (result, w')
  once : w'.authenticationCount = v.authenticationCount + 1
  untested : w'.tests = v.tests
  /-- What it obtains is stored, and if it obtains nothing there is no entry. -/
  stored : ∀ issued, result = .ok issued → w'.cache.stored? c.key = some ⟨issued, w'.now⟩
  missing : ∀ failure, result = .error failure → w'.cache.stored? c.key = none
  unchanged : ∀ key, key ≠ c.key → w'.cache.stored? key = w.cache.stored? key

/-- **All that comes of asking for a catalog that is cached.** -/
structure Caller.Revalidates (c : Caller) (held : Issued) (w : Surroundings) (sent : List Test)
    (result : Except Failure Issued) (w' : Surroundings) : Prop where
  tests : w'.tests = w.tests ++ sent
  /-- One probe is sent at most, -/
  once : sent.length ≤ 1
  /-- just if it is the turn of the catalog and there is a service to ask; -/
  sent_iff : sent ≠ [] ↔ c.IsTurn w ∧ ∃ service base, c.Asks held.catalog service base
  located : (∀ service ∈ held.catalog.endpoints.keys,
    held.catalog.serviceUrl service = .ok none) → sent = []
  /-- it is sent to that service, and the next reply is the reply to it. -/
  target : ∀ t ∈ sent, t.held = held ∧ t.reply = w.nextReply ∧
    ∃ service base, c.Asks held.catalog service base ∧
      t.request = c.probeRequest held.catalog service base
  /-- Unless the token is rejected or the reply nested too deep, the catalog is
  given out, and nothing has changed. -/
  harmless : (∀ t ∈ sent, ¬ t.reply.Rejects ∧ ¬ t.reply.IsTooDeep) →
    result = .ok held ∧ w'.cache = w.cache ∧ w.HasOnlySent sent w'
  /-- A reply that is nested too deep changes nothing either, but ends in a
  defect. -/
  tooDeep : ∀ t ∈ sent, t.reply.IsTooDeep →
    result = .error (.defect .deepDocument) ∧ w'.cache = w.cache ∧ w.HasOnlySent sent w'
  /-- On a rejection the entry is removed, and one authentication follows. -/
  rejected : ∀ t ∈ sent, t.reply.Rejects → ∃ v, c.Reauthenticates w sent v result w'

/-! ## Replies -/

section Replies

variable {request : Request} {reply : Reply} {answer : Response} {report : ErrorReport}

/-- Where the status does not settle it, an answer speaks against the token if
its report does. -/
theorem Caller.answerSpeaks_of_not (hstatus : ¬ answer.RejectsByStatus)
    (hok : answer.isOk = false) :
    Caller.answerSpeaks answer = (ErrorReport.ofResponse answer).map fun report? =>
      !report?.any ErrorReport.isRejection := by
  have hunsettled : ¬ (answer.status = 401 ∨ answer.status = 403) := hstatus
  rw [Caller.answerSpeaks_eq, Response.rejects, if_neg hunsettled, hok, if_neg Bool.false_ne_true]
  cases ErrorReport.ofResponse answer <;> rfl

theorem Reply.Rejects.speaksFor_eq (h : reply.Rejects) :
    Caller.speaksFor request reply = .ok false := by
  cases h with
  | status h => exact if_pos h
  | @report answer report hok hreport h =>
    show Caller.answerSpeaks answer = _
    by_cases hstatus : answer.RejectsByStatus
    · exact if_pos hstatus
    · rw [Caller.answerSpeaks_of_not hstatus hok, hreport]
      show Except.ok (!report.isRejection) = _
      rw [h]
      rfl

theorem Reply.IsTooDeep.speaksFor_eq (h : reply.IsTooDeep) :
    Caller.speaksFor request reply = .error .deepDocument := by
  cases h with
  | @answer answer hstatus hok hdeep =>
    show Caller.answerSpeaks answer = _
    rw [Caller.answerSpeaks_of_not hstatus hok,
      ErrorReport.ofResponse_eq_error_iff.2 ⟨hdeep, rfl⟩]
    rfl

theorem Reply.Rejects.not_tooDeep (h : reply.Rejects) : ¬ reply.IsTooDeep := by
  rintro ⟨hstatus, -, hdeep⟩
  cases h with
  | status h => exact hstatus h
  | report _ hreport =>
    rw [ErrorReport.ofResponse_eq_error_iff.2 ⟨hdeep, rfl⟩] at hreport
    cases hreport

/-- What is neither speaks for the token. -/
theorem Reply.speaksFor_of_not (hrejects : ¬ reply.Rejects) (hdeep : ¬ reply.IsTooDeep) :
    Caller.speaksFor request reply = .ok true := by
  cases reply with
  | failure f => rfl
  | response answer =>
    have hstatus : ¬ answer.RejectsByStatus := fun h => hrejects (.status h)
    show Caller.answerSpeaks answer = _
    cases hok : answer.isOk with
    | true => exact (if_neg hstatus).trans (if_pos hok)
    | false =>
      rw [Caller.answerSpeaks_of_not hstatus hok]
      cases hreport : ErrorReport.ofResponse answer with
      | error defect =>
        exact absurd (.answer hstatus hok (ErrorReport.ofResponse_eq_error_iff.1 hreport).1) hdeep
      | ok report? =>
        cases report? with
        | none => rfl
        | some report =>
          have hno : report.isRejection = false :=
            Bool.eq_false_iff.2 fun h => hrejects (.report hok hreport h)
          show Except.ok (!report.isRejection) = _
          rw [hno]
          rfl

/-- Where the status does not settle it, a report rejects by its kind. -/
theorem Response.isRejection_iff_kind (hstatus : ¬ answer.RejectsByStatus)
    (hreport : ErrorReport.ofResponse answer = .ok (some report)) :
    report.isRejection = true ↔ report.kind = .authentication := by
  have hcode : report.code = answer.status := (ErrorReport.isWellFormed_of_ofRaw hreport).code_eq
  obtain ⟨h401, h403⟩ := not_or.1 hstatus
  rw [ErrorReport.isRejection, hcode, beq_false_of_ne h401, beq_false_of_ne h403, Bool.or_self,
    Bool.false_or, beq_iff_eq]

/-- **A body that is no document** is reported without a kind of its own, or
lies too deep. -/
theorem ErrorReport.ofResponse_of_unreadable (hdeep : ¬ answer.IsTooDeep)
    (hread : ∀ v, Json.read answer.text ≠ .ok v) :
    ∃ explanation, ofResponse answer = .ok (some (bare answer.status explanation)) := by
  show ∃ explanation, ofText answer.status answer.text = _
  rw [ofText_eq]
  split
  · exact ⟨_, rfl⟩
  · rename_i hblank
    split
    · rename_i hobject
      exact absurd hobject (hread _)
    · rename_i htooDeep
      exact absurd ⟨Bool.eq_false_iff.2 hblank, htooDeep⟩ hdeep
    · exact ⟨_, rfl⟩

/-- **What says nothing against the token does not reject it**, and can be
read. -/
theorem Reply.IsHarmless.not_rejects (h : reply.IsHarmless) :
    ¬ reply.Rejects ∧ ¬ reply.IsTooDeep := by
  have hreported {answer : Response} {report? : Option ErrorReport}
      (hstatus : ¬ answer.RejectsByStatus) (hreport : ErrorReport.ofResponse answer = .ok report?)
      (hkind : ∀ report, report? = some report → report.kind ≠ .authentication) :
      ¬ (Reply.response answer).Rejects ∧ ¬ (Reply.response answer).IsTooDeep := by
    constructor
    · rintro (hyes | ⟨-, hsome, hrejection⟩)
      · exact hstatus hyes
      · have hsame := Except.ok.inj (hreport.symm.trans hsome)
        exact hkind _ hsame ((Response.isRejection_iff_kind hstatus hsome).1 hrejection)
    · rintro ⟨-, -, hdeep⟩
      rw [ErrorReport.ofResponse_eq_error_iff.2 ⟨hdeep, rfl⟩] at hreport
      cases hreport
  cases h with
  | failure f => exact ⟨nofun, nofun⟩
  | success hstatus hok =>
    constructor
    · rintro (hyes | ⟨hno, -, -⟩)
      · exact hstatus hyes
      · rw [hok] at hno
        cases hno
    · rintro ⟨-, hno, -⟩
      rw [hok] at hno
      cases hno
  | absent hstatus hreport => exact hreported hstatus hreport nofun
  | throttled hstatus hreport hthrottle =>
    refine hreported hstatus hreport ?_
    rintro _ ⟨⟩
    rw [(ErrorReport.isWellFormed_of_ofRaw hreport).isThrottle_iff.1 hthrottle]
    nofun
  | unclassified hstatus hreport hkind =>
    refine hreported hstatus hreport ?_
    rintro _ ⟨⟩
    rw [hkind]
    nofun
  | unreadable hstatus hdeep hread =>
    obtain ⟨explanation, hreport⟩ := ErrorReport.ofResponse_of_unreadable hdeep hread
    refine hreported hstatus hreport ?_
    rintro _ ⟨⟩
    show ErrorReport.bareKind _ ≠ _
    unfold ErrorReport.bareKind
    split <;> nofun

end Replies

/-! ## Where a probe is sent to -/

section Target

variable {c : Caller} {catalog : Catalog} {service : RawText} {base : String}

/-- A service that is located is one of the catalog's. -/
theorem Catalog.mem_keys_of_serviceUrl (hplain : catalog.HasPlainRegions)
    (h : catalog.serviceUrl service = .ok (some base)) : service ∈ catalog.endpoints.keys := by
  obtain ⟨region, ⟨regions, hregions, -⟩, -⟩ := ((Catalog.serviceUrl_eq_ok_iff hplain).1 h).sound
  exact List.mem_map_of_mem hregions

theorem Caller.Asks.serviceUrl_eq (h : c.Asks catalog service base) :
    catalog.serviceUrl service = .ok (some base) := by
  cases h with
  | configured h => exact h
  | first _ _ _ _ _ h => exact h

/-- A search among services ends without a defect, and in vain only if none is
located. -/
theorem Caller.firstLocated_of_plain (hplain : catalog.HasPlainRegions)
    (services : List RawText) :
    ∃ found, Caller.firstLocated catalog services = .ok found
      ∧ (found = none → ∀ service ∈ services, catalog.serviceUrl service = .ok none) := by
  induction services with
  | nil => exact ⟨none, rfl, fun _ => List.forall_mem_nil _⟩
  | cons service more ih =>
    obtain ⟨answer, hanswer, -⟩ := Catalog.lookup_serviceUrl hplain service
    rw [Caller.firstLocated, hanswer]
    cases answer with
    | some base => exact ⟨_, rfl, fun hnone => absurd hnone (Option.some_ne_none _)⟩
    | none =>
      obtain ⟨found, hfound, hnone⟩ := ih
      exact ⟨found, hfound, fun h => List.forall_mem_cons.2 ⟨hanswer, hnone h⟩⟩

theorem Caller.asks_of_probed (h : c.probed catalog = .ok (some (service, base))) :
    c.Asks catalog service base := by
  obtain ⟨front, back, hservices, hfront, hbase⟩ := RequestCatalog.split_of_firstLocated h
  cases front with
  | nil =>
    obtain ⟨rfl, -⟩ := List.cons.inj hservices
    exact .configured hbase
  | cons _ before =>
    obtain ⟨rfl, hkeys⟩ := List.cons.inj hservices
    obtain ⟨hmissing, hbefore⟩ := List.forall_mem_cons.1 hfront
    exact .first hmissing before back hkeys hbefore hbase

/-- **A service is found to ask, or none is located.** -/
theorem Caller.probed_cases (c : Caller) (hplain : catalog.HasPlainRegions) :
    (c.probed catalog = .ok none ∧ ∀ service base, ¬ c.Asks catalog service base)
      ∨ ∃ service base, c.probed catalog = .ok (some (service, base))
        ∧ c.Asks catalog service base := by
  obtain ⟨found, hfound, hnone⟩ :=
    Caller.firstLocated_of_plain hplain (c.probe.service :: catalog.endpoints.keys)
  cases found with
  | none =>
    refine .inl ⟨hfound, fun service base hasks => ?_⟩
    have hmem := Catalog.mem_keys_of_serviceUrl hplain hasks.serviceUrl_eq
    have hmissing := hnone rfl service (List.mem_cons_of_mem _ hmem)
    rw [hasks.serviceUrl_eq] at hmissing
    cases hmissing
  | some target => exact .inr ⟨target.1, target.2, hfound, Caller.asks_of_probed hfound⟩

end Target

/-! ## What has been sent -/

namespace Surroundings

variable {w v w' : Surroundings} {sent : List Test} {key : CacheKey} {held : Issued}

theorem HasOnlySent.refl (w : Surroundings) : w.HasOnlySent [] w where
  tests := (List.append_nil _).symm
  requests := (List.append_nil _).symm
  authentications := rfl

theorem HasOnlySent.trans {more : List Test} (h : w.HasOnlySent sent v)
    (h' : v.HasOnlySent more w') : w.HasOnlySent (sent ++ more) w' where
  tests := by rw [h'.tests, h.tests, List.append_assoc]
  requests := by rw [h'.requests, h.requests, List.map_append, List.append_assoc]
  authentications := h'.authentications.trans h.authentications

/-- The events decide what has been sent. -/
theorem HasOnlySent.congr (h : w.HasOnlySent sent v) (hevents : w'.events = v.events) :
    w.HasOnlySent sent w' where
  tests := by rw [Surroundings.tests, hevents]; exact h.tests
  requests := by rw [Surroundings.requests, hevents]; exact h.requests
  authentications := by rw [Surroundings.authenticationCount, hevents]; exact h.authentications

/-- A draw is nothing that is sent. -/
theorem hasOnlySent_draw (w : Surroundings) : w.HasOnlySent [] w.draw.2 where
  tests := List.filterMap_append
  requests := List.filterMap_append
  authentications := List.countP_append

theorem send_fst (w : Surroundings) (origin : Origin) (request : Request) :
    (w.send origin request).1 = w.nextReply := by
  unfold send nextReply
  cases w.script <;> rfl

theorem events_send (w : Surroundings) (origin : Origin) (request : Request) :
    (w.send origin request).2.events
      = w.events ++ [.exchange origin request (w.send origin request).1] :=
  events_perform w (.send origin request)

theorem hasOnlySent_probe (w : Surroundings) (held : Issued) (request : Request) :
    w.HasOnlySent [⟨held, request, (w.send (.probe held) request).1⟩]
      (w.send (.probe held) request).2 where
  tests := by
    rw [Surroundings.tests, events_send, List.filterMap_append]
    rfl
  requests := by
    rw [Surroundings.requests, events_send, List.filterMap_append]
    rfl
  authentications := by
    rw [authenticationCount, events_send, List.countP_append]
    rfl

/-- A lookup that finds something changes nothing. -/
theorem lookup_snd_of_found (h : (w.lookup key).1 = some held) : (w.lookup key).2 = w := by
  obtain ⟨e, hstored, hgood, -⟩ := stored?_of_lookup h
  have hfind : w.cache.entries.find? key = some e := hstored
  have hgood' : w.cache.isExpired w.now e = false :=
    decide_eq_false (Int.not_lt.2 hgood)
  have hcache : (w.cache.lookup w.now key).2 = w.cache := by
    rw [CatalogCache.lookup, hfind]
    simp only [hgood']
    rfl
  show { w with cache := (w.cache.lookup w.now key).2 } = w
  rw [hcache]

/-- What is found is not there any more when it has been removed. -/
theorem stored?_invalidate_of_stored {e : CatalogCache.Entry}
    (h : w.cache.stored? key = some e) (hvalue : e.value = held) :
    (w.invalidate key held).cache.stored? key = none := by
  rw [stored?_invalidate, if_pos rfl, h, Option.filter_some_neg]
  rw [CatalogCache.isExpected, hvalue, beq_self_eq_true]
  rfl

theorem Alone.run {α : Type} (h : w.Alone) (p : Course α) : (p.run w).2.Alone := by
  induction p generalizing w with
  | ended a => exact h
  | does act next ih => exact ih _ (h.perform act)

end Surroundings

/-! ## Authenticating once -/

namespace Course

variable {α : Type} {p : Course α} {w : Surroundings}

/-- Authentications are counted alike among moments and among events. -/
theorem authenticationCount_run (p : Course α) (w : Surroundings) :
    (p.run w).2.authenticationCount
      = w.authenticationCount + authenticationCount (p.history w) := by
  unfold Surroundings.authenticationCount authenticationCount
  rw [events_run, List.countP_append, outward, List.countP_filterMap]
  refine congrArg _ (List.countP_congr fun m _ => ?_)
  obtain ⟨v, act⟩ := m
  cases act <;> rfl

/-- Getting another catalog takes no probe. -/
theorem tests_run_of_confined (h : p.Confined (·.isRenewing = true)) :
    (p.run w).2.tests = w.tests := by
  have hnone : (p.outward w).filterMap Event.test? = [] := by
    rw [outward, List.filterMap_filterMap, List.filterMap_eq_nil_iff]
    intro m hm
    have hact := h.of_mem_history hm
    obtain ⟨v, act⟩ := m
    cases act with
    | send origin request =>
      cases origin with
      | authentication => rfl
      | probe used => cases hact
      | resource used => cases hact
    | _ => rfl
  rw [Surroundings.tests, events_run, List.filterMap_append, hnone, List.append_nil]
  rfl

end Course

namespace Caller

variable {c : Caller} {w v : Surroundings} {held : Issued} {sent : List Test}

/-- If the holder of the lock finds nothing and obtains nothing, nothing is
there. -/
theorem stored?_of_error (hw : w.Alone) (hmissing : (w.lookup c.key).1 = none) {failure : Failure}
    (h : (c.authenticateOnce.run w).1 = .error failure) :
    (c.authenticateOnce.run w).2.cache.stored? c.key = none := by
  have hlocked : ((w.locked c.key).lookup c.key).1 = none := by
    rw [Surroundings.lookup_locked_fst, hmissing]
  have hrun := (refreshIfMissing_of_missing hlocked).2
  have halone : ((w.locked c.key).lookup c.key).2.Alone := hw
  rw [run_authenticateOnce_fst, hrun] at h
  rw [run_authenticateOnce_snd, hrun, Surroundings.stored?_release]
  cases hraised : (c.authenticate.run ((w.locked c.key).lookup c.key).2).1 with
  | ok issued =>
    rw [refresh_of_ok hraised] at h
    cases h
  | error other =>
    rw [refresh_of_error hraised, cache_authenticate halone]
    exact Surroundings.stored?_lookup_eq_none hlocked

/-- **When the entry has been removed, one authentication follows.** -/
theorem reauthenticates (hw : v.Alone) (hsent : w.HasOnlySent sent v)
    (hremoved : v.cache.stored? c.key = none)
    (hothers : ∀ key, key ≠ c.key → v.cache.stored? key = w.cache.stored? key) :
    c.Reauthenticates w sent v (c.authenticateOnce.run v).1 (c.authenticateOnce.run v).2 := by
  have hmissing : (v.lookup c.key).1 = none := Surroundings.lookup_eq_none hremoved
  obtain ⟨honce, -, hmade⟩ := CatalogRefresh.authenticateOnce_of_missing hmissing
  refine {
    sent := hsent
    removed := hremoved
    others := hothers
    follows := rfl
    once := ?_
    untested := Course.tests_run_of_confined c.authenticateOnce_isRenewing
    stored := fun issued hissued => (hmade issued hissued).2
    missing := fun failure => stored?_of_error hw hmissing
    unchanged := fun key hne => ?_ }
  · rw [Course.authenticationCount_run, honce]
  · have hjustified : AllJustified c none (c.authenticateOnce.history v) :=
      c.allJustified_authenticateOnce v
    rw [← hothers key hne]
    exact Course.stored?_run_of_ne hw hne hjustified

/-! ## The course of a test -/

/-- **The draw** says whether it is the catalog's turn, and is all that has been
done by then. -/
theorem wantsProbe_run (c : Caller) (w : Surroundings) :
    ((c.wantsProbe.run w).1 = true ↔ c.IsTurn w)
      ∧ (c.wantsProbe.run w).2.cache = w.cache
      ∧ (c.wantsProbe.run w).2.nextReply = w.nextReply
      ∧ w.HasOnlySent [] (c.wantsProbe.run w).2 := by
  unfold wantsProbe
  split
  · rename_i hpositive
    exact ⟨⟨fun hdrawn => ⟨hpositive, hdrawn⟩, IsTurn.drawn⟩, rfl, rfl, w.hasOnlySent_draw⟩
  · rename_i hpositive
    exact ⟨iff_of_false nofun fun h => hpositive h.positive, rfl, rfl, .refl w⟩

/-- What comes of a probe, by what its reply says of the token. -/
def afterProbe (c : Caller) (held : Issued) (w' : Surroundings) :
    Except Defect Bool → Except Failure Issued × Surroundings
  | .error defect => (.error (.defect defect), w')
  | .ok true => (.ok held, w')
  | .ok false => c.authenticateOnce.run (w'.invalidate c.key held)

section Found

variable (hfound : (w.lookup c.key).1 = some held)

include hfound

/-- Without a probe the catalog is given out. -/
theorem catalog_of_untested (h : ¬ c.IsTurn w ∨ c.probed held.catalog = .ok none) :
    c.catalog w = (.ok held, (c.wantsProbe.run w).2) := by
  unfold catalog
  rw [(resolve_of_found hfound).2, Surroundings.lookup_snd_of_found hfound, recheck,
    Course.run_andThen]
  cases hwanted : (c.wantsProbe.run w).1 with
  | false => rfl
  | true =>
    have hprobed := h.resolve_left (not_not_intro ((c.wantsProbe_run w).1.1 hwanted))
    rw [Course.run_andThen, accepts, hprobed]
    rfl

/-- **What becomes of a probe** is up to what its reply says of the token. -/
theorem catalog_of_tested (hturn : c.IsTurn w) {service : RawText} {base : String}
    (hprobed : c.probed held.catalog = .ok (some (service, base))) :
    let request := c.probeRequest held.catalog service base
    let replied := (c.wantsProbe.run w).2.send (.probe held) request
    c.catalog w = c.afterProbe held replied.2 (speaksFor request replied.1) := by
  intro request replied
  have haccepts : (c.accepts held).run (c.wantsProbe.run w).2
      = ((speaksFor request replied.1).mapError .defect, replied.2) := by
    unfold accepts
    rw [hprobed]
    rfl
  unfold catalog
  rw [(resolve_of_found hfound).2, Surroundings.lookup_snd_of_found hfound, recheck,
    Course.run_andThen, (c.wantsProbe_run w).1.2 hturn, Course.run_andThen, haccepts]
  rcases speaksFor request replied.1 with defect | (_ | _) <;> rfl

end Found

/-- **A test that is not made** changes nothing. -/
theorem revalidates_untested (hfound : (w.lookup c.key).1 = some held)
    (hasks : ∀ service base, c.IsTurn w → ¬ c.Asks held.catalog service base)
    (h : ¬ c.IsTurn w ∨ c.probed held.catalog = .ok none) :
    c.Revalidates held w [] (c.catalog w).1 (c.catalog w).2 := by
  obtain ⟨-, hcache, -, hsent⟩ := c.wantsProbe_run w
  rw [catalog_of_untested hfound h]
  exact {
    tests := hsent.tests
    once := Nat.zero_le 1
    sent_iff := iff_of_false (fun hne => hne rfl) fun ⟨hturn, service, base, htarget⟩ =>
      hasks service base hturn htarget
    located := fun _ => rfl
    target := List.forall_mem_nil _
    harmless := fun _ => ⟨rfl, hcache, hsent⟩
    tooDeep := List.forall_mem_nil _
    rejected := List.forall_mem_nil _ }

/-- **A test that is made**, up to the reply to its probe in surroundings `w'`,
which decides what comes of it. -/
structure Tests (c : Caller) (held : Issued) (w : Surroundings) (t : Test) (w' : Surroundings) :
    Prop where
  turn : c.IsTurn w
  target : t.held = held ∧ t.reply = w.nextReply ∧
    ∃ service base, c.Asks held.catalog service base ∧
      t.request = c.probeRequest held.catalog service base
  sent : w.HasOnlySent [t] w'
  cache : w'.cache = w.cache
  alone : w'.Alone
  decides : c.catalog w = c.afterProbe held w' (speaksFor t.request t.reply)

theorem exists_tests (hw : w.Alone) (hfound : (w.lookup c.key).1 = some held)
    (hturn : c.IsTurn w) {service : RawText} {base : String}
    (hprobed : c.probed held.catalog = .ok (some (service, base))) :
    ∃ t w', c.Tests held w t w' := by
  obtain ⟨-, hcache, hreply, hdrawn⟩ := c.wantsProbe_run w
  have halone : (c.wantsProbe.run w).2.Alone := hw.run _
  let request := c.probeRequest held.catalog service base
  let replied := (c.wantsProbe.run w).2.send (.probe held) request
  exact ⟨⟨held, request, replied.1⟩, replied.2, {
    turn := hturn
    target := ⟨rfl, (Surroundings.send_fst _ _ request).trans hreply, service, base,
      asks_of_probed hprobed, rfl⟩
    sent := hdrawn.trans (Surroundings.hasOnlySent_probe _ held request)
    cache := (halone.cache_send (.probe held) request).trans hcache
    alone := halone.perform (.send (.probe held) request)
    decides := catalog_of_tested hfound hturn hprobed }⟩

section Tested

variable {t : Test} {w' w'' : Surroundings} {result : Except Failure Issued}
  (h : c.Tests held w t w')

include h

/-- Whatever comes of it, one probe is sent, and it is sent where it should
be. -/
theorem Tests.revalidates (hplain : held.catalog.HasPlainRegions)
    (htests : w''.tests = w.tests ++ [t])
    (hharmless : ¬ t.reply.Rejects → ¬ t.reply.IsTooDeep →
      result = .ok held ∧ w''.cache = w.cache ∧ w.HasOnlySent [t] w'')
    (htooDeep : t.reply.IsTooDeep → result = .error (.defect .deepDocument) ∧
      w''.cache = w.cache ∧ w.HasOnlySent [t] w'')
    (hrejected : t.reply.Rejects → ∃ v, c.Reauthenticates w [t] v result w'') :
    c.Revalidates held w [t] result w'' := by
  obtain ⟨-, -, service, base, hasks, -⟩ := h.target
  exact {
    tests := htests
    once := Nat.le_refl 1
    sent_iff := iff_of_true (List.cons_ne_nil _ _) ⟨h.turn, service, base, hasks⟩
    located := fun hnone => by
      have hmissing := hnone service (Catalog.mem_keys_of_serviceUrl hplain hasks.serviceUrl_eq)
      rw [hasks.serviceUrl_eq] at hmissing
      cases hmissing
    target := List.forall_mem_singleton.2 h.target
    harmless := fun hno => hharmless (hno t List.mem_cons_self).1 (hno t List.mem_cons_self).2
    tooDeep := List.forall_mem_singleton.2 htooDeep
    rejected := List.forall_mem_singleton.2 hrejected }

theorem Tests.reauthenticates (hfound : (w.lookup c.key).1 = some held)
    (hrejects : t.reply.Rejects) :
    c.Reauthenticates w [t] (w'.invalidate c.key held) (c.catalog w).1 (c.catalog w).2 := by
  have hrun := h.decides
  rw [hrejects.speaksFor_eq] at hrun
  obtain ⟨e, hstored, -, hvalue⟩ := Surroundings.stored?_of_lookup hfound
  rw [← h.cache] at hstored
  rw [hrun]
  refine Caller.reauthenticates (h.alone.perform (.invalidate c.key held)) (h.sent.congr rfl)
    (Surroundings.stored?_invalidate_of_stored hstored hvalue) fun key hne => ?_
  rw [Surroundings.stored?_invalidate, if_neg (Ne.symm hne), h.cache]

end Tested

/-- **A cached catalog is put to the test**, or is not. -/
theorem exists_revalidates (hw : w.Alone) (hfound : (w.lookup c.key).1 = some held)
    (hplain : held.catalog.HasPlainRegions) :
    ∃ sent, c.Revalidates held w sent (c.catalog w).1 (c.catalog w).2 := by
  obtain ⟨hprobed, hnowhere⟩ | ⟨service, base, hprobed, -⟩ := c.probed_cases hplain
  · exact ⟨[], revalidates_untested hfound (fun service base _ => hnowhere service base)
      (.inr hprobed)⟩
  by_cases hturn : c.IsTurn w
  · obtain ⟨t, w', h⟩ := exists_tests hw hfound hturn hprobed
    refine ⟨[t], ?_⟩
    by_cases hrejects : t.reply.Rejects
    · have hagain := h.reauthenticates hfound hrejects
      exact h.revalidates hplain (hagain.untested.trans hagain.sent.tests)
        (fun hno => absurd hrejects hno) (fun hdeep => absurd hdeep hrejects.not_tooDeep)
        fun _ => ⟨_, hagain⟩
    by_cases hdeep : t.reply.IsTooDeep
    · have hrun := h.decides
      rw [hdeep.speaksFor_eq] at hrun
      rw [hrun]
      exact h.revalidates hplain h.sent.tests (fun _ hno => absurd hdeep hno)
        (fun _ => ⟨rfl, h.cache, h.sent⟩) fun hyes => absurd hyes hrejects
    · have hrun := h.decides
      rw [Reply.speaksFor_of_not hrejects hdeep] at hrun
      rw [hrun]
      exact h.revalidates hplain h.sent.tests (fun _ _ => ⟨rfl, h.cache, h.sent⟩)
        (fun hyes => absurd hyes hdeep) fun hyes => absurd hyes hrejects
  · exact ⟨[], revalidates_untested hfound (fun _ _ h => absurd h hturn) (.inl hturn)⟩

/-- **Putting a cached catalog to the test is harmless** unless its token is
rejected, or the reply is nested too deep. As long as nobody else stores
anything: one probe is sent at most, just if it is the turn of the catalog and a
service is found to ask, and it is sent to that service. If its reply says
nothing against the token – a network that fails, a success, and with any status
but 401 and 403 absence, throttling, and bodies that say nothing known or are no
document – the catalog is given out, the cache is what it was, and nothing else
is sent. If it rejects the token the entry is removed and one authentication
follows, which decides the rest. -/
theorem revalidation_is_harmless (c : Caller) (held : Issued) (w : Surroundings)
    (halone : ∀ turn ∈ w.script, turn.meanwhile = [])
    (hfound : (w.lookup c.key).1 = some held) (hplain : held.catalog.HasPlainRegions) :
    (∃ sent, c.Revalidates held w sent (c.catalog w).1 (c.catalog w).2) ∧
    ∀ reply : Reply, reply.IsHarmless → ¬ reply.Rejects ∧ ¬ reply.IsTooDeep :=
  ⟨exists_revalidates halone hfound hplain, fun _ => Reply.IsHarmless.not_rejects⟩

end Caller

/-! ## Two answers to one probe -/

namespace Revalidation

open FailedAuthentication (probing rejectedByProbe)
open CatalogRefresh (outdated computeCatalog)

/-- A catalog is in the cache and put to the test, with this answer. -/
def answering (answer : Response) : Surroundings :=
  { rejectedByProbe with script := [⟨.response answer, [], 1, 1⟩] }

/-- The other side has no time. -/
def overloaded : Response := ⟨503, .empty, [], "Service Unavailable"⟩

/-- A number of arrays, one in the other. -/
def nested (n : Nat) : Response :=
  ⟨500, .empty, Utf8.encode (String.ofList (List.replicate n '[')), "Internal Server Error"⟩

section Answering

variable (answer : Response)

theorem alone_answering : ∀ turn ∈ (answering answer).script, turn.meanwhile = [] :=
  List.forall_mem_singleton.2 rfl

theorem lookup_answering : ((answering answer).lookup probing.key).1 = some outdated := rfl

theorem hasPlainRegions_outdated : outdated.catalog.HasPlainRegions := by
  refine ⟨rfl, fun {service region url} hstored => ?_⟩
  obtain ⟨regions, hregions, hurl⟩ := hstored
  cases List.mem_singleton.1 hregions
  cases List.mem_singleton.1 hurl
  rfl

theorem isTurn_answering : probing.IsTurn (answering answer) := by
  have hbelow : Binary64.lt (.zero false) probing.revalidation = true := by decide +kernel
  exact ⟨hbelow, hbelow⟩

theorem asks_outdated : probing.Asks outdated.catalog "compute" "https://compute.example" :=
  .configured rfl

end Answering

/-- Where the other side has no time a probe says nothing against the catalog. -/
theorem revalidation_is_harmless_overloaded :
    (∀ turn ∈ (answering overloaded).script, turn.meanwhile = []) ∧
    ((answering overloaded).lookup probing.key).1 = some outdated ∧
    outdated.catalog.HasPlainRegions ∧
    ∃ t : Test, t.reply = .response overloaded ∧
      (probing.catalog (answering overloaded)).1 = .ok outdated ∧
      (probing.catalog (answering overloaded)).2.cache = (answering overloaded).cache ∧
      (answering overloaded).HasOnlySent [t] (probing.catalog (answering overloaded)).2 := by
  obtain ⟨⟨sent, h⟩, hspared⟩ := Caller.revalidation_is_harmless probing outdated
    (answering overloaded) (alone_answering _) (lookup_answering _) hasPlainRegions_outdated
  have hsent : sent ≠ [] := h.sent_iff.2 ⟨isTurn_answering _, _, _, asks_outdated⟩
  obtain ⟨t, rfl⟩ := List.length_eq_one_iff.1
    (Nat.le_antisymm h.once (List.length_pos_iff.2 hsent))
  have hreply : t.reply = .response overloaded := (h.target t List.mem_cons_self).2.1
  have hstatus : ¬ overloaded.RejectsByStatus := by
    rintro (h | h) <;> cases h
  have hreport : ErrorReport.ofResponse overloaded
      = .ok (some (.bare 503 ErrorReport.defaultExplanation)) := rfl
  have hno := hspared t.reply (hreply ▸ .unclassified hstatus hreport rfl)
  exact ⟨alone_answering _, lookup_answering _, hasPlainRegions_outdated, t, hreply,
    h.harmless (List.forall_mem_singleton.2 hno)⟩

/-! ## A body that is nested too deep -/

/-- Brackets that open are too deep if there are more of them than room. Each
takes two steps of the reader, one for the array and one for its first
element. -/
theorem value_brackets (rest : List CodePoint) {room fuel : Nat} (hfuel : 2 * room < fuel) :
    Json.value fuel room (List.replicate (room + 1) (.char '[') ++ rest) = .error .tooDeep := by
  induction room generalizing fuel with
  | zero =>
    obtain ⟨fuel, rfl⟩ : ∃ k, fuel = k + 1 := ⟨fuel - 1, by omega⟩
    unfold Json.value
    rfl
  | succ room ih =>
    obtain ⟨fuel, rfl⟩ : ∃ k, fuel = k + 2 := ⟨fuel - 2, by omega⟩
    have hinner : Json.value fuel room (List.replicate (room + 1) (.char '[') ++ rest)
        = .error .tooDeep := ih (by omega)
    have helements : Json.elements (fuel + 1) room []
        (List.replicate (room + 1) (.char '[') ++ rest) = .error .tooDeep := by
      rw [Json.elements, hinner]
    unfold Json.value
    exact helements

theorem text_nested (n : Nat) : (nested n).text = String.ofList (List.replicate n '[') := by
  have hshows : ∀ c ∈ List.replicate n '[', Json.Shows c := by
    intro c hc
    rw [List.eq_of_mem_replicate hc]
    decide
  rw [Response.text, nested, Json.encode_ofList hshows, Json.decodeLossy_octets hshows]

theorem isTooDeep_nested {n : Nat} (h : 2 * Json.nestingLimit ≤ n) : (nested n).IsTooDeep := by
  obtain ⟨more, rfl⟩ : ∃ more, n = Json.nestingLimit + 1 + more :=
    ⟨n - (Json.nestingLimit + 1), by unfold Json.nestingLimit at h ⊢; omega⟩
  have hpoints : (List.replicate (Json.nestingLimit + 1 + more) '[').map CodePoint.char
      = List.replicate (Json.nestingLimit + 1) (.char '[') ++ List.replicate more (.char '[') := by
    rw [List.map_replicate, List.replicate_add]
  have hread : Json.readRaw (RawText.ofString (nested (Json.nestingLimit + 1 + more)).text)
      = .error .tooDeep := by
    have hskip (ps : List CodePoint) :
        Json.skip (List.replicate (Json.nestingLimit + 1) (.char '[') ++ ps)
          = List.replicate (Json.nestingLimit + 1) (.char '[') ++ ps := by
      rw [List.replicate_succ, List.cons_append]
      exact Json.skip_cons rfl _
    rw [text_nested, RawText.ofString, String.toList_ofList, hpoints, Json.readRaw, hskip,
      value_brackets]
    rw [List.length_append, List.length_replicate, List.length_replicate]
    omega
  refine ⟨?_, (Json.read_eq_readRaw _).trans hread⟩
  rw [← RawText.isBlank_ofString, Bool.eq_false_iff]
  intro hblank
  rw [Json.readRaw_of_isBlank hblank] at hread
  cases hread

/-- **An answer that is nested too deep** rejects nothing, and yet the catalog
is not given out. -/
theorem nested_answer_withholds_catalog :
    (∀ turn ∈ (answering (nested 5000)).script, turn.meanwhile = []) ∧
    ((answering (nested 5000)).lookup probing.key).1 = some outdated ∧
    outdated.catalog.HasPlainRegions ∧
    (answering (nested 5000)).nextReply = .response (nested 5000) ∧
    ¬ (Reply.response (nested 5000)).Rejects ∧
    (probing.catalog (answering (nested 5000))).1 = .error (.defect .deepDocument) := by
  have hstatus : ¬ (nested 5000).RejectsByStatus := by
    rintro (h | h) <;> cases h
  have hdeep : (Reply.response (nested 5000)).IsTooDeep :=
    .answer hstatus rfl (isTooDeep_nested (by decide))
  obtain ⟨t, w', h⟩ := Caller.exists_tests (alone_answering (nested 5000))
    (lookup_answering (nested 5000)) (isTurn_answering (nested 5000))
    (show probing.probed outdated.catalog = .ok (some ("compute", "https://compute.example")) from
      rfl)
  have hreply : t.reply = .response (nested 5000) := h.target.2.1
  refine ⟨alone_answering _, lookup_answering _, hasPlainRegions_outdated, rfl,
    fun hrejects => hrejects.not_tooDeep hdeep, ?_⟩
  rw [h.decides, (hreply ▸ hdeep : t.reply.IsTooDeep).speaksFor_eq]
  rfl

end Revalidation

end CloudClient
