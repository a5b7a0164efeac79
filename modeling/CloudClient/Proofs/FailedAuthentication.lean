import CloudClient.Client
import CloudClient.Proofs.CatalogRefresh

/-!
# What a failed authentication leaves

A caller authenticates when the cache has no catalog for it, when a probe has
rejected the cached one, and when a call has been rejected. In the last two cases
it has removed a catalog by then, and in all of them it holds the lock of its
session. If the authentication fails, its error ends the errand, and this module
says in what state it leaves the cache, as long as nobody else stores anything.

## A clean cache

Under the key of the session there is nothing then, neither the catalog that was
too old or rejected nor a new one; every other entry is what it was; and the lock
of the session has been given back. So the next errand begins with an
authentication, before anybody is asked for anything else (`LeftClean`).

All ways to an authentication are one in the end: whatever comes before, it is
made by whoever holds the lock and has found nothing (`Caller.authenticateOnce`),
and with that an errand ends. So it is enough to follow the holder of the lock
(`leftClean_of_authenticateOnce`) and to see that nothing comes after it
(`exists_locked`).

## Trying the credentials

A client can also authenticate past the cache. That touches no entry unless it
succeeds, and then only that of its own session.
-/

namespace CloudClient

/-! ## Nobody else stores anything -/

/-- **Nobody else stores anything** while a request is on its way. -/
def Surroundings.Alone (w : Surroundings) : Prop := ∀ turn ∈ w.script, turn.meanwhile = []

namespace Surroundings.Alone

variable {w : Surroundings} {m : Moment} {α : Type} {p : Course α}

theorem perform (h : w.Alone) (act : Act) : (w.perform act).2.Alone :=
  fun turn hturn => h turn (mem_script_of_perform hturn)

theorem before (h : w.Alone) (hm : m ∈ p.history w) : m.before.Alone := by
  induction p generalizing w with
  | ended a => cases hm
  | does act next ih =>
    rcases List.mem_cons.1 hm with rfl | hm
    · exact h
    · exact ih _ (h.perform act) hm

/-- A request leaves the cache alone. -/
theorem cache_send (h : w.Alone) (origin : Origin) (request : Request) :
    (w.send origin request).2.cache = w.cache := by
  unfold send
  cases hscript : w.script with
  | nil => rfl
  | cons turn more =>
    have hnothing : turn.meanwhile = [] := h turn (hscript ▸ List.mem_cons_self)
    show storeAll (w.now + turn.lead) turn.meanwhile w.cache = w.cache
    rw [hnothing]
    rfl

theorem othersStores_eq_nil (h : m.before.Alone) : m.othersStores = [] := by
  obtain ⟨w, act⟩ := m
  cases act with
  | send origin request =>
    show (w.script.head?.map Turn.meanwhile).getD [] = []
    cases hscript : w.script with
    | nil => rfl
    | cons turn more => exact h turn (hscript ▸ List.mem_cons_self)
  | _ => rfl

end Surroundings.Alone

/-- **Whatever a caller does, the entries of other keys stay as they are.** -/
theorem Course.stored?_run_of_ne {α : Type} {c : Caller} {p : Course α} {previous : Option Moment}
    {w : Surroundings} {key : CacheKey} (hw : w.Alone) (hne : key ≠ c.key)
    (hjustified : AllJustified c previous (p.history w)) :
    (p.run w).2.cache.stored? key = w.cache.stored? key := by
  induction p generalizing previous w with
  | ended a => rfl
  | does act next ih =>
    have hact : (w.perform act).2.cache.stored? key = w.cache.stored? key := by
      refine Classical.byContradiction fun hchange => ?_
      have hreason : Change c previous ⟨w, act⟩ key := hjustified.1.change hchange
      -- of the reasons for a change, one is others and all else is about its own key
      cases hreason with
      | others hother hafter =>
        rw [Surroundings.Alone.othersStores_eq_nil (m := ⟨w, act⟩) hw] at hother
        cases hother
      | expired hkey => exact hne hkey
      | rejected hkey => exact hne hkey
      | renewed hkey => exact hne hkey
    exact (ih _ (hw.perform act) hjustified.2).trans hact

/-! ## Authenticating leaves the cache alone -/

/-- Whether an act leaves the cache alone, if nobody else does anything. -/
def Act.sparesCache : Act → Bool
  | .send _ _ | .draw | .pause _ | .authentication | .issue _ => true
  | _ => false

theorem Surroundings.Alone.cache_perform {w : Surroundings} (hw : w.Alone) {act : Act}
    (h : act.sparesCache = true) : (w.perform act).2.cache = w.cache := by
  cases act with
  | send origin request => exact hw.cache_send origin request
  | draw => rfl
  | pause delay => rfl
  | authentication => rfl
  | issue catalog => rfl
  | _ => cases h

theorem Course.cache_run {α : Type} {p : Course α} {w : Surroundings} (hw : w.Alone)
    (h : p.Confined (·.sparesCache = true)) : (p.run w).2.cache = w.cache := by
  induction p generalizing w with
  | ended a => rfl
  | does act next ih =>
    exact (ih _ (hw.perform act) (h.2 _)).trans (hw.cache_perform h.1)

namespace Caller

variable {c : Caller} {w : Surroundings} {m : Moment} {failure : Failure} {issued : Issued}

theorem authenticate_sparesCache (c : Caller) : c.authenticate.Confined (·.sparesCache = true) := by
  unfold authenticate
  generalize Authentication.usual c.session = talk
  refine ⟨rfl, fun _ => Course.Confined.andThen ?_ fun outcome => ?_⟩
  · exact (Course.confined_converse .authentication talk).mono fun _ ⟨_, h⟩ => h ▸ rfl
  · cases outcome with
    | error failure => trivial
    | ok catalog => exact ⟨rfl, fun _ => trivial⟩

/-- **Authenticating leaves the cache alone**, whatever comes of it. -/
theorem cache_authenticate (hw : w.Alone) : (c.authenticate.run w).2.cache = w.cache :=
  Course.cache_run hw c.authenticate_sparesCache

/-- What has not been made is not stored. -/
theorem refresh_of_error (h : (c.authenticate.run w).1 = .error failure) :
    c.refresh.run w = (.error failure, (c.authenticate.run w).2) := by
  unfold refresh
  rw [Course.run_andThen, h]
  rfl

theorem refresh_of_ok (h : (c.authenticate.run w).1 = .ok issued) :
    c.refresh.run w = (.ok issued, (c.authenticate.run w).2.store c.key issued) := by
  unfold refresh
  rw [Course.run_andThen, h]
  rfl

/-! ## Where an authentication begins -/

theorem not_isAuthentication_of_count {moments : List Moment}
    (h : authenticationCount moments = 0) (hm : m ∈ moments) : m.act ≠ .authentication := by
  intro hact
  have hnone := List.countP_eq_zero.1 h m hm
  rw [Moment.isAuthentication, hact] at hnone
  exact hnone rfl

/-- A refresh begins with an authentication and has no other. -/
theorem history_refresh (c : Caller) (w : Surroundings) :
    ∃ back, c.refresh.history w = ⟨w, .authentication⟩ :: back ∧ authenticationCount back = 0 := by
  have honce := c.authenticationCount_refresh w
  have hbegin : ∃ back, c.refresh.history w = ⟨w, .authentication⟩ :: back := by
    unfold refresh authenticate
    rw [Course.history_andThen, Course.history_does]
    exact ⟨_, rfl⟩
  obtain ⟨back, hhistory⟩ := hbegin
  rw [hhistory, authenticationCount_cons] at honce
  exact ⟨back, hhistory, Nat.succ.inj honce⟩

theorem before_of_mem_refresh (hm : m ∈ c.refresh.history w) (hact : m.act = .authentication) :
    m.before = w := by
  obtain ⟨back, hhistory, hnone⟩ := c.history_refresh w
  rw [hhistory] at hm
  rcases List.mem_cons.1 hm with rfl | hm
  · rfl
  · exact absurd hact (not_isAuthentication_of_count hnone hm)

/-- **The holder of the lock authenticates when it has found nothing.** -/
theorem missing_of_mem_authenticateOnce (hm : m ∈ c.authenticateOnce.history w)
    (hact : m.act = .authentication) :
    (w.lookup c.key).1 = none ∧ m.before = ((w.locked c.key).lookup c.key).2 := by
  rw [history_authenticateOnce] at hm
  simp only [List.mem_cons, List.mem_append, List.not_mem_nil, or_false] at hm
  rcases hm with rfl | rfl | hm | rfl
  · cases hact
  · cases hact
  · cases hfound : ((w.locked c.key).lookup c.key).1 with
    | some found =>
      rw [(refreshIfMissing_of_found hfound).1] at hm
      rw [List.mem_singleton.1 hm] at hact
      cases hact
    | none =>
      rw [(refreshIfMissing_of_missing hfound).1] at hm
      rw [← Surroundings.lookup_locked_fst w c.key c.key]
      rcases List.mem_cons.1 hm with rfl | hm
      · cases hact
      · exact ⟨hfound, before_of_mem_refresh hm hact⟩
  · cases hact

/-- The lock that the holder has taken is that of its session, and it is held. -/
theorem lock_locked (w : Surroundings) (key : CacheKey) :
    (w.locked key).cache.locks.table.find? key = some (w.sessionLock key).1
      ∧ (w.locked key).cache.locks.isHeld (w.sessionLock key).1 = true := by
  have htable : (w.locked key).cache.locks.table = (w.cache.locks.obtain key).2.table :=
    LockTable.table_acquire _ _
  rw [htable]
  exact ⟨w.cache.locks.find?_obtain key, LockTable.isHeld_acquire_self _ _⟩

end Caller

/-- A moment at which an authentication begins. -/
theorem Moment.act_of_isAuthentication {m : Moment} (h : m.isAuthentication = true) :
    m.act = .authentication := by
  obtain ⟨w, act⟩ := m
  cases act with
  | authentication => rfl
  | _ => cases h

namespace FailedAuthentication

open CatalogRefresh (Errand)

variable {c : Caller} {w v : Surroundings} {m : Moment} {failure : Failure}

/-- **An authentication that fails** begins at a moment. -/
structure Failing (c : Caller) (m : Moment) (failure : Failure) : Prop where
  act : m.act = .authentication
  raised : (c.authenticate.run m.before).1 = .error failure

/-! ## The holder of the lock -/

/-- Whoever holds the lock ends with the error, and has nothing to store. -/
theorem run_authenticateOnce (hm : m ∈ c.authenticateOnce.history w) (h : Failing c m failure) :
    (w.lookup c.key).1 = none
      ∧ c.authenticateOnce.run w = (.error failure,
        (c.authenticate.run ((w.locked c.key).lookup c.key).2).2.release (w.sessionLock c.key).1) := by
  obtain ⟨hmissing, hbefore⟩ := Caller.missing_of_mem_authenticateOnce hm h.act
  have hraised := h.raised
  rw [hbefore] at hraised
  have hlocked : ((w.locked c.key).lookup c.key).1 = none := by
    rw [Surroundings.lookup_locked_fst, hmissing]
  have hrun := (Caller.refreshIfMissing_of_missing hlocked).2
  rw [Caller.refresh_of_error hraised] at hrun
  refine ⟨hmissing, Prod.ext ?_ ?_⟩
  · rw [Caller.run_authenticateOnce_fst, hrun]
  · rw [Caller.run_authenticateOnce_snd, hrun]

/-- Then there is nothing under its key, -/
theorem stored?_authenticateOnce (hw : w.Alone) (hm : m ∈ c.authenticateOnce.history w)
    (h : Failing c m failure) : (c.authenticateOnce.run w).2.cache.stored? c.key = none := by
  obtain ⟨hmissing, hrun⟩ := run_authenticateOnce hm h
  have halone : ((w.locked c.key).lookup c.key).2.Alone := hw
  rw [hrun, Surroundings.stored?_release, Caller.cache_authenticate halone]
  refine Surroundings.stored?_lookup_eq_none ?_
  rw [Surroundings.lookup_locked_fst, hmissing]

/-- and its lock is free. -/
theorem lock_authenticateOnce (hw : w.Alone) (hm : m ∈ c.authenticateOnce.history w)
    (h : Failing c m failure) :
    ∃ lock, (c.authenticateOnce.run w).2.cache.locks.table.find? c.key = some lock
      ∧ (c.authenticateOnce.run w).2.cache.locks.isHeld lock = false := by
  obtain ⟨-, hrun⟩ := run_authenticateOnce hm h
  obtain ⟨hfind, hheld⟩ := Caller.lock_locked w c.key
  have halone : ((w.locked c.key).lookup c.key).2.Alone := hw
  have hlocks : (c.authenticate.run ((w.locked c.key).lookup c.key).2).2.cache.locks
      = (w.locked c.key).cache.locks := by
    rw [Caller.cache_authenticate halone]
    exact CatalogCache.locks_lookup _ _ _
  rw [← hlocks] at hfind hheld
  rw [hrun, Surroundings.table_release, Surroundings.locks_release hheld]
  exact ⟨_, hfind, LockTable.isHeld_filter_ne _ _⟩

/-! ## All ways to an authentication -/

/-- **Some moments that end under the lock**, among them a given one. -/
def EndsLocked (c : Caller) (m : Moment) (v : Surroundings) (moments : List Moment) : Prop :=
  m ∈ c.authenticateOnce.history v ∧ ∃ front, moments = front ++ c.authenticateOnce.history v

theorem EndsLocked.append {moments : List Moment} (h : EndsLocked c m v moments)
    (front : List Moment) : EndsLocked c m v (front ++ moments) := by
  obtain ⟨hm, earlier, rfl⟩ := h
  exact ⟨hm, front ++ earlier, (List.append_assoc _ _ _).symm⟩

theorem EndsLocked.cons {moments : List Moment} (h : EndsLocked c m v moments) (n : Moment) :
    EndsLocked c m v (n :: moments) :=
  h.append [n]

/-- A search that ends under the lock ends with what its holder ends with. -/
structure Locked (c : Caller) (m : Moment) (p : Course (Except Failure Issued))
    (w v : Surroundings) : Prop where
  ends : EndsLocked c m v (p.history w)
  result : (p.run w).1 = (c.authenticateOnce.run v).1

/-- Such a search ends with the error of the authentication. -/
theorem Locked.raises {p : Course (Except Failure Issued)} (h : Locked c m p w v)
    (hfailing : Failing c m failure) : (p.run w).1 = .error failure := by
  rw [h.result, (run_authenticateOnce h.ends.1 hfailing).2]

section Searches

variable {held : Issued}

/-- **In place of a rejected catalog** an authentication is the last thing that
is done. -/
theorem locked_replace (hm : m ∈ (c.replace held).history w) (hact : m.act = .authentication) :
    ∃ v, Locked c m (c.replace held) w v := by
  cases hfound : ((w.invalidate c.key held).lookup c.key).1 with
  | some found =>
    rw [(Caller.replace_of_found hfound).1] at hm
    simp only [List.mem_cons, List.not_mem_nil, or_false] at hm
    rcases hm with rfl | rfl <;> cases hact
  | none =>
    obtain ⟨hhistory, hrun⟩ := Caller.replace_of_missing hfound
    rw [hhistory] at hm
    rcases List.mem_cons.1 hm with rfl | hm
    · cases hact
    · rcases List.mem_cons.1 hm with rfl | hm
      · cases hact
      · exact ⟨_, ⟨hm, [_, _], hhistory⟩, by rw [hrun]⟩

theorem locked_recheck (hm : m ∈ (c.recheck held).history w) (hact : m.act = .authentication) :
    ∃ v, Locked c m (c.recheck held) w v := by
  have hdraws := c.authenticationCount_wantsProbe w
  have hprobe := c.authenticationCount_accepts held (c.wantsProbe.run w).2
  unfold Caller.recheck at hm ⊢
  rw [Course.history_andThen] at hm
  -- neither the draw nor the probe is an authentication, so it comes after them
  have hlater := (List.mem_append.1 hm).resolve_left fun hm =>
    Caller.not_isAuthentication_of_count hdraws hm hact
  cases hwanted : (c.wantsProbe.run w).1 with
  | false =>
    rw [hwanted] at hlater
    cases hlater
  | true =>
    rw [hwanted, Course.history_andThen] at hlater
    have hlast := (List.mem_append.1 hlater).resolve_left fun hm =>
      Caller.not_isAuthentication_of_count hprobe hm hact
    rcases houtcome : ((c.accepts held).run (c.wantsProbe.run w).2).1 with failure | (_ | _)
    · rw [houtcome] at hlast
      cases hlast
    · rw [houtcome, Course.history_does] at hlast
      rcases List.mem_cons.1 hlast with rfl | hlast
      · cases hact
      · have hends : EndsLocked c m
            (((c.accepts held).run (c.wantsProbe.run w).2).2.invalidate c.key held) _ :=
          ⟨hlast, [], rfl⟩
        refine ⟨((c.accepts held).run (c.wantsProbe.run w).2).2.invalidate c.key held, ?_, ?_⟩
        · rw [Course.history_andThen, hwanted, Course.history_andThen, houtcome]
          exact ((hends.cons _).append _).append _
        · rw [Course.run_andThen, hwanted, Course.run_andThen, houtcome]
          rfl
    · rw [houtcome] at hlast
      cases hlast

/-- **At the beginning** likewise. -/
theorem locked_resolve (hm : m ∈ c.resolve.history w) (hact : m.act = .authentication) :
    ∃ v, Locked c m c.resolve w v := by
  cases hfound : (w.lookup c.key).1 with
  | some held =>
    obtain ⟨hhistory, hrun⟩ := Caller.resolve_of_found hfound
    rw [hhistory] at hm
    rcases List.mem_cons.1 hm with rfl | hm
    · cases hact
    · obtain ⟨v, hlocked⟩ := locked_recheck hm hact
      exact ⟨v, hhistory ▸ hlocked.ends.cons _, by rw [hrun, hlocked.result]⟩
  | none =>
    obtain ⟨hhistory, hrun⟩ := Caller.resolve_of_missing hfound
    rw [hhistory] at hm
    rcases List.mem_cons.1 hm with rfl | hm
    · cases hact
    · exact ⟨_, ⟨hm, [_], hhistory⟩, by rw [hrun]⟩

end Searches

/-- Asking for the resource is no authentication. -/
theorem not_failing_asking {held : Issued} {request : Request} :
    ¬ Failing c (.asking held request w) failure :=
  fun h => by cases h.act

/-- **A pursuit ends with the error of an authentication.** -/
theorem locked_of_pursuit {call : Call} {payload : Option Octets} {held : Issued}
    {renewals pauses : Nat} {moments : List Moment} {result : Except Failure CallResult}
    (h : Pursuit c call payload held renewals pauses w moments result) (hm : m ∈ moments)
    (hfailing : Failing c m failure) :
    result = .error failure ∧ ∃ v, EndsLocked c m v moments := by
  have htrial {held : Issued} {request : Request} {w : Surroundings}
      (hm : m ∈ [.asking held request w]) {P : Prop} : P :=
    absurd (List.mem_singleton.1 hm ▸ hfailing) not_failing_asking
  induction h with
  | unsent hunsent => cases hm
  | settled hasked h => exact htrial hm
  | rejected hasked h hr => exact htrial hm
  | lost hasked h hlost =>
    rcases List.mem_cons.1 hm with rfl | hm
    · exact absurd hfailing not_failing_asking
    · obtain ⟨v, hlocked⟩ := locked_replace hm hfailing.act
      have hresult := hlost.symm.trans (hlocked.raises hfailing)
      cases hresult
      exact ⟨rfl, v, hlocked.ends.cons _⟩
  | renewed hasked h hother hrest ih =>
    rcases List.mem_cons.1 hm with rfl | hm
    · exact absurd hfailing not_failing_asking
    · rcases List.mem_append.1 hm with hm | hm
      · -- there would be no other catalog to go on with
        obtain ⟨v, hlocked⟩ := locked_replace hm hfailing.act
        have hresult := hother.symm.trans (hlocked.raises hfailing)
        cases hresult
      · obtain ⟨hresult, v, hends⟩ := ih hm
        exact ⟨hresult, v, (hends.append _).cons _⟩
  | throttled hasked h hr ht => exact htrial hm
  | endless hasked h hr ht hdelay => exact htrial hm
  | paused hasked h hrest ih =>
    rcases List.mem_cons.1 hm with rfl | hm
    · exact absurd hfailing not_failing_asking
    · rcases List.mem_cons.1 hm with rfl | hm
      · cases hfailing.act
      · obtain ⟨hresult, v, hends⟩ := ih hm
        exact ⟨hresult, v, (hends.cons _).cons _⟩

/-- **A call ends with the error of an authentication**, at the beginning or
later. -/
theorem locked_perform {asked : Call} (hm : m ∈ (c.perform asked).history w)
    (hfailing : Failing c m failure) :
    ((c.perform asked).run w).1 = .error failure
      ∧ ∃ v, EndsLocked c m v ((c.perform asked).history w) := by
  cases hbody : asked.body.encode with
  | error defect =>
    unfold Caller.perform at hm
    rw [hbody] at hm
    cases hm
  | ok payload =>
    rw [c.perform_of_encode hbody] at hm ⊢
    rcases performWith_cases c asked payload w with
      ⟨other, hobtained, hhistory, hresult⟩ | ⟨held, rest, hobtained, hhistory, hpursuit⟩
    · rw [hhistory] at hm ⊢
      obtain ⟨v, hlocked⟩ := locked_resolve hm hfailing.act
      have hended := hobtained.symm.trans (hlocked.raises hfailing)
      cases hended
      exact ⟨hresult, v, hlocked.ends⟩
    · rw [hhistory] at hm ⊢
      rcases List.mem_append.1 hm with hm | hm
      · -- there would be no catalog to pursue it with
        obtain ⟨v, hlocked⟩ := locked_resolve hm hfailing.act
        have hended := hobtained.symm.trans (hlocked.raises hfailing)
        cases hended
      · obtain ⟨hresult, v, hends⟩ := locked_of_pursuit hpursuit hm hfailing
        exact ⟨hresult, v, hends.append _⟩

/-- **An errand fails**, and this is what it leaves. -/
def Fails (c : Caller) (w : Surroundings) (failure : Failure) (w' : Surroundings) : Errand → Prop
  | .call asked => c.execute asked w = (.error failure, w')
  | .catalog => c.catalog w = (.error failure, w')

/-- What a course leaves that ends under the lock. -/
theorem run_snd_of_endsLocked {α : Type} {p : Course α} (h : EndsLocked c m v (p.history w)) :
    (p.run w).2 = (c.authenticateOnce.run v).2 := by
  obtain ⟨hm, front, hhistory⟩ := h
  exact Course.run_snd_of_history hhistory (List.ne_nil_of_mem hm)

/-- **An errand ends with the error of an authentication**, and leaves what the
holder of the lock leaves. -/
theorem fails_of_failing {errand : Errand} (hm : m ∈ errand.moments c w)
    (hfailing : Failing c m failure) :
    ∃ v, EndsLocked c m v (errand.moments c w)
      ∧ Fails c w failure (c.authenticateOnce.run v).2 errand := by
  cases errand with
  | catalog =>
    obtain ⟨v, hlocked⟩ := locked_resolve (w := w) hm hfailing.act
    exact ⟨v, hlocked.ends,
      Prod.ext (hlocked.raises hfailing) (run_snd_of_endsLocked hlocked.ends)⟩
  | call asked =>
    have hcall : m ∈ (c.perform asked).history w := hm
    obtain ⟨hresult, v, hends⟩ := locked_perform hcall hfailing
    exact ⟨v, hends, Prod.ext hresult (run_snd_of_endsLocked hends)⟩

/-! ## What is left -/

/-- An errand that comes as far as a search for a catalog, which a call does
unless its body has no octets. -/
def Searches : Errand → Prop
  | .call asked => ∃ payload, asked.body.encode = .ok payload
  | .catalog => True

/-- **A clean cache** in surroundings `w'`, after an errand that began in
surroundings `w`. -/
structure LeftClean (c : Caller) (w w' : Surroundings) : Prop where
  /-- There is nothing under the key of the session, -/
  missing : w'.cache.stored? c.key = none
  /-- all other entries are what they were, -/
  others : ∀ key, key ≠ c.key → w'.cache.stored? key = w.cache.stored? key
  /-- and the lock of the session is free. -/
  free : ∃ lock, w'.cache.locks.table.find? c.key = some lock
    ∧ w'.cache.locks.isHeld lock = false
  /-- So the next errand, whenever that is, authenticates before it asks for
  anything. -/
  again : ∀ w'' errand, w''.cache = w'.cache → Searches errand →
    ∃ front v back, errand.moments c w'' = front ++ ⟨v, .authentication⟩ :: back
      ∧ ∀ n ∈ front, n.isExchange = false

/-- Where nothing is stored a search begins with an authentication. -/
theorem authenticates_resolve (h : w.cache.stored? c.key = none) :
    ∃ front v back, c.resolve.history w = front ++ ⟨v, .authentication⟩ :: back
      ∧ ∀ n ∈ front, n.isExchange = false := by
  have hmissing := Surroundings.lookup_eq_none h
  have hlocked : ((((w.lookup c.key).2).locked c.key).lookup c.key).1 = none := by
    rw [Surroundings.lookup_locked_fst]
    exact Surroundings.lookup_eq_none (Surroundings.stored?_lookup_eq_none hmissing)
  obtain ⟨back, hrefresh, -⟩ :=
    c.history_refresh ((((w.lookup c.key).2).locked c.key).lookup c.key).2
  rw [(Caller.resolve_of_missing hmissing).1, Caller.history_authenticateOnce,
    (Caller.refreshIfMissing_of_missing hlocked).1, hrefresh]
  refine ⟨[_, _, _, _], _, _, rfl, ?_⟩
  simp [Moment.isExchange]

/-- And so does an errand. -/
theorem authenticates (h : w.cache.stored? c.key = none) {errand : Errand}
    (hsearches : Searches errand) :
    ∃ front v back, errand.moments c w = front ++ ⟨v, .authentication⟩ :: back
      ∧ ∀ n ∈ front, n.isExchange = false := by
  obtain ⟨front, v, back, hresolve, hfront⟩ := authenticates_resolve h
  cases errand with
  | catalog => exact ⟨front, v, back, hresolve, hfront⟩
  | call asked =>
    obtain ⟨payload, hbody⟩ := hsearches
    have hmoments : (Errand.call asked).moments c w = (c.performWith asked payload).history w := by
      rw [← c.perform_of_encode hbody]
      rfl
    rw [hmoments]
    rcases performWith_cases c asked payload w with
      ⟨-, -, hhistory, -⟩ | ⟨-, rest, -, hhistory, -⟩
    · exact ⟨front, v, back, hhistory.trans hresolve, hfront⟩
    · refine ⟨front, v, back ++ rest, ?_, hfront⟩
      rw [hhistory, hresolve, List.append_assoc]
      rfl

/-- An errand leaves the entries of other keys as they are. -/
theorem stored?_of_fails {errand : Errand} {w' : Surroundings} (hw : w.Alone)
    (h : Fails c w failure w' errand) {key : CacheKey} (hne : key ≠ c.key) :
    w'.cache.stored? key = w.cache.stored? key := by
  cases errand with
  | call asked =>
    have hleft : (c.perform asked).run w = (.error failure, w') := h
    have hsame := Course.stored?_run_of_ne hw hne (c.allJustified_perform asked w)
    rwa [hleft] at hsame
  | catalog =>
    have hleft : c.resolve.run w = (.error failure, w') := h
    have hjustified : AllJustified c none (c.resolve.history w) := c.allJustified_resolve w
    have hsame := Course.stored?_run_of_ne hw hne hjustified
    rwa [hleft] at hsame

theorem alone_of_mem_moments {errand : Errand} (hw : w.Alone) (hm : m ∈ errand.moments c w) :
    m.before.Alone := by
  cases errand with
  | call asked => exact hw.before (p := c.perform asked) hm
  | catalog => exact hw.before (p := c.resolve) hm

/-- **The holder of the lock leaves a clean cache.** -/
theorem leftClean_of_fails {errand : Errand} (hw : w.Alone) (hfailing : Failing c m failure)
    (hends : EndsLocked c m v (errand.moments c w))
    (hfails : Fails c w failure (c.authenticateOnce.run v).2 errand) :
    LeftClean c w (c.authenticateOnce.run v).2 := by
  obtain ⟨hm, front, hmoments⟩ := hends
  have hasks : ⟨v, .sessionLock c.key⟩ ∈ errand.moments c w := by
    rw [hmoments, Caller.history_authenticateOnce]
    exact List.mem_append_right _ List.mem_cons_self
  have hv : v.Alone := alone_of_mem_moments hw hasks
  have hmissing := stored?_authenticateOnce hv hm hfailing
  exact {
    missing := hmissing
    others := fun _ => stored?_of_fails hw hfails
    free := lock_authenticateOnce hv hm hfailing
    again := fun w'' errand hcache => authenticates (by rw [hcache]; exact hmissing) }

/-! ## Trying the credentials -/

section Client

variable {client : Client} {fault : Fault} {issued : Issued}

theorem stored?_store_self (w : Surroundings) (key : CacheKey) (issued : Issued) :
    (w.store key issued).cache.stored? key = some ⟨issued, (w.store key issued).now⟩ := by
  rw [Surroundings.stored?_store, if_pos rfl]
  rfl

theorem testCredentials_of_fault
    (h : (client.caller.authenticate.run w).1 = .error (.fault fault)) :
    client.testCredentials w = (.ok .null, (client.caller.authenticate.run w).2) := by
  have hrun := Caller.refresh_of_error h
  unfold Client.testCredentials
  rw [hrun]

theorem testCredentials_of_ok (h : (client.caller.authenticate.run w).1 = .ok issued) :
    client.testCredentials w = (.ok issued.catalog.tenant,
      (client.caller.authenticate.run w).2.store client.caller.key issued) := by
  have hrun := Caller.refresh_of_ok h
  unfold Client.testCredentials
  rw [hrun]

end Client

/-- **A failed authentication leaves a clean cache.** As long as nobody else
stores anything: whatever the cache holds, however the other side replies and
wherever on an errand an authentication fails, the errand ends with its error and
leaves a clean cache. Trying the credentials of a client without success gives
null for a fault and leaves every entry as it is; with success it gives the
tenant of the new catalog, which is then the entry of the session, and leaves
every other entry as it is. -/
theorem failed_authentication (c : Caller) (w : Surroundings)
    (halone : ∀ turn ∈ w.script, turn.meanwhile = []) :
    (∀ errand m failure, m ∈ Errand.moments c w errand → m.act = .authentication →
      (c.authenticate.run m.before).1 = .error failure →
      ∃ w', Fails c w failure w' errand ∧ LeftClean c w w') ∧
    (∀ (client : Client) fault, client.caller = c →
      (c.authenticate.run w).1 = .error (.fault fault) →
      (client.testCredentials w).1 = .ok .null ∧
      ∀ key, (client.testCredentials w).2.cache.stored? key = w.cache.stored? key) ∧
    (∀ (client : Client) issued, client.caller = c →
      (c.authenticate.run w).1 = .ok issued →
      (client.testCredentials w).1 = .ok issued.catalog.tenant ∧
      (client.testCredentials w).2.cache.stored? c.key
        = some ⟨issued, (client.testCredentials w).2.now⟩ ∧
      ∀ key, key ≠ c.key →
        (client.testCredentials w).2.cache.stored? key = w.cache.stored? key) := by
  have hw : w.Alone := halone
  refine ⟨fun errand m failure hm hact hraised => ?_, fun client fault hclient hraised => ?_,
    fun client issued hclient hmade => ?_⟩
  · have hfailing : Failing c m failure := ⟨hact, hraised⟩
    obtain ⟨v, hends, hfails⟩ := fails_of_failing hm hfailing
    exact ⟨_, hfails, leftClean_of_fails hw hfailing hends hfails⟩
  · subst hclient
    rw [testCredentials_of_fault hraised, Caller.cache_authenticate hw]
    exact ⟨rfl, fun _ => rfl⟩
  · subst hclient
    rw [testCredentials_of_ok hmade]
    refine ⟨rfl, stored?_store_self _ _ _, fun key hne => ?_⟩
    · rw [Surroundings.stored?_store, if_neg (Ne.symm hne), Caller.cache_authenticate hw]

/-! ## A rejected probe, and nobody to authenticate with -/

def someSession : Session where
  endpoint := "st:https://storage.example"
  account := "account"
  endpoint_not_blank := by decide

/-- Somebody who always probes. -/
def probing : Caller where
  session := someSession
  revalidation := .ofRatio false 1 1

/-- The cached catalog is rejected, and no other request is answered. -/
def rejectedByProbe : Surroundings where
  script := [⟨.response ⟨401, .empty, [], "Unauthorized"⟩, [], 1, 1⟩]
  draws := ⟨[.zero false]⟩
  cache := (CatalogCache.empty 10).store 0 probing.key CatalogRefresh.outdated
  now := 3
  nextSerial := 1
  events := []

/-- The credentials are accepted at once. -/
def accepted : Surroundings :=
  { rejectedByProbe with
    script := [⟨.response ⟨204, .ofList [("X-Auth-Token", "token")], [], "No Content"⟩, [], 1, 1⟩] }

def fault? : Except Failure Issued → Option Fault
  | .error (.fault fault) => some fault
  | _ => none

theorem eq_error_of_fault? {result : Except Failure Issued} (h : (fault? result).isSome = true) :
    ∃ fault, result = .error (.fault fault) := by
  match result with
  | .error (.fault fault) => exact ⟨fault, rfl⟩
  | .error (.defect defect) => cases h
  | .ok issued => cases h

theorem any_failing_rejectedByProbe :
    (Errand.catalog.moments probing rejectedByProbe).any (fun m =>
      m.isAuthentication && (fault? (probing.authenticate.run m.before).1).isSome) = true := by
  decide +kernel

theorem fault?_rejectedByProbe :
    (fault? (probing.authenticate.run rejectedByProbe).1).isSome = true := by
  decide +kernel

theorem isSome_accepted : (probing.authenticate.run accepted).1.toOption.isSome = true := by
  decide +kernel

/-- After the probe an authentication fails, and leaves a clean cache; and
credentials that are tried are refused or accepted. -/
theorem leftClean_rejectedByProbe :
    (∀ turn ∈ rejectedByProbe.script, turn.meanwhile = []) ∧
    (∀ turn ∈ accepted.script, turn.meanwhile = []) ∧
    (∃ m failure w', m ∈ Errand.catalog.moments probing rejectedByProbe ∧
      m.act = .authentication ∧ (probing.authenticate.run m.before).1 = .error failure ∧
      Fails probing rejectedByProbe failure w' .catalog ∧ LeftClean probing rejectedByProbe w') ∧
    ((Client.ofCaller probing none).testCredentials rejectedByProbe).1 = .ok .null ∧
    ∃ issued, (probing.authenticate.run accepted).1 = .ok issued ∧
      ((Client.ofCaller probing none).testCredentials accepted).1 = .ok issued.catalog.tenant := by
  have hrejected : ∀ turn ∈ rejectedByProbe.script, turn.meanwhile = [] := by
    intro turn hturn
    rw [List.mem_singleton.1 hturn]
  have haccepted : ∀ turn ∈ accepted.script, turn.meanwhile = [] := by
    intro turn hturn
    rw [List.mem_singleton.1 hturn]
  obtain ⟨hclean, hrefused, -⟩ := failed_authentication probing rejectedByProbe hrejected
  obtain ⟨-, -, hmade⟩ := failed_authentication probing accepted haccepted
  refine ⟨hrejected, haccepted, ?_, ?_, ?_⟩
  · obtain ⟨m, hm, hfails⟩ := List.any_eq_true.1 any_failing_rejectedByProbe
    obtain ⟨hbegins, hfault⟩ := Bool.and_eq_true_iff.1 hfails
    obtain ⟨fault, hraised⟩ := eq_error_of_fault? hfault
    have hact := Moment.act_of_isAuthentication hbegins
    obtain ⟨w', hfailed, hleft⟩ := hclean .catalog m _ hm hact hraised
    exact ⟨m, _, w', hm, hact, hraised, hfailed, hleft⟩
  · obtain ⟨fault, hraised⟩ := eq_error_of_fault? fault?_rejectedByProbe
    exact (hrefused (.ofCaller probing none) fault rfl hraised).1
  · obtain ⟨issued, htaken⟩ := Option.isSome_iff_exists.1 isSome_accepted
    have hissued := eq_ok_of_toOption htaken
    exact ⟨issued, hissued, (hmade (.ofCaller probing none) issued rfl hissued).1⟩

end FailedAuthentication

end CloudClient
