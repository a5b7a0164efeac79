import CloudClient.Call.Caller

/-!
# What the search for a catalog does

A call asks for its resource, it pauses, and it looks for a catalog to ask
with. The last of these is what a caller does by itself: at the beginning of a
call (`Caller.resolve`), in place of a rejected catalog (`Caller.replace`) and
under the lock of the session (`Caller.authenticateOnce`).

This module says what such a search can do at all. It never asks for the
resource and never pauses, so what happens to the resource is up to the rest of
the call. And it authenticates once at most: not at all if the holder of the
lock finds a catalog in the cache, and exactly once otherwise
(`authenticationCount_authenticateOnce`).

## Trials

Not every request of a call is one for the resource: there are those of
authentications, and the probe. A `Trial` is one for the resource, with the
catalog it is made with, its reply, and the surroundings by then.
-/

namespace CloudClient

/-- **A trial of a call**: a request for its resource, and what came of it. -/
structure Trial where
  /-- The catalog that the request is made with. -/
  held : Issued
  request : Request
  reply : Reply
  /-- The surroundings when the reply is there. -/
  after : Surroundings

namespace Moment

/-- The trial that a moment is, if it is one. -/
def trial? (m : Moment) : Option Trial :=
  match m.act with
  | .send (.resource held) request =>
    some ⟨held, request, (m.before.send (.resource held) request).1, m.after⟩
  | _ => none

/-- Whether a moment is a pause. -/
def isPause (m : Moment) : Bool :=
  match m.act with
  | .pause _ => true
  | _ => false

/-- Whether an authentication begins at a moment. -/
def isAuthentication (m : Moment) : Bool :=
  match m.act with
  | .authentication => true
  | _ => false

end Moment

/-- The trials among some moments. -/
def trials (moments : List Moment) : List Trial := moments.filterMap Moment.trial?

/-- How many pauses there are among some moments. -/
def pauseCount (moments : List Moment) : Nat := moments.countP Moment.isPause

/-- How many authentications begin among some moments. -/
def authenticationCount (moments : List Moment) : Nat := moments.countP Moment.isAuthentication

@[simp] theorem trials_nil : trials [] = [] := rfl

@[simp] theorem trials_append (ms ns : List Moment) : trials (ms ++ ns) = trials ms ++ trials ns :=
  List.filterMap_append

@[simp] theorem pauseCount_nil : pauseCount [] = 0 := rfl

theorem pauseCount_cons (m : Moment) (ms : List Moment) :
    pauseCount (m :: ms) = pauseCount ms + if m.isPause then 1 else 0 :=
  List.countP_cons

@[simp] theorem pauseCount_append (ms ns : List Moment) :
    pauseCount (ms ++ ns) = pauseCount ms + pauseCount ns :=
  List.countP_append

@[simp] theorem authenticationCount_nil : authenticationCount [] = 0 := rfl

theorem authenticationCount_cons (m : Moment) (ms : List Moment) :
    authenticationCount (m :: ms)
      = authenticationCount ms + if m.isAuthentication then 1 else 0 :=
  List.countP_cons

theorem authenticationCount_cons_of_neg {m : Moment} (h : m.isAuthentication = false)
    (ms : List Moment) : authenticationCount (m :: ms) = authenticationCount ms :=
  List.countP_cons_of_neg (by simp [h])

@[simp] theorem authenticationCount_append (ms ns : List Moment) :
    authenticationCount (ms ++ ns) = authenticationCount ms + authenticationCount ns :=
  List.countP_append

/-! ## What is not part of a search -/

/-- Whether an act can be part of a search for a catalog: it neither asks for
the resource nor pauses. -/
def Act.isSearching : Act → Bool
  | .send (.resource _) _ | .pause _ => false
  | _ => true

/-- Whether an act can be part of getting another catalog: whoever it asks for
anything, it asks to authenticate. -/
def Act.isRenewing : Act → Bool
  | .send .authentication _ => true
  | .send _ _ | .pause _ => false
  | _ => true

theorem Act.isSearching_of_isRenewing {act : Act} (h : act.isRenewing = true) :
    act.isSearching = true := by
  cases act with
  | send origin request => cases origin <;> first | rfl | cases h
  | pause delay => cases h
  | _ => rfl

/-- An act that is part of a search is no trial. -/
theorem Moment.trial?_of_isSearching {m : Moment} (h : m.act.isSearching = true) :
    m.trial? = none := by
  obtain ⟨w, act⟩ := m
  cases act with
  | send origin request =>
    cases origin with
    | resource held => cases h
    | authentication => rfl
    | probe held => rfl
  | _ => rfl

/-- An act that is part of a search is no pause. -/
theorem Moment.isPause_of_isSearching {m : Moment} (h : m.act.isSearching = true) :
    m.isPause = false := by
  obtain ⟨w, act⟩ := m
  cases act with
  | pause delay => cases h
  | _ => rfl

namespace Course

variable {α : Type}

/-- **A search for a catalog** makes no trial, -/
theorem trials_of_confined {p : Course α} (h : p.Confined (·.isSearching = true))
    (w : Surroundings) : trials (p.history w) = [] :=
  List.filterMap_eq_nil_iff.2 fun _ hm => Moment.trial?_of_isSearching (h.of_mem_history hm)

/-- and it does not pause. -/
theorem pauseCount_of_confined {p : Course α} (h : p.Confined (·.isSearching = true))
    (w : Surroundings) : pauseCount (p.history w) = 0 :=
  List.countP_eq_zero.2 fun _ hm => by simp [Moment.isPause_of_isSearching (h.of_mem_history hm)]

/-- A conversation to authenticate is part of getting another catalog. -/
theorem converse_isRenewing (talk : Conversation α) :
    (converse .authentication talk).Confined (·.isRenewing = true) :=
  (confined_converse .authentication talk).mono fun _ ⟨_, h⟩ => h ▸ rfl

/-- No authentication begins in the middle of a conversation. -/
theorem authenticationCount_converse (origin : Origin) (talk : Conversation α)
    (w : Surroundings) : authenticationCount ((converse origin talk).history w) = 0 := by
  refine List.countP_eq_zero.2 fun m hm => ?_
  obtain ⟨request, hact⟩ := (confined_converse origin talk).of_mem_history hm
  simp [Moment.isAuthentication, hact]

end Course

namespace Caller

variable (c : Caller)

theorem authenticate_isRenewing : c.authenticate.Confined (·.isRenewing = true) := by
  unfold authenticate
  -- which conversation it is does not matter, and must not be unfolded
  generalize Authentication.usual c.session = talk
  refine ⟨rfl, fun _ => ?_⟩
  refine Course.Confined.andThen (Course.converse_isRenewing _) fun outcome => ?_
  cases outcome with
  | error failure => exact Course.confined_ended _
  | ok catalog => exact (Course.confined_does _ _).2 ⟨rfl, fun _ => Course.confined_ended _⟩

theorem refresh_isRenewing : c.refresh.Confined (·.isRenewing = true) := by
  refine c.authenticate_isRenewing.andThen fun outcome => ?_
  cases outcome with
  | error failure => trivial
  | ok issued => exact ⟨rfl, fun _ => trivial⟩

theorem refreshIfMissing_isRenewing :
    c.refreshIfMissing.Confined (·.isRenewing = true) := by
  refine ⟨rfl, fun found => ?_⟩
  cases found with
  | some issued => trivial
  | none => exact c.refresh_isRenewing

theorem authenticateOnce_isRenewing :
    c.authenticateOnce.Confined (·.isRenewing = true) := by
  refine ⟨rfl, fun lock => ⟨rfl, fun _ => ?_⟩⟩
  exact c.refreshIfMissing_isRenewing.andThen fun result => ⟨rfl, fun _ => trivial⟩

theorem wantsProbe_isRenewing : c.wantsProbe.Confined (·.isRenewing = true) := by
  unfold wantsProbe
  split
  · exact ⟨rfl, fun _ => trivial⟩
  · trivial

theorem wantsProbe_isSearching : c.wantsProbe.Confined (·.isSearching = true) :=
  c.wantsProbe_isRenewing.mono fun _ => Act.isSearching_of_isRenewing

theorem accepts_isSearching (held : Issued) :
    (c.accepts held).Confined (·.isSearching = true) := by
  unfold accepts
  split
  · trivial
  · trivial
  · exact ⟨rfl, fun _ => trivial⟩

theorem replace_isRenewing (held : Issued) :
    (c.replace held).Confined (·.isRenewing = true) := by
  refine ⟨rfl, fun _ => ⟨rfl, fun found => ?_⟩⟩
  cases found with
  | some issued => trivial
  | none => exact c.authenticateOnce_isRenewing

theorem authenticateOnce_isSearching : c.authenticateOnce.Confined (·.isSearching = true) :=
  c.authenticateOnce_isRenewing.mono fun _ => Act.isSearching_of_isRenewing

/-- **In place of a rejected catalog** only a search is made. -/
theorem replace_isSearching (held : Issued) :
    (c.replace held).Confined (·.isSearching = true) :=
  (c.replace_isRenewing held).mono fun _ => Act.isSearching_of_isRenewing

theorem recheck_isSearching (held : Issued) :
    (c.recheck held).Confined (·.isSearching = true) := by
  refine c.wantsProbe_isSearching.andThen fun wanted => ?_
  cases wanted with
  | false => trivial
  | true =>
    refine (c.accepts_isSearching held).andThen fun outcome => ?_
    rcases outcome with failure | (_ | _)
    · trivial
    · exact ⟨rfl, fun _ => c.authenticateOnce_isSearching⟩
    · trivial

/-- **At the beginning of a call** only a search is made. -/
theorem resolve_isSearching : c.resolve.Confined (·.isSearching = true) := by
  refine ⟨rfl, fun found => ?_⟩
  cases found with
  | some held => exact c.recheck_isSearching held
  | none => exact c.authenticateOnce_isSearching

/-! ## A search, step by step -/

/-- A probe is one request, or none if there is nobody to ask. -/
theorem accepts_eq (held : Issued) :
    (∃ result, result ≠ .ok false ∧ c.accepts held = .ended result)
      ∨ ∃ request, c.accepts held = .does (.send (.probe held) request) fun reply =>
        .ended ((speaksFor request reply).mapError .defect) := by
  unfold accepts
  split
  · rename_i defect _
    exact .inl ⟨.error (.defect defect), nofun, rfl⟩
  · exact .inl ⟨.ok true, nofun, rfl⟩
  · exact .inr ⟨_, rfl⟩

section StepByStep

variable {c} {w : Surroundings} {issued : Issued}

/-- What an authentication ends with it has made last, and nothing else. -/
theorem authenticate_ok (h : (c.authenticate.run w).1 = .ok issued) :
    ∃ ms v, c.authenticate.history w = ms ++ [⟨v, .issue issued.catalog⟩]
      ∧ issued.serial = v.nextSerial ∧ v.nextSerial = w.nextSerial
      ∧ (c.authenticate.run w).2 = (v.issue issued.catalog).2 := by
  unfold authenticate at h ⊢
  generalize Authentication.usual c.session = talk at h ⊢
  rw [Course.run_does, Course.run_andThen] at h
  rw [Course.history_does, Course.history_andThen, Course.run_does, Course.run_andThen]
  have hserial : ((Course.converse .authentication talk).run
      (w.perform .authentication).2).2.nextSerial = w.nextSerial :=
    Course.nextSerial_converse _ _ _
  cases houtcome : ((Course.converse .authentication talk).run
      (w.perform .authentication).2).1 with
  | error failure =>
    rw [houtcome] at h
    cases h
  | ok catalog =>
    rw [houtcome] at h
    cases h
    exact ⟨_ :: _, _, rfl, rfl, hserial, rfl⟩

/-- What a refresh ends with it has made and stored last. -/
theorem refresh_ok (h : (c.refresh.run w).1 = .ok issued) :
    ∃ ms v, c.refresh.history w
        = ms ++ [⟨v, .issue issued.catalog⟩, ⟨(v.issue issued.catalog).2, .store c.key issued⟩]
      ∧ issued.serial = v.nextSerial ∧ v.nextSerial = w.nextSerial
      ∧ (c.refresh.run w).2 = (v.issue issued.catalog).2.store c.key issued := by
  unfold refresh at h ⊢
  rw [Course.run_andThen] at h
  rw [Course.history_andThen, Course.run_andThen]
  cases houtcome : (c.authenticate.run w).1 with
  | error failure =>
    rw [houtcome] at h
    cases h
  | ok made =>
    rw [houtcome] at h
    cases h
    obtain ⟨ms, v, hhistory, hserial, hnext, hafter⟩ := authenticate_ok houtcome
    refine ⟨ms, v, ?_, hserial, hnext, ?_⟩
    · rw [hhistory, hafter, List.append_assoc]
      rfl
    · rw [hafter]
      rfl

theorem refreshIfMissing_of_found (h : (w.lookup c.key).1 = some issued) :
    c.refreshIfMissing.history w = [⟨w, .lookup c.key⟩]
      ∧ c.refreshIfMissing.run w = (.ok issued, (w.lookup c.key).2) := by
  have hfound : (w.perform (.lookup c.key)).1 = some issued := h
  unfold refreshIfMissing
  rw [Course.history_does, Course.run_does, hfound]
  exact ⟨rfl, rfl⟩

theorem refreshIfMissing_of_missing (h : (w.lookup c.key).1 = none) :
    c.refreshIfMissing.history w = ⟨w, .lookup c.key⟩ :: c.refresh.history (w.lookup c.key).2
      ∧ c.refreshIfMissing.run w = c.refresh.run (w.lookup c.key).2 := by
  have hmissing : (w.perform (.lookup c.key)).1 = none := h
  unfold refreshIfMissing
  rw [Course.history_does, Course.run_does, hmissing]
  exact ⟨rfl, rfl⟩

/-- Under the lock somebody does what its holder does, and gives it back. -/
theorem history_authenticateOnce (w : Surroundings) :
    c.authenticateOnce.history w
      = ⟨w, .sessionLock c.key⟩ :: ⟨(w.sessionLock c.key).2, .acquire (w.sessionLock c.key).1⟩ ::
        (c.refreshIfMissing.history (w.locked c.key)
          ++ [⟨(c.refreshIfMissing.run (w.locked c.key)).2,
            .release (w.sessionLock c.key).1⟩]) := by
  unfold authenticateOnce
  rw [Course.history_does, Course.history_does, Course.history_andThen]
  rfl

theorem run_authenticateOnce_fst (w : Surroundings) :
    (c.authenticateOnce.run w).1 = (c.refreshIfMissing.run (w.locked c.key)).1 := by
  unfold authenticateOnce
  rw [Course.run_does, Course.run_does, Course.run_andThen]
  rfl

theorem run_authenticateOnce_snd (w : Surroundings) :
    (c.authenticateOnce.run w).2
      = (c.refreshIfMissing.run (w.locked c.key)).2.release (w.sessionLock c.key).1 := by
  unfold authenticateOnce
  rw [Course.run_does, Course.run_does, Course.run_andThen]
  rfl

theorem replace_of_found {held : Issued}
    (h : ((w.invalidate c.key held).lookup c.key).1 = some issued) :
    (c.replace held).history w
        = [⟨w, .invalidate c.key held⟩, ⟨w.invalidate c.key held, .lookup c.key⟩]
      ∧ (c.replace held).run w = (.ok issued, ((w.invalidate c.key held).lookup c.key).2) := by
  have hfound : ((w.perform (.invalidate c.key held)).2.perform (.lookup c.key)).1 = some issued := h
  unfold replace
  rw [Course.history_does, Course.history_does, Course.run_does, Course.run_does, hfound]
  exact ⟨rfl, rfl⟩

theorem replace_of_missing {held : Issued}
    (h : ((w.invalidate c.key held).lookup c.key).1 = none) :
    (c.replace held).history w
        = ⟨w, .invalidate c.key held⟩ :: ⟨w.invalidate c.key held, .lookup c.key⟩ ::
          c.authenticateOnce.history ((w.invalidate c.key held).lookup c.key).2
      ∧ (c.replace held).run w
        = c.authenticateOnce.run ((w.invalidate c.key held).lookup c.key).2 := by
  have hmissing : ((w.perform (.invalidate c.key held)).2.perform (.lookup c.key)).1 = none := h
  unfold replace
  rw [Course.history_does, Course.history_does, Course.run_does, Course.run_does, hmissing]
  exact ⟨rfl, rfl⟩

theorem resolve_of_found (h : (w.lookup c.key).1 = some issued) :
    c.resolve.history w
        = ⟨w, .lookup c.key⟩ :: (c.recheck issued).history (w.lookup c.key).2
      ∧ c.resolve.run w = (c.recheck issued).run (w.lookup c.key).2 := by
  have hfound : (w.perform (.lookup c.key)).1 = some issued := h
  unfold resolve
  rw [Course.history_does, Course.run_does, hfound]
  exact ⟨rfl, rfl⟩

theorem resolve_of_missing (h : (w.lookup c.key).1 = none) :
    c.resolve.history w
        = ⟨w, .lookup c.key⟩ :: c.authenticateOnce.history (w.lookup c.key).2
      ∧ c.resolve.run w = c.authenticateOnce.run (w.lookup c.key).2 := by
  have hmissing : (w.perform (.lookup c.key)).1 = none := h
  unfold resolve
  rw [Course.history_does, Course.run_does, hmissing]
  exact ⟨rfl, rfl⟩

end StepByStep

/-! ## How often a search authenticates -/

theorem authenticationCount_authenticate (w : Surroundings) :
    authenticationCount (c.authenticate.history w) = 1 := by
  unfold authenticate
  rw [Course.history_does, Course.history_andThen, authenticationCount_cons,
    authenticationCount_append, Course.authenticationCount_converse]
  rcases ((Course.converse .authentication (Authentication.usual c.session)).run
    (w.perform .authentication).2).1 with failure | catalog <;> rfl

theorem authenticationCount_refresh (w : Surroundings) :
    authenticationCount (c.refresh.history w) = 1 := by
  unfold refresh
  rw [Course.history_andThen, authenticationCount_append, c.authenticationCount_authenticate]
  rcases (c.authenticate.run w).1 with failure | issued <;> rfl

/-- **The holder of the lock authenticates if the cache has no catalog**, and
then once. -/
theorem authenticationCount_refreshIfMissing (w : Surroundings) :
    authenticationCount (c.refreshIfMissing.history w)
      = if (w.lookup c.key).1.isSome then 0 else 1 := by
  cases h : (w.lookup c.key).1 with
  | some issued =>
    rw [(refreshIfMissing_of_found h).1]
    rfl
  | none =>
    rw [(refreshIfMissing_of_missing h).1, authenticationCount_cons_of_neg rfl,
      c.authenticationCount_refresh]
    rfl

/-- Taking the lock and giving it back changes nothing about that. -/
theorem authenticationCount_authenticateOnce (w : Surroundings) :
    authenticationCount (c.authenticateOnce.history w)
      = if (w.lookup c.key).1.isSome then 0 else 1 := by
  rw [history_authenticateOnce, authenticationCount_cons_of_neg rfl,
    authenticationCount_cons_of_neg rfl, authenticationCount_append,
    c.authenticationCount_refreshIfMissing, Surroundings.lookup_locked_fst]
  rfl

theorem authenticationCount_authenticateOnce_le (w : Surroundings) :
    authenticationCount (c.authenticateOnce.history w) ≤ 1 := by
  rw [c.authenticationCount_authenticateOnce]
  split <;> omega

theorem authenticationCount_replace_le (held : Issued) (w : Surroundings) :
    authenticationCount ((c.replace held).history w) ≤ 1 := by
  cases h : ((w.invalidate c.key held).lookup c.key).1 with
  | some issued =>
    rw [(replace_of_found h).1]
    exact Nat.zero_le 1
  | none =>
    rw [(replace_of_missing h).1, authenticationCount_cons_of_neg rfl,
      authenticationCount_cons_of_neg rfl]
    exact c.authenticationCount_authenticateOnce_le _

/-- Neither a draw nor a probe is an authentication. -/
theorem authenticationCount_wantsProbe (w : Surroundings) :
    authenticationCount (c.wantsProbe.history w) = 0 := by
  unfold wantsProbe
  split <;> rfl

theorem authenticationCount_accepts (held : Issued) (w : Surroundings) :
    authenticationCount ((c.accepts held).history w) = 0 := by
  unfold accepts
  split <;> rfl

theorem authenticationCount_recheck_le (held : Issued) (w : Surroundings) :
    authenticationCount ((c.recheck held).history w) ≤ 1 := by
  unfold recheck
  rw [Course.history_andThen, authenticationCount_append, c.authenticationCount_wantsProbe,
    Nat.zero_add]
  cases (c.wantsProbe.run w).1 with
  | false => exact Nat.zero_le 1
  | true =>
    rw [Course.history_andThen, authenticationCount_append, c.authenticationCount_accepts,
      Nat.zero_add]
    rcases ((c.accepts held).run (c.wantsProbe.run w).2).1 with failure | (_ | _)
    · exact Nat.zero_le 1
    · rw [Course.history_does, authenticationCount_cons_of_neg rfl]
      exact c.authenticationCount_authenticateOnce_le _
    · exact Nat.zero_le 1

theorem authenticationCount_resolve_le (w : Surroundings) :
    authenticationCount (c.resolve.history w) ≤ 1 := by
  cases h : (w.lookup c.key).1 with
  | some held =>
    rw [(resolve_of_found h).1, authenticationCount_cons_of_neg rfl]
    exact c.authenticationCount_recheck_le held _
  | none =>
    rw [(resolve_of_missing h).1, authenticationCount_cons_of_neg rfl]
    exact c.authenticationCount_authenticateOnce_le _

end Caller

end CloudClient
