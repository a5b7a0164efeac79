import CloudClient.Proofs.Numbering

/-!
# No refresh is lost

Many callers share one cache. When the other side rejects a catalog, somebody
else may have replaced it in the cache already, while the rejected request was
on its way, and then that catalog must neither be thrown away nor be fetched
again. When nobody has, there must be one authentication and not two, and what
it yields must be what is used from then on.

This module proves both of every call and of every search for a catalog, for
all surroundings: whatever others store under the same key while any of the
requests is on its way. The rejection may be one of a call or of a probe, at
the first trial or at a later one.

## What is proved

`Recovery` says what happens from a rejection until there is another catalog,
with a rule for each case: that the next lookup finds one, or that it does not
and an authentication succeeds, or fails. It follows each rejection
(`no_refresh_lost`) except one that ends the call because there has been one
before. What is obtained is what is used next, and it is not the rejected
catalog. And of all that happens to the entries of the cache, `Change` lists the
reasons.

The rejected catalog is told from others by the number of its making and not by
what it contains. That a new one differs from it rests on
`Surroundings.Known`.
-/

namespace CloudClient

/-- **What the cache has for a key**: an entry that is not too old. -/
structure Surroundings.Keeps (w : Surroundings) (key : CacheKey) (e : CatalogCache.Entry) :
    Prop where
  stored : w.cache.stored? key = some e
  good : w.now - e.storedAt ≤ w.cache.ttl

/-- Whether a request is sent at a moment. -/
def Moment.isExchange (m : Moment) : Bool :=
  match m.act with
  | .send _ _ => true
  | _ => false

namespace CatalogRefresh

/-- The next lookup of a key, among some moments, is made in surroundings
`v`. -/
def NextLookup (key : CacheKey) (moments : List Moment) (v : Surroundings) : Prop :=
  ∃ front back, moments = front ++ ⟨v, .lookup key⟩ :: back ∧ ∀ m ∈ front, ∀ k, m.act ≠ .lookup k

/-- **What comes of a rejection**: the moments from then on, what is obtained,
and the surroundings by then. -/
inductive Recovery (c : Caller) (rejected : Issued) :
    List Moment → Except Failure Issued → Surroundings → Prop where
  /-- The next lookup finds another catalog. It stays in the cache, and nobody
  is asked for anything. -/
  | kept {moments : List Moment} {v w' : Surroundings} {e : CatalogCache.Entry}
      (hnext : NextLookup c.key moments v) (hkeeps : v.Keeps c.key e)
      (hother : e.value.serial ≠ rejected.serial)
      (hstays : ∀ m ∈ moments, m.after.Keeps c.key e) (hstill : w'.Keeps c.key e)
      (hquiet : ∀ m ∈ moments, m.isExchange = false)
      (hnone : authenticationCount moments = 0) :
      Recovery c rejected moments (.ok e.value) w'
  /-- The next lookup finds none, and the only authentication makes one, which
  the cache has in the end. -/
  | renewed {moments : List Moment} {v w' : Surroundings} {issued : Issued}
      (hnext : NextLookup c.key moments v) (hmissing : ∀ e, ¬ v.Keeps c.key e)
      (honce : authenticationCount moments = 1)
      (hissued : ∃ m ∈ moments, m.act = .issue issued.catalog
        ∧ issued.serial = m.before.nextSerial)
      (hstored : w'.cache.stored? c.key = some ⟨issued, w'.now⟩) :
      Recovery c rejected moments (.ok issued) w'
  /-- The next lookup finds none, and the only authentication fails. -/
  | failed {moments : List Moment} {v w' : Surroundings} {failure : Failure}
      (hnext : NextLookup c.key moments v) (hmissing : ∀ e, ¬ v.Keeps c.key e)
      (honce : authenticationCount moments = 1) :
      Recovery c rejected moments (.error failure) w'

/-! ## What the cache has -/

section Keeps

variable {w : Surroundings} {key : CacheKey} {e : CatalogCache.Entry}

theorem exists_keeps_of_lookup {issued : Issued} (h : (w.lookup key).1 = some issued) :
    ∃ e, w.Keeps key e ∧ e.value = issued := by
  obtain ⟨e, hstored, hgood, hvalue⟩ := Surroundings.stored?_of_lookup h
  exact ⟨e, ⟨hstored, hgood⟩, hvalue⟩

/-- What the cache has, a lookup finds. -/
theorem lookup_of_keeps (h : w.Keeps key e) : (w.lookup key).1 = some e.value := by
  rw [Surroundings.lookup_fst, h.stored,
    Option.filter_some_pos ((CatalogCache.isFresh_iff _ _ _).2 h.good)]
  rfl

theorem not_keeps_of_lookup (h : (w.lookup key).1 = none) (e : CatalogCache.Entry) :
    ¬ w.Keeps key e := by
  intro hkeeps
  rw [lookup_of_keeps hkeeps] at h
  cases h

theorem keeps_lookup (h : w.Keeps key e) : (w.lookup key).2.Keeps key e where
  stored := by
    rw [w.stored?_lookup, if_pos rfl, h.stored]
    exact Option.filter_some_pos ((CatalogCache.isFresh_iff _ _ _).2 h.good)
  good := by
    show w.now - e.storedAt ≤ (w.cache.lookup w.now key).2.ttl
    rw [CatalogCache.ttl_lookup]
    exact h.good

theorem keeps_release (h : w.Keeps key e) (lock : LockId) : (w.release lock).Keeps key e where
  stored := (w.stored?_release key lock).trans h.stored
  good := by
    rw [w.now_release, w.ttl_release]
    exact h.good

/-- What is there after a catalog has been removed is another one. -/
theorem serial_ne_of_invalidate {held : Issued}
    (h : (w.invalidate key held).cache.stored? key = some e) :
    e.value.serial ≠ held.serial := by
  rw [w.stored?_invalidate, if_pos rfl, Option.filter_eq_some_iff] at h
  intro hsame
  have hexpected := h.2
  simp [CatalogCache.isExpected, hsame] at hexpected

end Keeps

/-! ## From a rejection to another catalog -/

variable {c : Caller} {w : Surroundings} {held : Issued}

/-- If there is no catalog, the holder of the lock makes one. -/
theorem authenticateOnce_of_missing (h : (w.lookup c.key).1 = none) :
    authenticationCount (c.authenticateOnce.history w) = 1
      ∧ NextLookup c.key (c.authenticateOnce.history w) (w.locked c.key)
      ∧ ∀ issued, (c.authenticateOnce.run w).1 = .ok issued →
        (∃ m ∈ c.authenticateOnce.history w, m.act = .issue issued.catalog
          ∧ issued.serial = m.before.nextSerial)
        ∧ (c.authenticateOnce.run w).2.cache.stored? c.key
          = some ⟨issued, (c.authenticateOnce.run w).2.now⟩ := by
  have hlocked : ((w.locked c.key).lookup c.key).1 = none := by
    rw [Surroundings.lookup_locked_fst, h]
  obtain ⟨hhistory, hrun⟩ := Caller.refreshIfMissing_of_missing hlocked
  have hcount := c.authenticationCount_authenticateOnce w
  rw [h] at hcount
  refine ⟨hcount, ?_, ?_⟩
  · rw [Caller.history_authenticateOnce, hhistory]
    refine ⟨[_, _], _, rfl, ?_⟩
    intro m hm k
    simp only [List.mem_cons, List.not_mem_nil, or_false] at hm
    rcases hm with rfl | rfl <;> exact nofun
  · intro issued hissued
    rw [Caller.run_authenticateOnce_fst, hrun] at hissued
    obtain ⟨ms, v, hmade, hserial, -, hafter⟩ := Caller.refresh_ok hissued
    rw [Caller.run_authenticateOnce_snd, Caller.history_authenticateOnce, hhistory, hrun, hmade,
      hafter, Surroundings.now_release, Surroundings.stored?_release, Surroundings.stored?_store, if_pos rfl]
    refine ⟨⟨⟨v, .issue issued.catalog⟩, ?_, rfl, hserial⟩, rfl⟩
    simp

/-- If there is one, it does not. -/
theorem authenticateOnce_of_keeps {e : CatalogCache.Entry} (h : w.Keeps c.key e) :
    (∃ v, NextLookup c.key (c.authenticateOnce.history w) v ∧ v.Keeps c.key e)
      ∧ (∀ m ∈ c.authenticateOnce.history w, m.after.Keeps c.key e ∧ m.isExchange = false)
      ∧ authenticationCount (c.authenticateOnce.history w) = 0
      ∧ (c.authenticateOnce.run w).1 = .ok e.value
      ∧ (c.authenticateOnce.run w).2.Keeps c.key e := by
  have hlocked : (w.locked c.key).Keeps c.key e := ⟨h.stored, h.good⟩
  obtain ⟨hhistory, hrun⟩ := Caller.refreshIfMissing_of_found (lookup_of_keeps hlocked)
  have hlooked := keeps_lookup hlocked
  have hreleased := keeps_release hlooked (w.sessionLock c.key).1
  rw [Caller.run_authenticateOnce_fst, Caller.run_authenticateOnce_snd,
    Caller.history_authenticateOnce, hhistory, hrun]
  refine ⟨⟨_, ⟨[_, _], _, rfl, ?_⟩, hlocked⟩, ?_, rfl, rfl, hreleased⟩
  · intro m hm k
    simp only [List.mem_cons, List.not_mem_nil, or_false] at hm
    rcases hm with rfl | rfl <;> exact nofun
  · intro m hm
    simp only [List.cons_append, List.nil_append, List.mem_cons, List.not_mem_nil, or_false] at hm
    rcases hm with rfl | rfl | rfl | rfl
    · exact ⟨⟨h.stored, h.good⟩, rfl⟩
    · exact ⟨hlocked, rfl⟩
    · exact ⟨hlooked, rfl⟩
    · exact ⟨hreleased, rfl⟩

/-- **In place of a catalog rejected by a call** there is another one, or none
can be had. -/
theorem recovery_replace (c : Caller) (held : Issued) (w : Surroundings) :
    Recovery c held ((c.replace held).history w) ((c.replace held).run w).1
      ((c.replace held).run w).2 := by
  -- the lookup right after the removal decides which rule applies
  cases hfound : ((w.invalidate c.key held).lookup c.key).1 with
  | some found =>
    obtain ⟨e, hkeeps, rfl⟩ := exists_keeps_of_lookup hfound
    obtain ⟨hhistory, hrun⟩ := Caller.replace_of_found hfound
    have hlooked := keeps_lookup hkeeps
    rw [hhistory, hrun]
    refine .kept ⟨[_], _, rfl, ?_⟩ hkeeps (serial_ne_of_invalidate hkeeps.stored) ?_ hlooked ?_ rfl
    · exact List.forall_mem_singleton.2 nofun
    · exact List.forall_mem_cons.2 ⟨hkeeps, List.forall_mem_singleton.2 hlooked⟩
    · exact List.forall_mem_cons.2 ⟨rfl, List.forall_mem_singleton.2 rfl⟩
  | none =>
    obtain ⟨hhistory, hrun⟩ := Caller.replace_of_missing hfound
    obtain ⟨honce, -, hmade⟩ := authenticateOnce_of_missing
      (Surroundings.lookup_eq_none (Surroundings.stored?_lookup_eq_none hfound))
    have hcount : authenticationCount ((c.replace held).history w) = 1 := by
      rw [hhistory, authenticationCount_cons_of_neg rfl, authenticationCount_cons_of_neg rfl]
      exact honce
    have hnext : NextLookup c.key ((c.replace held).history w) (w.invalidate c.key held) := by
      rw [hhistory]
      exact ⟨[_], _, rfl, List.forall_mem_singleton.2 nofun⟩
    have hmissing := not_keeps_of_lookup hfound
    rw [hrun]
    cases hresult : (c.authenticateOnce.run ((w.invalidate c.key held).lookup c.key).2).1 with
    | error failure => exact .failed hnext hmissing hcount
    | ok issued =>
      obtain ⟨⟨m, hm, hissued⟩, hstored⟩ := hmade issued hresult
      refine .renewed hnext hmissing hcount ⟨m, ?_, hissued⟩ hstored
      rw [hhistory]
      exact List.mem_cons_of_mem _ (List.mem_cons_of_mem _ hm)

/-- **In place of a catalog rejected by a probe** likewise, under the lock from
the beginning. -/
theorem recovery_probe (c : Caller) (held : Issued) (w : Surroundings) :
    Recovery c held
      (⟨w, .invalidate c.key held⟩ :: c.authenticateOnce.history (w.invalidate c.key held))
      (c.authenticateOnce.run (w.invalidate c.key held)).1
      (c.authenticateOnce.run (w.invalidate c.key held)).2 := by
  have hnext {v : Surroundings}
      (h : NextLookup c.key (c.authenticateOnce.history (w.invalidate c.key held)) v) :
      NextLookup c.key (⟨w, .invalidate c.key held⟩ ::
        c.authenticateOnce.history (w.invalidate c.key held)) v := by
    obtain ⟨front, back, hsplit, hfront⟩ := h
    refine ⟨_ :: front, back, congrArg (List.cons _) hsplit, ?_⟩
    exact List.forall_mem_cons.2 ⟨nofun, hfront⟩
  -- the first lookup is the one under the lock, and finds what one before it would
  cases hfound : ((w.invalidate c.key held).lookup c.key).1 with
  | some found =>
    obtain ⟨e, hkeeps, rfl⟩ := exists_keeps_of_lookup hfound
    obtain ⟨⟨v, hlookup, hv⟩, hstays, hnone, hresult, hstill⟩ := authenticateOnce_of_keeps hkeeps
    rw [hresult]
    refine .kept (hnext hlookup) hv (serial_ne_of_invalidate hkeeps.stored) ?_ hstill ?_ ?_
    · exact List.forall_mem_cons.2 ⟨hkeeps, fun m hm => (hstays m hm).1⟩
    · exact List.forall_mem_cons.2 ⟨rfl, fun m hm => (hstays m hm).2⟩
    · rw [authenticationCount_cons_of_neg rfl]
      exact hnone
  | none =>
    obtain ⟨honce, hlookup, hmade⟩ := authenticateOnce_of_missing hfound
    have hcount : authenticationCount (⟨w, .invalidate c.key held⟩ ::
        c.authenticateOnce.history (w.invalidate c.key held)) = 1 := by
      rw [authenticationCount_cons_of_neg rfl]
      exact honce
    have hmissing : ∀ e, ¬ ((w.invalidate c.key held).locked c.key).Keeps c.key e := by
      refine not_keeps_of_lookup ?_
      rw [Surroundings.lookup_locked_fst]
      exact hfound
    cases hresult : (c.authenticateOnce.run (w.invalidate c.key held)).1 with
    | error failure => exact .failed (hnext hlookup) hmissing hcount
    | ok issued =>
      obtain ⟨⟨m, hm, hissued⟩, hstored⟩ := hmade issued hresult
      exact .renewed (hnext hlookup) hmissing hcount ⟨m, List.mem_cons_of_mem _ hm, hissued⟩
        hstored

/-! ## After every rejection -/

/-- Something holds at every moment, with the moments before and after it. -/
def Everywhere (Q : List Moment → Moment → List Moment → Prop) (moments : List Moment) : Prop :=
  ∀ pre m post, moments = pre ++ m :: post → Q pre m post

section Everywhere

variable {Q : List Moment → Moment → List Moment → Prop} {m : Moment} {ms ns : List Moment}

theorem everywhere_nil : Everywhere Q [] := by
  intro pre m post h
  cases pre <;> cases h

theorem everywhere_cons :
    Everywhere Q (m :: ms)
      ↔ Q [] m ms ∧ Everywhere (fun pre n post => Q (m :: pre) n post) ms := by
  constructor
  · intro h
    exact ⟨h [] m ms rfl, fun pre n post hsplit => h (m :: pre) n post (hsplit ▸ rfl)⟩
  · rintro ⟨hfirst, hmore⟩ pre n post hsplit
    cases pre with
    | nil =>
      cases hsplit
      exact hfirst
    | cons p pre =>
      cases hsplit
      exact hmore pre n post rfl

theorem everywhere_append :
    Everywhere Q (ms ++ ns)
      ↔ Everywhere (fun pre m post => Q pre m (post ++ ns)) ms
        ∧ Everywhere (fun pre m post => Q (ms ++ pre) m post) ns := by
  induction ms generalizing Q with
  | nil => exact ⟨fun h => ⟨everywhere_nil, h⟩, fun h => h.2⟩
  | cons p ms ih =>
    rw [List.cons_append, everywhere_cons, everywhere_cons, ih, and_assoc]
    rfl

theorem everywhere_of_forall (h : ∀ m ∈ ms, ∀ pre post, Q pre m post) : Everywhere Q ms := by
  intro pre m post hsplit
  refine h m ?_ pre post
  rw [hsplit]
  exact List.mem_append_right _ List.mem_cons_self

end Everywhere

/-- **How a call goes on with what it has obtained**, in surroundings `w'`: the
resource is asked for with it, unless there is no catalog or no request. -/
def GoesOn (call : Call) (payload : Option Octets) (result : Except Failure CallResult)
    (w' : Surroundings) (rest : List Moment) : Except Failure Issued → Prop
  | .error failure => rest = [] ∧ result = .error failure
  | .ok next => (∃ request more, rest = .asking next request w' :: more)
      ∨ rest = [] ∧ ∃ failure, call.request payload next.catalog = .error failure
        ∧ result = .error failure

/-- **What follows a rejection.** Unless the catalog of another trial has been
rejected before, there is a recovery, and it goes on with what is obtained. That
is another catalog, and so the next trial is made with another one. -/
def Recovered (c : Caller) (spent : List Moment → Prop)
    (goesOn : Surroundings → List Moment → Except Failure Issued → Prop)
    (pre : List Moment) (m : Moment) (post : List Moment) : Prop :=
  ∀ rejected, m.rejected? = some rejected →
    (post = [] ∧ spent pre) ∨
    ∃ between rest obtained w', post = between ++ rest
      ∧ Recovery c rejected between obtained w' ∧ goesOn w' rest obtained
      ∧ (∀ next, obtained = .ok next → next.serial ≠ rejected.serial)
      ∧ ∀ t, (trials post).head? = some t → t.held.serial ≠ rejected.serial

/-- Another catalog has been rejected before. -/
def HasBeenRejected (pre : List Moment) : Prop := ∃ t ∈ trials pre, t.reply.isRejection = true

/-- What is obtained is another catalog. -/
theorem Recovery.serial_ne {rejected : Issued} {moments : List Moment}
    {obtained : Except Failure Issued} {w' : Surroundings}
    (h : Recovery c rejected moments obtained w')
    (hold : ∀ m ∈ moments, rejected.serial < m.before.nextSerial) {next : Issued}
    (hnext : obtained = .ok next) : next.serial ≠ rejected.serial := by
  cases h with
  | kept hlookup hkeeps hother hstays hstill hquiet hnone =>
    cases hnext
    exact hother
  | renewed hlookup hmissing honce hissued hstored =>
    cases hnext
    -- the number of a new catalog is greater than that of any before
    obtain ⟨m, hm, -, hserial⟩ := hissued
    rw [hserial]
    exact Nat.ne_of_gt (hold m hm)
  | failed => cases hnext

/-- Numbers are only counted up in the course of time. -/
theorem nextSerial_le_of_mem_history {α : Type} {p : Course α} {w : Surroundings} {m : Moment}
    (hm : m ∈ p.history w) : w.nextSerial ≤ m.before.nextSerial := by
  induction p generalizing w with
  | ended a => cases hm
  | does act next ih =>
    rcases List.mem_cons.1 hm with rfl | hm
    · exact Nat.le_refl _
    · exact Nat.le_trans (w.nextSerial_le_perform act) (ih _ hm)

theorem GoesOn.lost (call : Call) (payload : Option Octets) (w' : Surroundings)
    {obtained : Except Failure Issued} {failure : Failure} (h : obtained = .error failure) :
    GoesOn call payload (.error failure) w' [] obtained := by
  rw [h]
  exact ⟨rfl, rfl⟩

/-- If it goes on with another catalog, the next trial is made with that. -/
theorem GoesOn.head_trials {call : Call} {payload : Option Octets}
    {result : Except Failure CallResult} {w' : Surroundings} {rest : List Moment}
    {obtained : Except Failure Issued} {rejected : Issued}
    (h : GoesOn call payload result w' rest obtained)
    (hne : ∀ next, obtained = .ok next → next.serial ≠ rejected.serial) {t : Trial}
    (ht : (trials rest).head? = some t) : t.held.serial ≠ rejected.serial := by
  cases obtained with
  | error failure =>
    rw [h.1] at ht
    cases ht
  | ok next =>
    rcases h with ⟨request, more, rfl⟩ | ⟨rfl, -⟩
    · cases ht
      exact hne next rfl
    · cases ht

theorem Everywhere.imp {Q R : List Moment → Moment → List Moment → Prop} {ms : List Moment}
    (h : Everywhere Q ms) (hQR : ∀ pre m post, Q pre m post → R pre m post) : Everywhere R ms :=
  fun pre m post hsplit => hQR pre m post (h pre m post hsplit)

section Pursuit

variable {call : Call} {payload : Option Octets} {renewals pauses : Nat} {request : Request}
  {reply : Reply} {w' : Surroundings} {moments : List Moment}
  {result : Except Failure CallResult}

theorem goesOn_of_pursuit (h : Pursuit c call payload held renewals pauses w moments result) :
    GoesOn call payload result w moments (.ok held) := by
  cases h with
  | unsent hunsent => exact .inr ⟨rfl, _, hunsent, rfl⟩
  | settled => exact .inl ⟨_, _, rfl⟩
  | rejected => exact .inl ⟨_, _, rfl⟩
  | lost => exact .inl ⟨_, _, rfl⟩
  | renewed => exact .inl ⟨_, _, rfl⟩
  | throttled => exact .inl ⟨_, _, rfl⟩
  | endless => exact .inl ⟨_, _, rfl⟩
  | paused => exact .inl ⟨_, _, rfl⟩

/-- A moment that rejects nothing needs no recovery. -/
theorem recovered_of_rejected?_eq_none {spent : List Moment → Prop}
    {goesOn : Surroundings → List Moment → Except Failure Issued → Prop} {m : Moment}
    (h : m.rejected? = none) (pre post : List Moment) : Recovered c spent goesOn pre m post := by
  intro rejected hrejected
  rw [h] at hrejected
  cases hrejected

theorem Recovered.imp {spent spent' : List Moment → Prop}
    {goesOn goesOn' : Surroundings → List Moment → Except Failure Issued → Prop}
    {pre pre' post : List Moment} {m : Moment} (h : Recovered c spent goesOn pre m post)
    (hspent : spent pre → spent' pre')
    (hgoesOn : ∀ w' rest obtained, goesOn w' rest obtained → goesOn' w' rest obtained) :
    Recovered c spent' goesOn' pre' m post := by
  intro rejected hrejected
  rcases h rejected hrejected with ⟨hpost, h⟩ | ⟨between, rest, obtained, w', hpost, hr, hg, hne⟩
  · exact .inl ⟨hpost, hspent h⟩
  · exact .inr ⟨between, rest, obtained, w', hpost, hr, hgoesOn _ _ _ hg, hne⟩

theorem hasBeenRejected_asking (hasked : Asked call payload held request w reply w')
    (h : reply.isRejection = true) (pre : List Moment) :
    HasBeenRejected (.asking held request w :: pre) := by
  refine ⟨⟨held, request, reply, w'⟩, ?_, h⟩
  rw [trials_asking hasked.answered]
  exact List.mem_cons_self

/-- After a rejected trial another catalog is got and used. -/
theorem recovered_asking {spent : List Moment → Prop} {pre rest : List Moment}
    (hasked : Asked call payload held request w reply w') (h : reply.isRejection = true)
    (hheld : held.serial < w'.nextSerial)
    (hrest : GoesOn call payload result ((c.replace held).run w').2 rest
      ((c.replace held).run w').1) :
    Recovered c spent (GoesOn call payload result) pre (.asking held request w)
      ((c.replace held).history w' ++ rest) := by
  intro rejected hrejected
  rw [hasked.rejected? h] at hrejected
  cases hrejected
  have hrecovery := recovery_replace c held w'
  have hne : ∀ next, ((c.replace held).run w').1 = .ok next → next.serial ≠ held.serial :=
    fun next hnext => hrecovery.serial_ne
      (fun m hm => Nat.lt_of_lt_of_le hheld (nextSerial_le_of_mem_history hm)) hnext
  refine .inr ⟨_, rest, _, _, rfl, hrecovery, hrest, hne, fun t ht => ?_⟩
  rw [trials_append, Course.trials_of_confined (c.replace_isSearching held), List.nil_append] at ht
  exact hrest.head_trials hne ht

/-- **In the pursuit of a call no refresh is lost.** -/
theorem recovered_of_pursuit (h : Pursuit c call payload held renewals pauses w moments result)
    (hw : w.Known c.key) (hheld : held.serial < w.nextSerial)
    (hothers : OthersKnown c.key moments) :
    Everywhere (Recovered c (fun pre => renewals = 0 ∨ HasBeenRejected pre)
      (GoesOn call payload result)) moments := by
  have hsingle {held : Issued} {request : Request} {w w' : Surroundings} {reply : Reply}
      {spent : List Moment → Prop}
      {goesOn : Surroundings → List Moment → Except Failure Issued → Prop}
      (hasked : Asked call payload held request w reply w') (h : reply.isRejection = false) :
      Everywhere (Recovered c spent goesOn) [.asking held request w] :=
    everywhere_of_forall (List.forall_mem_singleton.2
      (recovered_of_rejected?_eq_none (hasked.rejected?_eq_none h)))
  -- what the induction carries along is that everything under the key, and the
  -- catalog in use, has been made already
  induction h with
  | unsent hunsent => exact everywhere_nil
  | settled hasked h => exact hsingle hasked h.isRejection_eq_false
  | rejected hasked h hr =>
    exact everywhere_cons.2 ⟨fun _ _ => .inl ⟨rfl, .inl rfl⟩, everywhere_nil⟩
  | lost hasked h hlost =>
    refine everywhere_cons.2 ⟨?_, everywhere_of_forall fun m hm =>
      recovered_of_rejected?_eq_none (Course.rejected?_of_confined (c.replace_isRenewing _) hm)⟩
    rw [← List.append_nil ((c.replace _).history _)]
    exact recovered_asking hasked h (hasked.nextSerial_eq ▸ hheld) (.lost call payload _ hlost)
  | renewed hasked h hother hrest ih =>
    obtain ⟨hsent, hothers⟩ := othersKnown_cons.1 hothers
    obtain ⟨hgetting, hothers⟩ := othersKnown_append.1 hothers
    have hw' := hasked.known hw hsent
    have hgoesOn := goesOn_of_pursuit hrest
    rw [← hother] at hgoesOn
    refine everywhere_cons.2 ⟨recovered_asking hasked h (hasked.nextSerial_eq ▸ hheld) hgoesOn, ?_⟩
    refine everywhere_append.2 ⟨everywhere_of_forall fun m hm => ?_, ?_⟩
    · intro pre post
      exact recovered_of_rejected?_eq_none
        (Course.rejected?_of_confined (c.replace_isRenewing _) hm) _ _
    · have hmore := ih (hasked.known_replace h hw' hgetting) (Caller.serial_lt_replace hw' hother)
        hothers
      -- from here on this very rejection is one that has been before
      refine hmore.imp fun pre m post hrecovered => ?_
      exact hrecovered.imp (fun _ => .inr (hasBeenRejected_asking hasked h _)) fun _ _ _ => id
  | throttled hasked h hr ht =>
    exact hsingle hasked ((Reply.isRejection_of_report? h).trans hr)
  | endless hasked h hr ht hdelay =>
    exact hsingle hasked ((Reply.isRejection_of_report? h).trans hr)
  | paused hasked h hrest ih =>
    obtain ⟨hsent, hothers⟩ := othersKnown_cons.1 hothers
    have hmore := ih (hasked.known hw hsent) (hasked.nextSerial_eq ▸ hheld)
      (othersKnown_cons.1 hothers).2
    refine everywhere_cons.2 ⟨?_, everywhere_cons.2 ⟨?_, ?_⟩⟩
    · exact recovered_of_rejected?_eq_none
        (hasked.rejected?_eq_none (Reply.isRejection_eq_false h)) _ _
    · exact recovered_of_rejected?_eq_none rfl _ _
    · refine hmore.imp fun pre m post hrecovered => hrecovered.imp ?_ fun _ _ _ => id
      refine Or.imp_right fun ⟨t, ht, hrejected⟩ => ⟨t, ?_, hrejected⟩
      rw [trials_asking hasked.answered]
      exact List.mem_cons_of_mem _ ht

end Pursuit

/-! ## From the beginning -/

/-- **A probe that rejects the cached catalog** is followed by a recovery with
which the search for a catalog ends. -/
theorem recovery_of_resolve (hw : w.Known c.key) :
    Everywhere (fun _ m post => ∀ rejected, m.rejected? = some rejected →
      Recovery c rejected post (c.resolve.run w).1 (c.resolve.run w).2
        ∧ ∀ next, (c.resolve.run w).1 = .ok next → next.serial ≠ rejected.serial)
      (c.resolve.history w) := by
  have hnever {m : Moment} {R : Issued → Prop} (h : m.rejected? = none) :
      ∀ rejected, m.rejected? = some rejected → R rejected := by
    intro rejected hrejected
    rw [h] at hrejected
    cases hrejected
  cases hfound : (w.lookup c.key).1 with
  | none =>
    obtain ⟨hhistory, hrun⟩ := Caller.resolve_of_missing hfound
    rw [hhistory]
    refine everywhere_cons.2 ⟨hnever rfl, everywhere_of_forall fun m hm pre post => hnever ?_⟩
    exact Course.rejected?_of_confined c.authenticateOnce_isRenewing hm
  | some held =>
    obtain ⟨hhistory, hrun⟩ := Caller.resolve_of_found hfound
    rw [hhistory, hrun]
    refine everywhere_cons.2 ⟨hnever rfl, ?_⟩
    rcases c.recheck_cases held (w.lookup c.key).2 with
      ⟨-, hnone⟩ | ⟨front, m, hfront, hm, hrecheck, hrechecked⟩
    · exact everywhere_of_forall fun m hm pre post => hnever (hnone m hm)
    · have hheld : held.serial < (w.lookup c.key).2.nextSerial := hw.of_lookup hfound
      have hold : ∀ n ∈ (c.recheck held).history (w.lookup c.key).2,
          held.serial < n.before.nextSerial := fun n hn =>
        Nat.lt_of_lt_of_le hheld (nextSerial_le_of_mem_history hn)
      rw [hrecheck] at hold
      rw [hrecheck, hrechecked]
      refine everywhere_append.2 ⟨?_, everywhere_cons.2 ⟨?_, everywhere_cons.2 ⟨?_, ?_⟩⟩⟩
      · exact everywhere_of_forall fun n hn pre post => hnever (hfront n hn)
      · intro rejected hrejected
        rw [hm] at hrejected
        cases hrejected
        have hrecovery := recovery_probe c held m.after
        refine ⟨hrecovery, fun next hnext => hrecovery.serial_ne (fun n hn => ?_) hnext⟩
        exact hold n (List.mem_append_right _ (List.mem_cons_of_mem _ hn))
      · exact hnever rfl
      · refine everywhere_of_forall fun n hn pre post => hnever ?_
        exact Course.rejected?_of_confined c.authenticateOnce_isRenewing hn

/-- No trial is made before there is a catalog. -/
theorem trials_eq_nil_of_resolve {pre post : List Moment} {m : Moment}
    (hsplit : c.resolve.history w = pre ++ m :: post) : trials post = [] := by
  have hnone := Course.trials_of_confined c.resolve_isSearching w
  rw [hsplit, List.append_cons, trials_append] at hnone
  exact (List.append_eq_nil_iff.1 hnone).2

/-- **What a caller is asked for**: to make a call, or for a catalog. -/
inductive Errand where
  | call (call : Call)
  | catalog

namespace Errand

/-- What happens on an errand. -/
def moments (c : Caller) (w : Surroundings) : Errand → List Moment
  | .call asked => (c.perform asked).history w
  | .catalog => c.resolve.history w

/-- How an errand goes on with what has been obtained in surroundings `w'`. A
call is pursued with it; as a catalog it is the answer. -/
def GoesOn (c : Caller) (w : Surroundings) (errand : Errand) (w' : Surroundings)
    (rest : List Moment) (obtained : Except Failure Issued) : Prop :=
  match errand with
  | .call asked => ∃ payload, asked.body.encode = .ok payload
    ∧ CatalogRefresh.GoesOn asked payload (c.execute asked w).1 w' rest obtained
  | .catalog => rest = [] ∧ c.catalog w = (obtained, w')

end Errand

/-- A rejection at the beginning, whatever follows the search. -/
theorem recovered_of_resolve {spent : List Moment → Prop}
    {goesOn : Surroundings → List Moment → Except Failure Issued → Prop} {rest : List Moment}
    (hw : w.Known c.key) (hgoesOn : goesOn (c.resolve.run w).2 rest (c.resolve.run w).1)
    (hnext : ∀ rejected : Issued,
      (∀ next, (c.resolve.run w).1 = .ok next → next.serial ≠ rejected.serial) →
      ∀ t, (trials rest).head? = some t → t.held.serial ≠ rejected.serial) :
    Everywhere (fun pre m post => Recovered c spent goesOn pre m (post ++ rest))
      (c.resolve.history w) := by
  intro pre m post hsplit rejected hrejected
  obtain ⟨hrecovery, hne⟩ := recovery_of_resolve hw pre m post hsplit rejected hrejected
  refine .inr ⟨post, rest, _, _, rfl, hrecovery, hgoesOn, hne, fun t ht => ?_⟩
  rw [trials_append, trials_eq_nil_of_resolve hsplit, List.nil_append] at ht
  exact hnext rejected hne t ht

theorem recovered_catalog (hw : w.Known c.key) :
    Everywhere (Recovered c HasBeenRejected (Errand.catalog.GoesOn c w)) (c.resolve.history w) := by
  have hgoesOn : Errand.catalog.GoesOn c w (c.resolve.run w).2 [] (c.resolve.run w).1 :=
    ⟨rfl, rfl⟩
  have hall : Everywhere (fun pre m post =>
      Recovered c HasBeenRejected (Errand.catalog.GoesOn c w) pre m (post ++ []))
      (c.resolve.history w) :=
    recovered_of_resolve hw hgoesOn fun rejected _ t ht => by cases ht
  simp only [List.append_nil] at hall
  exact hall

theorem recovered_call (call : Call) (hw : w.Known c.key)
    (hothers : OthersKnown c.key ((c.perform call).history w)) :
    Everywhere (Recovered c HasBeenRejected ((Errand.call call).GoesOn c w))
      ((c.perform call).history w) := by
  cases hbody : call.body.encode with
  | error defect =>
    unfold Caller.perform
    rw [hbody]
    exact everywhere_nil
  | ok payload =>
    have hgoesOn {w' : Surroundings} {rest : List Moment} {obtained : Except Failure Issued}
        (h : GoesOn call payload ((c.performWith call payload).run w).1 w' rest obtained) :
        (Errand.call call).GoesOn c w w' rest obtained := by
      refine ⟨payload, hbody, ?_⟩
      unfold Caller.execute
      rw [c.perform_of_encode hbody]
      exact h
    rw [c.perform_of_encode hbody] at hothers ⊢
    rcases performWith_cases c call payload w with
      ⟨failure, hobtained, hhistory, hresult⟩ | ⟨held, rest, hobtained, hhistory, hpursuit⟩
    · have hlost : GoesOn call payload ((c.performWith call payload).run w).1
          (c.resolve.run w).2 [] (c.resolve.run w).1 := by
        rw [hresult]
        exact .lost call payload _ hobtained
      rw [hhistory, ← List.append_nil (c.resolve.history w)]
      refine everywhere_append.2 ⟨?_, everywhere_nil⟩
      exact recovered_of_resolve hw (hgoesOn hlost) fun rejected hne t ht =>
        hlost.head_trials hne ht
    · rw [hhistory] at hothers ⊢
      obtain ⟨hresolving, hpursuing⟩ := othersKnown_append.1 hothers
      have hbegin := goesOn_of_pursuit hpursuit
      rw [← hobtained] at hbegin
      have hknown : (c.resolve.run w).2.Known c.key :=
        Course.known_run hw (c.allJustified_resolve w)
          (fun q hq => absurd hq.symm (Option.some_ne_none q)) hresolving
      have hheld := Caller.serial_lt_resolve hw hresolving hobtained
      refine everywhere_append.2 ⟨?_, ?_⟩
      · exact recovered_of_resolve hw (hgoesOn hbegin) fun rejected hne t ht =>
          hbegin.head_trials hne ht
      · refine (recovered_of_pursuit hpursuit hknown hheld hpursuing).imp fun pre m post h => ?_
        refine h.imp (fun hspent => ?_) fun w' rest obtained => hgoesOn
        obtain ⟨t, ht, hrejection⟩ := hspent.resolve_left Nat.one_ne_zero
        refine ⟨t, ?_, hrejection⟩
        rw [trials_append]
        exact List.mem_append_right _ ht

/-- **No refresh is lost, and nothing is removed without a reason.** On every
errand, whatever others store under the same key while a request is on its way,
each rejection is followed by a recovery with which the errand goes on, unless a
trial has been rejected before; and the entry of a key, whichever it is, changes
only for one of the reasons of `Change`. -/
theorem no_refresh_lost (c : Caller) (errand : Errand) (w : Surroundings)
    (hw : w.Known c.key) (hothers : OthersKnown c.key (errand.moments c w)) :
    Everywhere (Recovered c HasBeenRejected (errand.GoesOn c w)) (errand.moments c w) ∧
    Everywhere (fun pre m _ => ∀ key,
      m.after.cache.stored? key ≠ m.before.cache.stored? key → Change c pre.getLast? m key)
      (errand.moments c w) := by
  cases errand with
  | call asked =>
    exact ⟨recovered_call asked hw hothers, fun pre m post hsplit key =>
      change_of_split (c.allJustified_perform asked w) hsplit⟩
  | catalog =>
    exact ⟨recovered_catalog hw, fun pre m post hsplit key =>
      change_of_split (c.allJustified_resolve w) hsplit⟩

/-! ## Somebody else has refreshed -/

/-- A catalog with one service. -/
def computeCatalog (token : RawText) : Catalog where
  authToken := .str token
  tenant := .null
  homeRegion := none
  storageToken := .null
  endpoints := OrderedMap.empty.put "compute" (OrderedMap.empty.put none "https://compute.example")
  locators_nonempty := by
    intro s hs r hr
    obtain rfl : s = _ := List.mem_singleton.1 hs
    obtain rfl : r = _ := List.mem_singleton.1 hr
    decide

def someSession : Session where
  endpoint := "https://identity.example"
  account := "account"
  endpoint_not_blank := by decide

/-- Somebody who never probes. -/
def someCaller : Caller where
  session := someSession
  revalidation := .zero false

def outdated : Issued := ⟨0, computeCatalog "outdated"⟩

def renewed : Issued := ⟨1, computeCatalog "renewed"⟩

/-- The cache has an outdated catalog, which is rejected; meanwhile somebody
else stores another one. -/
def refreshedMeanwhile : Surroundings where
  script := [⟨.response ⟨401, .empty, [], "Unauthorized"⟩, [(someCaller.key, renewed)], 1, 1⟩,
    ⟨.response ⟨200, .empty, [], "OK"⟩, [], 0, 1⟩]
  draws := ⟨[]⟩
  cache := (CatalogCache.empty 10).store 0 someCaller.key outdated
  now := 3
  nextSerial := 2
  events := []

def listServers : Call where
  service := "compute"
  method := "GET"
  path := some "servers"

/-- A caller that never probes calls with the catalog that it finds. -/
theorem resolve_of_lookup {w : Surroundings} {held : Issued}
    (hfound : (w.lookup someCaller.key).1 = some held) :
    someCaller.resolve.run w = (.ok held, (w.lookup someCaller.key).2) := by
  have hprobe : someCaller.wantsProbe = .ended false := by rfl
  rw [(Caller.resolve_of_found hfound).2]
  unfold Caller.recheck
  rw [hprobe]
  rfl

theorem resolve_refreshedMeanwhile :
    someCaller.resolve.run refreshedMeanwhile
      = (.ok outdated, (refreshedMeanwhile.lookup someCaller.key).2) :=
  resolve_of_lookup rfl

/-- The outdated catalog is rejected, and the call recovers with another one. -/
theorem no_refresh_lost_meanwhile :
    refreshedMeanwhile.Known someCaller.key ∧
    OthersKnown someCaller.key ((Errand.call listServers).moments someCaller refreshedMeanwhile) ∧
    ∃ pre m post,
      (Errand.call listServers).moments someCaller refreshedMeanwhile = pre ++ m :: post ∧
      m.rejected? = some outdated ∧
      Recovered someCaller HasBeenRejected
        ((Errand.call listServers).GoesOn someCaller refreshedMeanwhile) pre m post := by
  have hknown : refreshedMeanwhile.Known someCaller.key := by
    intro e he
    have hstored : refreshedMeanwhile.cache.stored? someCaller.key = some ⟨outdated, 0⟩ := by rfl
    rw [hstored] at he
    cases he
    decide
  have hothers : OthersKnown someCaller.key
      ((Errand.call listServers).moments someCaller refreshedMeanwhile) := by
    refine othersKnown_history (someCaller.perform listServers) ?_
    decide
  have hlost := no_refresh_lost someCaller (.call listServers) refreshedMeanwhile hknown hothers
  obtain ⟨request, hrequest⟩ : ∃ request, listServers.request none outdated.catalog = .ok request :=
    ⟨_, rfl⟩
  refine ⟨hknown, hothers, ?_⟩
  rcases performWith_cases someCaller listServers none refreshedMeanwhile with
    ⟨failure, hobtained, -⟩ | ⟨held, rest, hobtained, hhistory, hpursuit⟩
  · rw [resolve_refreshedMeanwhile] at hobtained
    cases hobtained
  · rw [resolve_refreshedMeanwhile] at hobtained hpursuit
    cases hobtained
    rcases goesOn_of_pursuit hpursuit with ⟨asked, more, rfl⟩ | ⟨-, failure, hunsent, -⟩
    · exact ⟨_, _, more, hhistory, rfl, hlost.1 _ _ _ hhistory⟩
    · rw [hrequest] at hunsent
      cases hunsent

end CatalogRefresh

end CloudClient
