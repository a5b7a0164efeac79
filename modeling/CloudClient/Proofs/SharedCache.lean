import CloudClient.Proofs.CatalogStages

/-!
# Callers who share a cache

Any number of callers act for sessions with one and the same key, and share a
cache. This module finds out what is always so, whatever the order in which
they take their turns.

## Two invariants

The first is about the lock (`Exclusion`): all who wait for a lock or have one
mean the lock that the key has now, and whoever is inside holds it. So only
one is inside.

The second is about the cache (`Agreement`): from the moment at which a caller
finds nothing *inside* until it has stored its catalog, there is nothing under
the key, because nobody else is inside to put anything there. A catalog that
is returned is one that is in the cache, and there has been no other. Looking
before the lock is taken would not do: what is not there then may be there
once the lock is taken.

The second rests on the first, and both are kept by every act of a caller
(`Exclusion.advance`, `Agreement.advance`) and hence in every run
(`exists_order`).
-/

namespace CloudClient

/-! ## What becomes of an entry -/

namespace Surroundings

/-- **No entry of a key passes its time to live**: one that is too old was so
before. -/
def Lasting (key : CacheKey) (w w' : Surroundings) : Prop :=
  ∀ e, w'.cache.stored? key = some e → w'.cache.isFresh w'.now e = false →
    w.cache.stored? key = some e ∧ w.cache.isFresh w.now e = false

/-- **Nothing is put under a key**, and what is removed is too old. -/
structure Quiet (key : CacheKey) (w w' : Surroundings) : Prop where
  fresh : ∀ e, w'.cache.isFresh w'.now e = w.cache.isFresh w.now e
  stored : w'.cache.stored? key = w.cache.stored? key
    ∨ w'.cache.stored? key = none ∧ (w.lookup key).1 = none

variable {key : CacheKey} {w w' : Surroundings}

theorem Quiet.lookup_eq (h : Quiet key w w') : (w'.lookup key).1 = (w.lookup key).1 := by
  rcases h.stored with hs | ⟨hs, hnone⟩
  · rw [lookup_fst, lookup_fst, hs, funext h.fresh]
  · rw [lookup_fst, hs, hnone]
    rfl

theorem Quiet.stored?_eq_none (h : Quiet key w w') (hw : w.cache.stored? key = none) :
    w'.cache.stored? key = none := by
  rcases h.stored with hs | ⟨hs, -⟩
  · rw [hs, hw]
  · exact hs

theorem Quiet.lasting (h : Quiet key w w') : Lasting key w w' := by
  intro e he hold
  rcases h.stored with hs | ⟨hs, -⟩
  · exact ⟨hs.symm.trans he, (h.fresh e).symm.trans hold⟩
  · rw [hs] at he
    exact absurd he.symm (Option.some_ne_none e)

/-- What is too old now is too old later. -/
theorem isFresh_of_later {time : Nat} {e : CatalogCache.Entry}
    (h : w.cache.isFresh (w.later time).now e = true) : w.cache.isFresh w.now e = true := by
  rw [CatalogCache.isFresh_iff] at h ⊢
  have hle : w.now ≤ (w.later time).now := Int.le_add_of_nonneg_right (Int.natCast_nonneg time)
  omega

/-- As long as no entry passes its time to live, time changes nothing. -/
theorem Lasting.lookup_later {time : Nat} (h : Lasting key w (w.later time)) :
    ((w.later time).lookup key).1 = (w.lookup key).1 := by
  rw [lookup_fst, lookup_fst]
  show ((w.cache.stored? key).filter (w.cache.isFresh (w.later time).now)).map _ = _
  cases he : w.cache.stored? key with
  | none => rfl
  | some e =>
    have hsame : w.cache.isFresh (w.later time).now e = w.cache.isFresh w.now e := by
      cases hlater : w.cache.isFresh (w.later time).now e with
      | true => exact (isFresh_of_later hlater).symm
      | false => exact (h e he hlater).2.symm
    rw [Option.filter_some, Option.filter_some, hsame]

/-- What is stored while there is nothing is found afterwards. -/
theorem Lasting.lookup_store {value : Issued} (h : Lasting key w (w.store key value))
    (hw : w.cache.stored? key = none) : ((w.store key value).lookup key).1 = some value := by
  have he : (w.store key value).cache.stored? key = some ⟨value, w.now⟩ := by
    rw [stored?_store, if_pos rfl]
  have hfresh : (w.store key value).cache.isFresh (w.store key value).now ⟨value, w.now⟩ = true := by
    cases hold : (w.store key value).cache.isFresh (w.store key value).now ⟨value, w.now⟩ with
    | true => rfl
    | false =>
      have hbefore := (h _ he hold).1
      rw [hw] at hbefore
      exact absurd hbefore.symm (Option.some_ne_none _)
  rw [lookup_fst, he, Option.filter_some, if_pos hfresh]
  rfl

/-! ## What an act changes -/

theorem Quiet.of_hearing {reply : Reply} (h : Quiet key (w.hearing reply) w') : Quiet key w w' :=
  ⟨h.fresh, h.stored⟩

theorem quiet_lookup (key key' : CacheKey) (w : Surroundings) :
    Quiet key w (w.lookup key').2 where
  fresh := congrFun (CatalogCache.isFresh_congr (CatalogCache.ttl_lookup w.cache w.now key') w.now)
  stored := by
    rw [stored?_lookup, lookup_fst]
    by_cases hkey : key' = key
    · rw [if_pos hkey]
      cases w.cache.stored? key with
      | none => exact Or.inl rfl
      | some e =>
        cases hfresh : w.cache.isFresh w.now e with
        | true => exact Or.inl (Option.filter_some_pos hfresh)
        | false => exact Or.inr (by simp [Option.filter_some, hfresh])
    · rw [if_neg hkey]
      exact Or.inl rfl

theorem quiet_release (key : CacheKey) (lock : LockId) (w : Surroundings) :
    Quiet key w (w.release lock) where
  fresh := by
    rw [w.now_release]
    exact congrFun (CatalogCache.isFresh_congr (w.ttl_release lock) w.now)
  stored := Or.inl (w.stored?_release key lock)

theorem quiet_perform (key : CacheKey) (w : Surroundings) (reply : Reply) {act : Act}
    (h : act.isQuiet = true) : Quiet key w ((w.hearing reply).perform act).2 := by
  cases act with
  | store key' value => cases h
  | invalidate key' value => cases h
  | lookup key' => exact (quiet_lookup key key' (w.hearing reply)).of_hearing
  | release lock => exact (quiet_release key lock (w.hearing reply)).of_hearing
  | send origin request =>
    have hnow : ((w.hearing reply).send origin request).2.now = w.now :=
      (Int.add_zero _).trans (Int.add_zero _)
    refine ⟨fun e => ?_, Or.inl rfl⟩
    show w.cache.isFresh ((w.hearing reply).send origin request).2.now e = _
    rw [hnow]
  | _ => exact ⟨fun _ => rfl, Or.inl rfl⟩

theorem locks_perform (w : Surroundings) (reply : Reply) {act : Act} (h : act.isLocking = false) :
    ((w.hearing reply).perform act).2.cache.locks = w.cache.locks := by
  cases act with
  | sessionLock key => cases h
  | acquire lock => cases h
  | release lock => cases h
  | lookup key => exact CatalogCache.locks_lookup w.cache w.now key
  | invalidate key value => exact CatalogCache.locks_invalidate w.cache key (some value)
  | _ => rfl

end Surroundings

universe u

variable {ι : Type u} {key : CacheKey} {w w' : Surroundings} {stages : ι → Stage} {i : ι}
  {σ : Stage} {lock : LockId}

/-! ## The lock -/

/-- What is known of the locks at a stage: whoever waits for a lock or has one
means the lock of the key, and whoever has one holds it. -/
def Stage.Fits (key : CacheKey) (w : Surroundings) (σ : Stage) : Prop :=
  ∀ lock, σ.lock? = some lock → w.cache.locks.table.find? key = some lock
    ∧ (σ.isInside = true → w.cache.locks.isHeld lock = true)

/-- **All mean the same lock, and one at most has it.** -/
structure Exclusion (key : CacheKey) (w : Surroundings) (stages : ι → Stage) : Prop where
  fits : ∀ i, (stages i).Fits key w
  alone : ∀ i j, (stages i).isInside = true → (stages j).isInside = true → i = j

namespace Exclusion

/-- Whoever takes a free lock finds nobody inside. -/
theorem nobody_of_free (hx : Exclusion key w stages)
    (htable : w.cache.locks.table.find? key = some lock)
    (hfree : w.cache.locks.isHeld lock = false) (j : ι) : (stages j).isInside = false := by
  cases hj : (stages j).isInside with
  | false => rfl
  | true =>
    obtain ⟨lock', hlock'⟩ := Stage.lock?_of_isInside hj
    obtain ⟨htable', hheld⟩ := hx.fits j lock' hlock'
    have hsame : lock' = lock := Option.some.inj (htable'.symm.trans htable)
    rw [hsame, hfree] at hheld
    exact absurd (hheld hj) Bool.false_ne_true

/-- Besides whoever is inside there is nobody else. -/
theorem nobody_else (hx : Exclusion key w stages) (hi : (stages i).isInside = true) {j : ι}
    (hj : j ≠ i) : (stages j).isInside = false := by
  cases hin : (stages j).isInside with
  | false => rfl
  | true => exact absurd (hx.alone j i hin hi) hj

theorem hearing (hx : Exclusion key w stages) (reply : Reply) :
    Exclusion key (w.hearing reply) stages :=
  ⟨hx.fits, hx.alone⟩

variable [DecidableEq ι]

theorem update (hx : Exclusion key w stages) (hi : σ.Fits key w')
    (hothers : ∀ j, j ≠ i → (stages j).Fits key w')
    (halone : σ.isInside = true → ∀ j, j ≠ i → (stages j).isInside = false) :
    Exclusion key w' (Function.update stages i σ) where
  fits := (Function.forall_update_iff stages fun _ τ => τ.Fits key w').2 ⟨hi, hothers⟩
  alone j k hj hk := by
    -- one of two who are inside may be the caller that has moved
    by_cases hji : j = i <;> by_cases hki : k = i
    · rw [hji, hki]
    · rw [hji, Function.update_self] at hj
      rw [Function.update_of_ne hki, halone hj k hki] at hk
      cases hk
    · rw [hki, Function.update_self] at hk
      rw [Function.update_of_ne hji, halone hk j hji] at hj
      cases hj
    · rw [Function.update_of_ne hji] at hj
      rw [Function.update_of_ne hki] at hk
      exact hx.alone j k hj hk

/-- An act that has nothing to do with locks changes nothing. -/
theorem frame (hx : Exclusion key w stages) (hlocks : w'.cache.locks = w.cache.locks)
    (hlock? : σ.lock? = (stages i).lock?) (hinside : σ.isInside = (stages i).isInside) :
    Exclusion key w' (Function.update stages i σ) := by
  refine hx.update ?_ (fun j _ => ?_) fun hin j hj => hx.nobody_else (hinside ▸ hin) hj
  · unfold Stage.Fits
    rw [hlocks, hlock?, hinside]
    exact hx.fits i
  · unfold Stage.Fits
    rw [hlocks]
    exact hx.fits j

/-- Asking for the lock of the key changes nothing for those who have asked
already. -/
theorem asks (hx : Exclusion key w stages)
    (hlocks : w'.cache.locks = (w.cache.locks.obtain key).2)
    (hlock : (w.cache.locks.obtain key).1 = lock) :
    Exclusion key w' (Function.update stages i (.waiting lock)) := by
  refine hx.update ?_ (fun j _ lock' hj => ?_) fun hin => absurd hin Bool.false_ne_true
  · intro lock' hlock'
    rw [hlocks, LockTable.find?_obtain, hlock]
    exact ⟨hlock', fun hin => absurd hin Bool.false_ne_true⟩
  · obtain ⟨htable, hheld⟩ := hx.fits j lock' hj
    rw [hlocks, LockTable.obtain_of_find? htable]
    exact ⟨htable, hheld⟩

theorem enters (hx : Exclusion key w stages) (hi : stages i = .waiting lock)
    (hfree : w.cache.locks.isHeld lock = false)
    (hlocks : w'.cache.locks = (w.cache.locks.acquire lock).2) :
    Exclusion key w' (Function.update stages i (.entered lock)) := by
  have htable : w.cache.locks.table.find? key = some lock := (hx.fits i lock (by rw [hi]; rfl)).1
  refine hx.update ?_ (fun j _ lock' hj => ?_) fun _ j _ => hx.nobody_of_free htable hfree j
  · intro lock' hlock'
    cases hlock'
    rw [hlocks, LockTable.table_acquire]
    exact ⟨htable, fun _ => LockTable.isHeld_acquire_self _ lock⟩
  · obtain ⟨htable', hheld⟩ := hx.fits j lock' hj
    rw [hlocks, LockTable.table_acquire]
    exact ⟨htable', fun hin => LockTable.isHeld_acquire_of_isHeld (hheld hin) lock⟩

/-- Whoever goes leaves nobody inside. -/
theorem leaves (hx : Exclusion key w stages) (hi : (stages i).isInside = true)
    (htable : w'.cache.locks.table = w.cache.locks.table) (result : Except Failure Issued) :
    Exclusion key w' (Function.update stages i (.gone result)) := by
  refine hx.update (fun lock' hlock' => ?_) (fun j hj lock' hlock' => ?_)
    fun hin => absurd hin Bool.false_ne_true
  · cases hlock'
  · rw [htable, hx.nobody_else hi hj]
    exact ⟨(hx.fits j lock' hlock').1, fun hin => absurd hin Bool.false_ne_true⟩

/-- **Every act of a caller keeps the others out.** -/
theorem advance (hx : Exclusion key w stages) {c : Caller} (hkey : c.key = key) (reply : Reply)
    {act : Act} {answer : act.Answer} (h : c.Advance (stages i) act answer σ)
    (hallows : w.allows act = true) (hanswer : ((w.hearing reply).perform act).1 = answer) :
    Exclusion key ((w.hearing reply).perform act).2 (Function.update stages i σ) := by
  -- the acts that have nothing to do with locks need no look at the stages
  cases hlocking : act.isLocking with
  | false =>
    obtain ⟨hlock?, hinside⟩ := h.lock?_eq hlocking
    exact hx.frame (w.locks_perform reply hlocking) hlock? hinside
  | true =>
    generalize hi : stages i = before at h
    cases h with
    | asks lock =>
      subst hkey
      exact hx.asks rfl hanswer
    | enters lock => exact hx.enters hi (by simpa [Surroundings.allows] using hallows) rfl
    | gives lock issued =>
      exact hx.leaves (by rw [hi]; rfl) ((w.hearing reply).table_release lock) _
    | givesUp lock failure =>
      exact hx.leaves (by rw [hi]; rfl) ((w.hearing reply).table_release lock) _
    | _ => cases hlocking

end Exclusion

/-! ## The cache -/

/-- What is known of the cache at a stage, where some catalogs are all that
there have been: whoever has missed inside knows that there is nothing under
the key, and whoever returns a catalog that it is there. -/
def Stage.Agrees (key : CacheKey) (catalogs : List Issued) (w : Surroundings) : Stage → Prop
  | .beginning _ | .talking _ _ => catalogs = [] ∧ w.cache.stored? key = none
  | .storing _ issued => catalogs = [issued] ∧ w.cache.stored? key = none
  | .leaving _ issued | .gone (.ok issued) => (w.lookup key).1 = some issued
  | _ => True

/-- **All mean the same catalog**, and it is in the cache, or about to be. -/
structure Agreement (key : CacheKey) (catalogs : List Issued) (w : Surroundings)
    (stages : ι → Stage) : Prop where
  agrees : ∀ i, (stages i).Agrees key catalogs w
  found : ∀ issued, (w.lookup key).1 = some issued → catalogs = [issued]
  missed : (w.lookup key).1 = none →
    catalogs = [] ∨ ∃ i lock issued, stages i = .storing lock issued

variable {catalogs : List Issued}

namespace Stage.Agrees

theorem mono (h : σ.Agrees key catalogs w)
    (hlookup : (w'.lookup key).1 = (w.lookup key).1)
    (hnone : w.cache.stored? key = none → w'.cache.stored? key = none) :
    σ.Agrees key catalogs w' := by
  cases σ with
  | beginning lock => exact ⟨h.1, hnone h.2⟩
  | talking lock talk => exact ⟨h.1, hnone h.2⟩
  | storing lock issued => exact ⟨h.1, hnone h.2⟩
  | leaving lock issued => exact hlookup.trans h
  | gone result =>
    cases result with
    | ok issued => exact hlookup.trans h
    | error failure => trivial
  | _ => trivial

theorem quiet (h : σ.Agrees key catalogs w) (hq : Surroundings.Quiet key w w') :
    σ.Agrees key catalogs w' :=
  h.mono hq.lookup_eq hq.stored?_eq_none

/-- While there is nothing in the cache nobody outside has a catalog, so there
is nothing to be known of them. -/
theorem of_outside (h : σ.Agrees key catalogs w) (hin : σ.isInside = false)
    (hnone : (w.lookup key).1 = none) (catalogs' : List Issued) (w' : Surroundings) :
    σ.Agrees key catalogs' w' := by
  cases σ with
  | gone result =>
    cases result with
    | ok issued => exact absurd (h.symm.trans hnone) (Option.some_ne_none issued)
    | error failure => trivial
  | arriving => trivial
  | missing => trivial
  | waiting lock => trivial
  | _ => cases hin

end Stage.Agrees

namespace Agreement

/-- Whoever misses inside knows that there has been no catalog. -/
theorem catalogs_eq_nil (ha : Agreement key catalogs w stages) (hx : Exclusion key w stages)
    (hi : stages i = .entered lock) (hnone : (w.lookup key).1 = none) : catalogs = [] := by
  refine (ha.missed hnone).resolve_right ?_
  rintro ⟨j, lock', issued, hj⟩
  -- whoever stores is inside as well, and there is nobody else inside
  have hji : j = i := hx.alone j i (by rw [hj]; rfl) (by rw [hi]; rfl)
  rw [hji, hi] at hj
  cases hj

/-- Where nothing is made or stored, a caller comes to know what is so. -/
theorem agrees_of_quiet (ha : Agreement key catalogs w stages) (hx : Exclusion key w stages)
    {c : Caller} (hkey : c.key = key) (reply : Reply) {act : Act} {answer : act.Answer}
    (h : c.Advance (stages i) act answer σ)
    (hanswer : ((w.hearing reply).perform act).1 = answer) (hquiet : act.isQuiet = true)
    (hissue : Moment.issued? ⟨w.hearing reply, act⟩ = none) :
    σ.Agrees key catalogs ((w.hearing reply).perform act).2 := by
  have hq := w.quiet_perform key reply hquiet
  have hagrees := ha.agrees i
  generalize hi : stages i = before at h hagrees
  subst hkey
  cases h with
  | finds held => exact hq.lookup_eq.trans hanswer
  | findsInside lock held => exact hq.lookup_eq.trans hanswer
  | missesInside lock =>
    exact ⟨ha.catalogs_eq_nil hx hi hanswer, Surroundings.stored?_lookup_eq_none hanswer⟩
  | begins lock =>
    have hbefore : (Stage.beginning lock).Agrees c.key catalogs w := hagrees
    exact hbefore.quiet hq
  | hears lock request next reply' =>
    have hbefore : (Stage.beginning lock).Agrees c.key catalogs w := hagrees
    exact hbefore.quiet hq
  | gives lock issued =>
    have hbefore : (Stage.leaving lock issued).Agrees c.key catalogs w := hagrees
    exact hbefore.quiet hq
  | makes lock catalog issued => exact absurd hissue (Option.some_ne_none _)
  | stores lock issued => cases hquiet
  | _ => trivial

theorem hearing (ha : Agreement key catalogs w stages) (reply : Reply) :
    Agreement key catalogs (w.hearing reply) stages :=
  ⟨ha.agrees, ha.found, ha.missed⟩

/-- As long as no entry passes its time to live, time changes nothing. -/
theorem later (ha : Agreement key catalogs w stages) {time : Nat}
    (h : Surroundings.Lasting key w (w.later time)) :
    Agreement key catalogs (w.later time) stages where
  agrees j := (ha.agrees j).mono h.lookup_later id
  found issued hfound := ha.found issued (h.lookup_later.symm.trans hfound)
  missed hnone := ha.missed (h.lookup_later.symm.trans hnone)

variable [DecidableEq ι]

theorem update_quiet (ha : Agreement key catalogs w stages) (hq : Surroundings.Quiet key w w')
    (hi : σ.Agrees key catalogs w') (hold : ∀ lock issued, stages i ≠ .storing lock issued) :
    Agreement key catalogs w' (Function.update stages i σ) where
  agrees := (Function.forall_update_iff stages fun _ τ => τ.Agrees key catalogs w').2
    ⟨hi, fun j _ => (ha.agrees j).quiet hq⟩
  found issued h := ha.found issued (hq.lookup_eq.symm.trans h)
  missed h := by
    refine (ha.missed (hq.lookup_eq.symm.trans h)).imp_right ?_
    rintro ⟨j, lock, issued, hj⟩
    have hji : j ≠ i := fun hji => hold lock issued (hji ▸ hj)
    exact ⟨j, lock, issued, (Function.update_of_ne hji _ _).trans hj⟩

/-- Whoever makes a catalog makes the first one. -/
theorem makes (ha : Agreement key catalogs w stages) (hx : Exclusion key w stages)
    {talk : Authentication} (hi : stages i = .talking lock talk)
    (hq : Surroundings.Quiet key w w') (issued : Issued) :
    Agreement key (catalogs ++ [issued]) w' (Function.update stages i (.storing lock issued)) := by
  have hagrees := ha.agrees i
  rw [hi] at hagrees
  obtain ⟨hnil, hnone⟩ := hagrees
  have hlookup : (w.lookup key).1 = none := Surroundings.lookup_eq_none hnone
  rw [hnil, List.nil_append]
  constructor
  · refine (Function.forall_update_iff stages fun _ τ => τ.Agrees key [issued] w').2
      ⟨⟨rfl, hq.stored?_eq_none hnone⟩, fun j hj => ?_⟩
    exact (ha.agrees j).of_outside (hx.nobody_else (by rw [hi]; rfl) hj) hlookup _ _
  · intro other hother
    rw [hq.lookup_eq, hlookup] at hother
    exact absurd hother.symm (Option.some_ne_none other)
  · intro _
    exact Or.inr ⟨i, lock, issued, Function.update_self _ _ _⟩

/-- Whoever stores a catalog stores the one that has been made. -/
theorem stores (ha : Agreement key catalogs w stages) (hx : Exclusion key w stages)
    {issued : Issued} (hi : stages i = .storing lock issued)
    (hlasting : Surroundings.Lasting key w (w.store key issued)) :
    Agreement key catalogs (w.store key issued)
      (Function.update stages i (.leaving lock issued)) := by
  have hagrees := ha.agrees i
  rw [hi] at hagrees
  obtain ⟨hone, hnone⟩ := hagrees
  have hlookup := hlasting.lookup_store hnone
  constructor
  · refine (Function.forall_update_iff stages fun _ τ => τ.Agrees key catalogs _).2
      ⟨hlookup, fun j hj => ?_⟩
    exact (ha.agrees j).of_outside (hx.nobody_else (by rw [hi]; rfl) hj)
      (Surroundings.lookup_eq_none hnone) _ _
  · intro other hother
    rw [← Option.some.inj (hlookup.symm.trans hother)]
    exact hone
  · intro h
    exact absurd (hlookup.symm.trans h) (Option.some_ne_none issued)

/-- **Every act of a caller keeps to the one catalog.** -/
theorem advance (ha : Agreement key catalogs w stages) (hx : Exclusion key w stages)
    {c : Caller} (hkey : c.key = key) (reply : Reply) {act : Act} {answer : act.Answer}
    (h : c.Advance (stages i) act answer σ)
    (hanswer : ((w.hearing reply).perform act).1 = answer)
    (hlasting : Surroundings.Lasting key w ((w.hearing reply).perform act).2) :
    Agreement key (catalogs ++ (Moment.issued? ⟨w.hearing reply, act⟩).toList)
      ((w.hearing reply).perform act).2 (Function.update stages i σ) := by
  -- there are two acts that matter, storing a catalog and making one
  cases hquiet : act.isQuiet with
  | false =>
    generalize hi : stages i = before at h
    subst hkey
    cases h with
    | stores lock issued =>
      rw [show Moment.issued? ⟨w.hearing reply, .store c.key issued⟩ = none from rfl,
        Option.toList_none, List.append_nil]
      exact (ha.hearing reply).stores (hx.hearing reply) hi hlasting
    | _ => cases hquiet
  | true =>
    have hq := w.quiet_perform key reply hquiet
    cases hissue : Moment.issued? ⟨w.hearing reply, act⟩ with
    | none =>
      rw [Option.toList_none, List.append_nil]
      refine ha.update_quiet hq (ha.agrees_of_quiet hx hkey reply h hanswer hquiet hissue) ?_
      intro lock issued hi
      rw [hi] at h
      cases h
      cases hquiet
    | some made =>
      generalize hi : stages i = before at h
      cases h with
      | makes lock catalog issued =>
        have hsame : issued = made := hanswer.symm.trans (Option.some.inj hissue)
        rw [hsame]
        exact ha.makes hx hi hq made
      | _ => cases hissue

end Agreement

/-! ## The lock when nobody is inside -/

/-- Whether an authentication has begun among some moments. -/
def Begun (h : List (ι × Moment)) : Prop := ∃ p ∈ h, p.2.act = .authentication

/-- **Once somebody has authenticated**, the key has a lock, and that is held
only as long as somebody is inside. -/
def Freed (key : CacheKey) (h : List (ι × Moment)) (w : Surroundings) (stages : ι → Stage) : Prop :=
  Begun h → ∃ lock, w.cache.locks.table.find? key = some lock
    ∧ (w.cache.locks.isHeld lock = true → ∃ j, (stages j).isInside = true)

theorem begun_concat {h : List (ι × Moment)} {p : ι × Moment} (hp : p.2.act ≠ .authentication)
    (hbegun : Begun (h ++ [p])) : Begun h := by
  obtain ⟨q, hq, hact⟩ := hbegun
  rcases List.mem_append.1 hq with hq | hq
  · exact ⟨q, hq, hact⟩
  · rw [List.mem_singleton.1 hq] at hact
    exact absurd hact hp

namespace Freed

variable {h : List (ι × Moment)} {m : Moment}

/-- Whoever goes leaves the lock free. -/
theorem of_release (hx : Exclusion key w stages) (hi : (stages i).lock? = some lock)
    (hinside : (stages i).isInside = true) (τ : ι → Stage) :
    Freed key h (w.release lock) τ := by
  intro _
  obtain ⟨htable, hheld⟩ := hx.fits i lock hi
  rw [Surroundings.locks_release (hheld hinside)]
  refine ⟨lock, htable, fun hheld' => ?_⟩
  rw [LockTable.isHeld_filter_ne] at hheld'
  cases hheld'

variable [DecidableEq ι]

/-- As long as nobody comes or goes, the lock stays as it is. -/
theorem frame (hf : Freed key h w stages) (hm : m.act ≠ .authentication)
    (hlocks : w.cache.locks.table.find? key ≠ none → w'.cache.locks = w.cache.locks)
    (hinside : σ.isInside = (stages i).isInside) :
    Freed key (h ++ [(i, m)]) w' (Function.update stages i σ) := by
  intro hbegun
  obtain ⟨lock, htable, hfree⟩ := hf (begun_concat hm hbegun)
  have hsame := hlocks (by rw [htable]; exact Option.some_ne_none lock)
  rw [hsame]
  refine ⟨lock, htable, fun hheld => ?_⟩
  obtain ⟨j, hj⟩ := hfree hheld
  refine ⟨j, ?_⟩
  by_cases hji : j = i
  · rw [hji, Function.update_self, hinside, ← hji]
    exact hj
  · rw [Function.update_of_ne hji]
    exact hj

/-- Whoever is inside now is somebody inside. -/
theorem of_inside (hx : Exclusion key w' (Function.update stages i σ)) (hσ : σ.lock? = some lock)
    (hinside : σ.isInside = true) : Freed key h w' (Function.update stages i σ) := by
  intro _
  have hfits := hx.fits i lock
  rw [Function.update_self] at hfits
  refine ⟨lock, (hfits hσ).1, fun _ => ⟨i, ?_⟩⟩
  rw [Function.update_self]
  exact hinside

theorem advance (hf : Freed key h w stages) (hx : Exclusion key w stages) {c : Caller}
    (hkey : c.key = key) (reply : Reply) {act : Act} {answer : act.Answer}
    (hadvance : c.Advance (stages i) act answer σ)
    (hx' : Exclusion key ((w.hearing reply).perform act).2 (Function.update stages i σ)) :
    Freed key (h ++ [(i, ⟨w.hearing reply, act⟩)]) ((w.hearing reply).perform act).2
      (Function.update stages i σ) := by
  cases hlocking : act.isLocking with
  | false =>
    have hlocks := w.locks_perform reply hlocking
    obtain ⟨-, hinside⟩ := hadvance.lock?_eq hlocking
    -- the first to authenticate is inside when it begins
    by_cases hact : act = .authentication
    · subst hact
      generalize hi : stages i = before at hadvance
      cases hadvance with
      | begins lock => exact of_inside hx' rfl rfl
    · exact hf.frame hact (fun _ => hlocks) hinside
  | true =>
    generalize hi : stages i = before at hadvance
    cases hadvance with
    | asks lock =>
      refine hf.frame (fun hact => by cases hact) (fun hne => ?_) (by rw [hi]; rfl)
      obtain ⟨lock', hlock'⟩ := Option.ne_none_iff_exists'.1 hne
      subst hkey
      show (w.cache.locks.obtain c.key).2 = w.cache.locks
      rw [LockTable.obtain_of_find? hlock']
    | enters lock => exact of_inside hx' rfl rfl
    | gives lock issued =>
      exact of_release (hx.hearing reply) (by rw [hi]; rfl) (by rw [hi]; rfl) _
    | givesUp lock failure =>
      exact of_release (hx.hearing reply) (by rw [hi]; rfl) (by rw [hi]; rfl) _
    | _ => cases hlocking

end Freed

/-! ## All callers together -/

/-- The catalogs that are made, in order. -/
def made (h : List (ι × Moment)) : List Issued := h.filterMap fun p => p.2.issued?

theorem made_append (h h' : List (ι × Moment)) : made (h ++ h') = made h ++ made h' :=
  List.filterMap_append

theorem made_singleton (i : ι) (m : Moment) : made [(i, m)] = m.issued?.toList := by
  unfold made
  rw [List.filterMap_cons]
  cases m.issued? <;> rfl

theorem length_made_pos {h : List (ι × Moment)} {p : ι × Moment} (hp : p ∈ h)
    (hip : p.2.issued? ≠ none) : 0 < (made h).length := by
  obtain ⟨issued, hsome⟩ := Option.ne_none_iff_exists'.1 hip
  exact List.length_pos_of_mem (List.mem_filterMap.2 ⟨p, hp, hsome⟩)

/-- Where at most one catalog is made, it is made at one moment. -/
theorem eq_of_made {h : List (ι × Moment)} (hlen : (made h).length ≤ 1) {p q : ι × Moment}
    (hp : p ∈ h) (hq : q ∈ h) (hip : p.2.issued? ≠ none) (hiq : q.2.issued? ≠ none) : p = q := by
  induction h with
  | nil => cases hp
  | cons r rest ih =>
    rw [← List.singleton_append, made_append, List.length_append] at hlen
    rcases List.mem_cons.1 hp with rfl | hp' <;> rcases List.mem_cons.1 hq with rfl | hq'
    · rfl
    · have hr := length_made_pos (List.mem_singleton_self p) hip
      have hrest := length_made_pos hq' hiq
      omega
    · have hr := length_made_pos (List.mem_singleton_self q) hiq
      have hrest := length_made_pos hp' hip
      omega
    · exact ih (Nat.le_trans (Nat.le_add_left _ _) hlen) hp' hq'

/-- **How things stand** with callers after some moments: where each of them
is, and that this fits with the lock and with the cache. -/
structure Order [DecidableEq ι] (callers : ι → Caller) (key : CacheKey) (w : Surroundings)
    (h : List (ι × Moment)) (s : Scene ι (Except Failure Issued)) (stages : ι → Stage) :
    Prop where
  courses : ∀ i, s.courses i = (callers i).remainder (stages i)
  trails : ∀ i, (callers i).Trail (stages i) (momentsOf i h)
  exclusion : Exclusion key s.world stages
  agreement : Agreement key ((w.lookup key).1.toList ++ made h) s.world stages
  freed : Freed key h s.world stages
  /-- Nobody authenticates if there was a catalog in the beginning. -/
  begun : Begun h → (w.lookup key).1 = none

variable [DecidableEq ι] {callers : ι → Caller} {h : List (ι × Moment)}
  {s s' : Scene ι (Except Failure Issued)}

theorem order_resolving (callers : ι → Caller) (key : CacheKey) (w : Surroundings) :
    Order callers key w [] (.resolving callers w) fun _ => .arriving where
  courses _ := rfl
  trails _ := .arrives
  exclusion := ⟨fun _ _ hlock => (by cases hlock), fun _ _ hin => absurd hin Bool.false_ne_true⟩
  agreement := by
    refine ⟨fun _ => trivial, fun issued hfound => ?_, fun hnone => Or.inl ?_⟩
    · show (w.lookup key).1.toList ++ [] = [issued]
      rw [show (w.lookup key).1 = some issued from hfound]
      rfl
    · show (w.lookup key).1.toList ++ [] = []
      rw [show (w.lookup key).1 = none from hnone]
      rfl
  freed hbegun := by
    obtain ⟨p, hp, -⟩ := hbegun
    exact absurd hp List.not_mem_nil
  begun hbegun := by
    obtain ⟨p, hp, -⟩ := hbegun
    exact absurd hp List.not_mem_nil

theorem Order.trail_concat (ho : Order callers key w h s stages) {m : Moment}
    (hm : (callers i).Advance (stages i) m.act m.answer σ) (j : ι) :
    (callers j).Trail (Function.update stages i σ j) (momentsOf j (h ++ [(i, m)])) := by
  rw [momentsOf_append]
  by_cases hj : j = i
  · subst hj
    rw [Function.update_self, momentsOf_own]
    exact .advances m (ho.trails j) hm
  · rw [Function.update_of_ne hj, momentsOf_foreign (fun hij => hj hij.symm), List.append_nil]
    exact ho.trails j

/-- Whoever begins to authenticate knows that there has been no catalog, not
even in the beginning. -/
theorem Order.none_before (ho : Order callers key w h s stages) {c : Caller} {answer : Unit}
    (hadvance : c.Advance (stages i) .authentication answer σ) : (w.lookup key).1 = none := by
  have hagrees := ho.agreement.agrees i
  generalize stages i = before at hadvance hagrees
  cases hadvance with
  | begins lock =>
    have hnil := (List.append_eq_nil_iff.1 hagrees.1).1
    cases hfound : (w.lookup key).1 with
    | none => rfl
    | some issued =>
      rw [hfound] at hnil
      cases hnil

/-- **Every step of the scene keeps the order.** -/
theorem Order.step (ho : Order callers key w h s stages) (hkey : ∀ i, (callers i).key = key)
    (hnever : ∀ i, (callers i).NeverProbes) {now : List (ι × Moment)} (hstep : s.Step now s')
    (hlasting : Surroundings.Lasting key s.world s'.world) :
    ∃ stages', Order callers key w (h ++ now) s' stages' := by
  cases hstep with
  | waits time =>
    rw [List.append_nil]
    exact ⟨stages, ho.courses, ho.trails, ⟨ho.exclusion.fits, ho.exclusion.alone⟩,
      ho.agreement.later hlasting, ho.freed, ho.begun⟩
  | @acts i act next reply hcourse hallows =>
    obtain ⟨σ, hadvance, hnext⟩ := Caller.advance_of_remainder (hnever i)
      ((ho.courses i).symm.trans hcourse) (Moment.answer ⟨s.world.hearing reply, act⟩)
    have hx := ho.exclusion.advance (hkey i) reply hadvance hallows rfl
    refine ⟨Function.update stages i σ, ?_, ho.trail_concat hadvance, hx, ?_,
      ho.freed.advance ho.exclusion (hkey i) reply hadvance hx, ?_⟩
    · intro j
      by_cases hj : j = i
      · subst hj
        show Function.update s.courses j _ j = _
        rw [Function.update_self, Function.update_self, hnext]
      · show Function.update s.courses i _ j = _
        rw [Function.update_of_ne hj, Function.update_of_ne hj]
        exact ho.courses j
    · rw [made_append, made_singleton, ← List.append_assoc]
      exact ho.agreement.advance ho.exclusion (hkey i) reply hadvance rfl hlasting
    · intro hbegun
      by_cases hact : act = .authentication
      · subst hact
        exact ho.none_before hadvance
      · exact ho.begun (begun_concat hact hbegun)

/-- **In every run there is an order.** -/
theorem exists_order (hkey : ∀ i, (callers i).key = key) (hnever : ∀ i, (callers i).NeverProbes)
    (hruns : (Scene.resolving callers w).Runs (Surroundings.Lasting key) h s) :
    ∃ stages, Order callers key w h s stages := by
  induction hruns with
  | stays => exact ⟨_, order_resolving callers key w⟩
  | goesOn hruns hstep hlasting ih =>
    obtain ⟨stages, ho⟩ := ih
    exact ho.step hkey hnever hstep hlasting

end CloudClient
