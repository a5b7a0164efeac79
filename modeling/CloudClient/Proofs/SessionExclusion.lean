import CloudClient.Catalog.Cache

/-!
# What the locks of sessions exclude

Threads that share a cache ask it for the lock of a session, take the lock,
give it back, and now and then somebody clears the cache. Asking for a lock and
taking it are two things, and a clear may come between them. This module says
for any number of threads, and whatever the order in which they do these things,
how far the locks keep them apart.

## Where it fails

Clearing a cache drops the locks that are free (`LockTable.sweep`), and a lock
that has been obtained but not yet taken is free. Whoever has obtained it takes
it all the same, while whoever asks after the clear is handed another one: two
threads hold locks of one session.

## What holds

There is no other way. If two threads hold locks of one session, one of them has
been `Overtaken`: the cache has been cleared after it had obtained its lock, while
nobody held that, and before it took it. On the other hand any thread to which
that happens can be joined by any other.

To tell who holds what, the deeds of the threads are written down, the last one
first (`Runs`); who holds a lock is read off them (`holder?`), and the table only
has to agree with that (`Orderly`).
-/

namespace CloudClient.SessionExclusion

variable {ι : Type}

/-- **What threads do** to the locks of a cache. -/
inductive Deed (ι : Type) where
  /-- Somebody asks for the lock of a session and is handed one. -/
  | obtains (who : ι) (session : Session) (lock : LockId)
  /-- Somebody takes a lock, which is free. -/
  | acquires (who : ι) (lock : LockId)
  /-- Somebody gives back a lock, which is held. -/
  | releases (who : ι) (lock : LockId)
  /-- Somebody clears the cache. -/
  | clears

/-- Whether somebody is handed a lock. -/
def Deed.handsOut : Deed ι → Bool
  | .obtains .. => true
  | _ => false

/-- Who holds a lock after some deeds, the last one first. -/
def holder? (lock : LockId) : List (Deed ι) → Option ι
  | [] => none
  | .acquires who taken :: earlier => if taken = lock then some who else holder? lock earlier
  | .releases _ given :: earlier => if given = lock then none else holder? lock earlier
  | .obtains .. :: earlier | .clears :: earlier => holder? lock earlier

/-- Somebody has been handed a lock for a session with the given key. -/
def Handed (deeds : List (Deed ι)) (who : ι) (key : CacheKey) (lock : LockId) : Prop :=
  ∃ session : Session, session.cacheKey = key ∧ .obtains who session lock ∈ deeds

/-- **Somebody holds a lock that it has been handed** for a session with the
given key. -/
structure Holds (deeds : List (Deed ι)) (who : ι) (key : CacheKey) (lock : LockId) : Prop where
  handed : Handed deeds who key lock
  holder : holder? lock deeds = some who

/-- **The deeds of threads that share a cache**, the last one first, with the
cache they have led to. A lock can be taken, and given back, by whoever has been
handed it. What happens to the catalogs in the meantime does not matter. -/
inductive Runs : CatalogCache → List (Deed ι) → Prop where
  | begins {c : CatalogCache} (hlocks : c.locks = .empty) : Runs c []
  | obtains {c : CatalogCache} {deeds : List (Deed ι)} (h : Runs c deeds) (who : ι)
      (session : Session) :
      Runs (c.sessionLock session.cacheKey).2
        (.obtains who session (c.sessionLock session.cacheKey).1 :: deeds)
  | acquires {c : CatalogCache} {deeds : List (Deed ι)} (h : Runs c deeds) {who : ι}
      {key : CacheKey} {lock : LockId} (hhanded : Handed deeds who key lock)
      (hfree : (c.acquire lock).1 = true) :
      Runs (c.acquire lock).2 (.acquires who lock :: deeds)
  | releases {c c' : CatalogCache} {deeds : List (Deed ι)} (h : Runs c deeds) {who : ι}
      {key : CacheKey} {lock : LockId} (hhanded : Handed deeds who key lock)
      (hgiven : c.release lock = .ok c') :
      Runs c' (.releases who lock :: deeds)
  | clears {c : CatalogCache} {deeds : List (Deed ι)} (h : Runs c deeds) :
      Runs c.clear (.clears :: deeds)
  | catalogs {c c' : CatalogCache} {deeds : List (Deed ι)} (h : Runs c deeds)
      (hlocks : c'.locks = c.locks) : Runs c' deeds

/-- **Somebody has taken its lock too late**: it had been handed the lock before
the cache was cleared, nobody held that then, and it took it afterwards. -/
def Overtaken (deeds : List (Deed ι)) (who : ι) (key : CacheKey) (lock : LockId) : Prop :=
  ∃ later between earlier,
    deeds = later ++ .acquires who lock :: (between ++ .clears :: earlier)
      ∧ Handed earlier who key lock ∧ holder? lock earlier = none

/-! ## What the table says, and what has been done -/

/-- A lock that has been handed out was dropped by a clear while it was free. -/
def Swept (deeds : List (Deed ι)) (who : ι) (key : CacheKey) (lock : LockId) : Prop :=
  ∃ later earlier, deeds = later ++ .clears :: earlier
    ∧ Handed earlier who key lock ∧ holder? lock earlier = none

/-- **The table agrees with what has been done.** -/
structure Orderly (t : LockTable) (deeds : List (Deed ι)) : Prop where
  /-- What is held is what has been taken and not given back. -/
  held : ∀ lock, t.isHeld lock = (holder? lock deeds).isSome
  /-- All locks are older than the next one. -/
  below : ∀ {key lock}, t.table.find? key = some lock → lock < t.next
  handed_below : ∀ {who key lock}, Handed deeds who key lock → lock < t.next
  /-- A lock that has been handed out is still that of its key, or was swept. -/
  current_or_swept : ∀ {who key lock}, Handed deeds who key lock →
    t.table.find? key = some lock ∨ Swept deeds who key lock
  /-- Whoever holds a lock has been handed it. -/
  handed_of_holder : ∀ {who lock}, holder? lock deeds = some who → ∃ key, Handed deeds who key lock

section Deeds

variable {deeds : List (Deed ι)} {who : ι} {key : CacheKey} {lock : LockId} {deed : Deed ι}

theorem not_handed_nil : ¬ Handed ([] : List (Deed ι)) who key lock := by
  rintro ⟨session, -, hmem⟩
  cases hmem

theorem Handed.cons (h : Handed deeds who key lock) (deed : Deed ι) :
    Handed (deed :: deeds) who key lock :=
  h.imp fun _ ⟨hkey, hmem⟩ => ⟨hkey, List.mem_cons_of_mem deed hmem⟩

theorem Swept.cons (h : Swept deeds who key lock) (deed : Deed ι) :
    Swept (deed :: deeds) who key lock := by
  obtain ⟨later, earlier, rfl, hhanded, hfree⟩ := h
  exact ⟨deed :: later, earlier, rfl, hhanded, hfree⟩

/-- Whoever has been handed a lock was handed it before, or just now. -/
theorem handed_cons (h : Handed (deed :: deeds) who key lock) :
    Handed deeds who key lock
      ∨ ∃ session : Session, session.cacheKey = key ∧ deed = .obtains who session lock := by
  obtain ⟨session, hkey, hmem⟩ := h
  rcases List.mem_cons.1 hmem with hdeed | hmem
  · exact .inr ⟨session, hkey, hdeed.symm⟩
  · exact .inl ⟨session, hkey, hmem⟩

/-- Nobody is handed a lock by anything but asking for one. -/
theorem Handed.of_cons (h : Handed (deed :: deeds) who key lock) (hdeed : deed.handsOut = false) :
    Handed deeds who key lock := by
  rcases handed_cons h with hhanded | ⟨session, -, rfl⟩
  · exact hhanded
  · cases hdeed

/-- Whoever comes to hold a lock has taken it. -/
theorem exists_acquires {later earlier : List (Deed ι)} (hfree : holder? lock earlier = none)
    (h : holder? lock (later ++ earlier) = some who) :
    ∃ front back, later = front ++ .acquires who lock :: back := by
  induction later with
  | nil =>
    rw [List.nil_append, hfree] at h
    cases h
  | cons deed later ih =>
    have hbefore (h : holder? lock (later ++ earlier) = some who) :
        ∃ front back, deed :: later = front ++ .acquires who lock :: back := by
      obtain ⟨front, back, rfl⟩ := ih h
      exact ⟨deed :: front, back, rfl⟩
    cases deed with
    | obtains other session lock' => exact hbefore h
    | clears => exact hbefore h
    | acquires other taken =>
      rw [List.cons_append, holder?] at h
      split at h
      · rename_i hlock
        cases h
        exact ⟨[], later, by rw [hlock]; rfl⟩
      · exact hbefore h
    | releases other given =>
      rw [List.cons_append, holder?] at h
      split at h
      · cases h
      · exact hbefore h

/-- **Whoever holds a swept lock took it after the sweep.** -/
theorem Holds.overtaken (h : Holds deeds who key lock) (hswept : Swept deeds who key lock) :
    Overtaken deeds who key lock := by
  obtain ⟨later, earlier, rfl, hhanded, hfree⟩ := hswept
  have hclear : holder? lock (.clears :: earlier) = none := hfree
  obtain ⟨front, back, rfl⟩ := exists_acquires hclear h.holder
  exact ⟨front, back, earlier, by rw [List.append_assoc]; rfl, hhanded, hfree⟩

end Deeds

/-! ## Each deed keeps them in agreement -/

namespace Orderly

variable {t t' : LockTable} {deeds : List (Deed ι)} {who : ι} {key : CacheKey} {lock : LockId}

theorem empty : Orderly .empty ([] : List (Deed ι)) where
  held := fun _ => rfl
  below := fun h => by cases h
  handed_below := fun h => absurd h not_handed_nil
  current_or_swept := fun h => absurd h not_handed_nil
  handed_of_holder := fun h => by cases h

/-- Asking for a lock may make a new one, which is the next. -/
theorem obtains (h : Orderly t deeds) (who : ι) (session : Session) :
    Orderly (t.obtain session.cacheKey).2
      (.obtains who session (t.obtain session.cacheKey).1 :: deeds) := by
  have hcurrent := t.find?_obtain session.cacheKey
  constructor
  case held => exact fun lock => (t.isHeld_obtain _ lock).trans (h.held lock)
  case below => exact LockTable.lt_next_obtain h.below
  case handed_below =>
    intro other key lock hhanded
    rcases handed_cons hhanded with hhanded | ⟨_, -, hdeed⟩
    · exact Nat.lt_of_lt_of_le (h.handed_below hhanded) (t.next_le_obtain _)
    · cases hdeed
      exact LockTable.lt_next_obtain h.below hcurrent
  case current_or_swept =>
    intro other key lock hhanded
    rcases handed_cons hhanded with hhanded | ⟨_, rfl, hdeed⟩
    · refine (h.current_or_swept hhanded).imp (fun hfind => ?_) fun hswept => hswept.cons _
      exact LockTable.find?_obtain_of_find? hfind _
    · cases hdeed
      exact .inl hcurrent
  case handed_of_holder =>
    exact fun hholder => (h.handed_of_holder hholder).imp fun _ hhanded => hhanded.cons _

/-- Taking and giving back change only who holds the lock. -/
theorem of_table (h : Orderly t deeds) {deed : Deed ι} (hdeed : deed.handsOut = false)
    (htable : t'.table = t.table) (hnext : t'.next = t.next)
    (hheld : ∀ lock, t'.isHeld lock = (holder? lock (deed :: deeds)).isSome)
    (hholder : ∀ {who lock}, holder? lock (deed :: deeds) = some who →
      ∃ key, Handed deeds who key lock) : Orderly t' (deed :: deeds) where
  held := hheld
  below := by
    rw [htable, hnext]
    exact h.below
  handed_below := by
    rw [hnext]
    exact fun hhanded => h.handed_below (hhanded.of_cons hdeed)
  current_or_swept := by
    rw [htable]
    exact fun hhanded => (h.current_or_swept (hhanded.of_cons hdeed)).imp_right
      fun hswept => hswept.cons _
  handed_of_holder := fun hwho => (hholder hwho).imp fun _ hhanded => hhanded.cons _

theorem acquires (h : Orderly t deeds) (hhanded : Handed deeds who key lock) :
    Orderly (t.acquire lock).2 (.acquires who lock :: deeds) := by
  refine h.of_table rfl (t.table_acquire lock) (t.next_acquire lock) (fun lock' => ?_) ?_
  · rw [LockTable.isHeld_acquire, h.held, holder?]
    split
    · rename_i hlock
      subst hlock
      rw [beq_self_eq_true, Bool.or_true]
      rfl
    · rename_i hlock
      rw [beq_false_of_ne hlock, Bool.or_false]
  · intro other lock' hother
    rw [holder?] at hother
    split at hother
    · rename_i hlock
      cases hother
      exact ⟨key, hlock ▸ hhanded⟩
    · exact h.handed_of_holder hother

theorem releases (h : Orderly t deeds) (hgiven : t.release lock = .ok t') (who : ι) :
    Orderly t' (.releases who lock :: deeds) := by
  obtain ⟨-, hafter⟩ := LockTable.release_eq_ok hgiven
  refine h.of_table rfl (by rw [hafter]) (by rw [hafter]) (fun lock' => ?_) ?_
  · rw [LockTable.isHeld_release hgiven, h.held, holder?]
    split
    · rename_i hlock
      subst hlock
      rw [bne_self_eq_false, Bool.and_false]
      rfl
    · rename_i hlock
      rw [bne_iff_ne.2 hlock, Bool.and_true]
  · intro other lock' hother
    rw [holder?] at hother
    split at hother
    · cases hother
    · exact h.handed_of_holder hother

/-- **A clear keeps the locks that are held.** All others are swept. -/
theorem clears (h : Orderly t deeds) : Orderly t.sweep (.clears :: deeds) := by
  constructor
  case held => exact h.held
  case below =>
    intro key lock hfind
    rw [LockTable.find?_sweep] at hfind
    exact h.below (Option.eq_some_of_filter_eq_some hfind)
  case handed_below => exact fun hhanded => h.handed_below (hhanded.of_cons rfl)
  case current_or_swept =>
    intro who key lock hhanded
    have hearlier := hhanded.of_cons rfl
    rcases h.current_or_swept hearlier with hfind | hswept
    · rw [LockTable.find?_sweep, hfind]
      cases hheld : t.isHeld lock with
      | true => exact .inl (Option.filter_some_pos hheld)
      | false =>
        refine .inr ⟨[], deeds, rfl, hearlier, ?_⟩
        rw [h.held] at hheld
        exact Option.not_isSome_iff_eq_none.1 (by simp [hheld])
    · exact .inr (hswept.cons _)
  case handed_of_holder =>
    exact fun hholder => (h.handed_of_holder hholder).imp fun _ hhanded => hhanded.cons _

end Orderly

/-- **Whatever threads do, the table agrees with it.** -/
theorem Runs.orderly {c : CatalogCache} {deeds : List (Deed ι)} (h : Runs c deeds) :
    Orderly c.locks deeds := by
  induction h with
  | begins hlocks =>
    rw [hlocks]
    exact .empty
  | obtains h who session ih => exact ih.obtains who session
  | acquires h hhanded hfree ih => exact ih.acquires hhanded
  | releases h hhanded hgiven ih =>
    obtain ⟨locks, hlocks, rfl⟩ := CatalogCache.release_eq_ok hgiven
    exact ih.releases hlocks _
  | clears h ih => exact ih.clears
  | catalogs h hlocks ih =>
    rw [hlocks]
    exact ih

/-! ## Two threads and one session -/

section Exclusion

variable {c : CatalogCache} {deeds : List (Deed ι)} {key : CacheKey} {i j : ι}
  {lock lock' : LockId}

/-- **Only a thread that was overtaken holds a lock beside another one.** -/
theorem Orderly.overtaken {t : LockTable} (h : Orderly t deeds) (hi : Holds deeds i key lock)
    (hj : Holds deeds j key lock') (hne : i ≠ j) :
    Overtaken deeds i key lock ∨ Overtaken deeds j key lock' := by
  rcases h.current_or_swept hi.handed with hcurrent | hswept
  · rcases h.current_or_swept hj.handed with hcurrent' | hswept
    · -- a key has one lock, and a lock has one holder
      have hlock : lock = lock' := Option.some.inj (hcurrent.symm.trans hcurrent')
      have hholder := hi.holder
      rw [hlock, hj.holder] at hholder
      exact absurd (Option.some.inj hholder).symm hne
    · exact .inr (hj.overtaken hswept)
  · exact .inl (hi.overtaken hswept)

theorem Orderly.isHeld_eq_false_iff {t : LockTable} (h : Orderly t deeds) :
    t.isHeld lock = false ↔ holder? lock deeds = none := by
  rw [h.held, Option.isSome_eq_false_iff, Option.isNone_iff_eq_none]

/-- Nobody holds the next lock. -/
theorem Orderly.holder?_next {t : LockTable} (h : Orderly t deeds) :
    holder? t.next deeds = none := by
  cases hholder : holder? t.next deeds with
  | none => rfl
  | some who =>
    obtain ⟨key, hhanded⟩ := h.handed_of_holder hholder
    exact absurd (h.handed_below hhanded) (Nat.lt_irrefl _)

/-- After a sweep a key whose lock was free gets the next one. -/
theorem Orderly.obtain_sweep {t : LockTable} (h : Orderly t deeds)
    (hcurrent : t.table.find? key = some lock) (hfree : holder? lock deeds = none) :
    (t.sweep.obtain key).1 = t.next := by
  have hheld := h.isHeld_eq_false_iff.2 hfree
  have hnone : t.sweep.table.find? key = none := by
    rw [LockTable.find?_sweep, hcurrent]
    exact Option.filter_some_neg (by simp [hheld])
  unfold LockTable.obtain
  rw [hnone]
  rfl

/-- **A clear keeps the lock of a key just if somebody holds it.** -/
theorem Orderly.sweep_obtain_iff {t : LockTable} (h : Orderly t deeds)
    (hcurrent : t.table.find? key = some lock) :
    (t.sweep.obtain key).1 = lock ↔ (holder? lock deeds).isSome = true := by
  cases hholder : holder? lock deeds with
  | none =>
    rw [h.obtain_sweep hcurrent hholder]
    exact ⟨fun heq => absurd heq (Nat.ne_of_gt (h.below hcurrent)), fun h => by cases h⟩
  | some who =>
    have hheld : t.isHeld lock = true := by rw [h.held, hholder]; rfl
    have hfind : t.sweep.table.find? key = some lock := by
      rw [LockTable.find?_sweep, hcurrent]
      exact Option.filter_some_pos hheld
    rw [LockTable.obtain_of_find? hfind]
    exact ⟨fun _ => rfl, fun _ => rfl⟩

/-- A lock that nobody holds can be taken by whoever has been handed it. -/
theorem Runs.takes (h : Runs c deeds) (hhanded : Handed deeds i key lock)
    (hfree : holder? lock deeds = none) : Runs (c.acquire lock).2 (.acquires i lock :: deeds) := by
  refine h.acquires hhanded ?_
  have hheld : c.locks.isHeld lock = false := h.orderly.isHeld_eq_false_iff.2 hfree
  show (c.locks.acquire lock).1 = true
  rw [LockTable.acquire_fst, hheld]
  rfl

/-- **A clear can set two threads side by side.** One has been handed the lock
of a key, which is free. Anybody who asks after the clear is handed another one;
and both can be taken. -/
theorem Runs.beside (h : Runs c deeds) (hhanded : Handed deeds i key lock)
    (hcurrent : c.locks.table.find? key = some lock) (hfree : holder? lock deeds = none) (j : ι) :
    ∃ c' later lock', Runs c' (later ++ .clears :: deeds)
      ∧ Holds (later ++ .clears :: deeds) i key lock
      ∧ Holds (later ++ .clears :: deeds) j key lock' := by
  obtain ⟨session, rfl, hmem⟩ := hhanded
  have hnext : (c.clear.sessionLock session.cacheKey).1 = c.locks.next :=
    h.orderly.obtain_sweep hcurrent hfree
  have hne : c.locks.next ≠ lock := Nat.ne_of_gt (h.orderly.below hcurrent)
  have hasked := h.clears.obtains j session
  rw [hnext] at hasked
  have hj : Handed (.obtains j session c.locks.next :: .clears :: deeds) j session.cacheKey
      c.locks.next := ⟨session, rfl, List.mem_cons_self⟩
  have hi : Handed (.obtains j session c.locks.next :: .clears :: deeds) i session.cacheKey lock :=
    Handed.cons (Handed.cons ⟨session, rfl, hmem⟩ _) _
  have htaken := hasked.takes hj h.orderly.holder?_next
  have hstill : holder? lock (.acquires j c.locks.next :: .obtains j session c.locks.next ::
      .clears :: deeds) = none := by
    rw [holder?, if_neg hne]
    exact hfree
  refine ⟨_, [.acquires i lock, .acquires j c.locks.next, .obtains j session c.locks.next],
    c.locks.next, htaken.takes (hi.cons _) hstill, ⟨(hi.cons _).cons _, if_pos rfl⟩,
    (hj.cons _).cons _, ?_⟩
  show (if lock = c.locks.next then some i else
    if c.locks.next = c.locks.next then some j else holder? c.locks.next deeds) = some j
  rw [if_neg (Ne.symm hne), if_pos rfl]

/-- **What the locks of sessions exclude.** Whatever threads do, and in whatever
order: when two of them hold locks for sessions of one key, one of them had been
handed its lock before a clear of the cache, nobody held it at the clear, and it
took it afterwards. A clear leaves a key its lock just if somebody holds that.
And if somebody has been handed the lock of a key which nobody holds, then after
a clear it can come to hold it together with anybody else who asks by then. -/
theorem exclusion_up_to_clear (h : Runs c deeds) :
    (∀ key i j lock lock', Holds deeds i key lock → Holds deeds j key lock' → i ≠ j →
      Overtaken deeds i key lock ∨ Overtaken deeds j key lock') ∧
    (∀ key lock, c.locks.table.find? key = some lock →
      ((c.clear.sessionLock key).1 = lock ↔ (holder? lock deeds).isSome = true)) ∧
    (∀ key i j lock, Handed deeds i key lock → c.locks.table.find? key = some lock →
      holder? lock deeds = none →
      ∃ c' later lock', Runs c' (later ++ .clears :: deeds) ∧
        Holds (later ++ .clears :: deeds) i key lock ∧
        Holds (later ++ .clears :: deeds) j key lock') := by
  refine ⟨fun key i j lock lock' hi hj hne => ?_, fun key lock hcurrent => ?_,
    fun key i j lock hhanded hcurrent hfree => ?_⟩
  · exact h.orderly.overtaken hi hj hne
  · exact h.orderly.sweep_obtain_iff hcurrent
  · exact h.beside hhanded hcurrent hfree j

end Exclusion

/-! ## Two threads side by side -/

def someSession : Session where
  endpoint := "https://cloud.example"
  account := "account"
  endpoint_not_blank := by decide

/-- The first thread has been handed a lock. -/
def oneAsked : List (Deed (Fin 2)) := [.obtains 0 someSession 0]

/-- Then the cache is cleared, the second thread asks, and both take what they
have been handed. -/
def sideBySide : List (Deed (Fin 2)) :=
  [.acquires 1 1, .acquires 0 0, .obtains 1 someSession 1, .clears] ++ oneAsked

theorem runs_oneAsked :
    Runs ((CatalogCache.empty 10).sessionLock someSession.cacheKey).2 oneAsked :=
  Runs.obtains (.begins rfl) 0 someSession

theorem holds_sideBySide :
    Holds sideBySide 0 someSession.cacheKey 0 ∧ Holds sideBySide 1 someSession.cacheKey 1 :=
  ⟨⟨⟨someSession, rfl, by simp [sideBySide, oneAsked]⟩, rfl⟩,
    ⟨⟨someSession, rfl, by simp [sideBySide]⟩, rfl⟩⟩

theorem exists_runs_sideBySide : ∃ c, Runs c sideBySide := by
  have hasked : Runs _ (.obtains 1 someSession 1 :: .clears :: oneAsked) :=
    runs_oneAsked.clears.obtains 1 someSession
  have htaken := hasked.takes (holds_sideBySide.1.handed.of_cons rfl |>.of_cons rfl) rfl
  exact ⟨_, htaken.takes (holds_sideBySide.2.handed.of_cons rfl) rfl⟩

/-- The first thread was overtaken, as it has to be. -/
theorem overtaken_sideBySide : ∃ c, Runs c sideBySide ∧
    Holds sideBySide 0 someSession.cacheKey 0 ∧ Holds sideBySide 1 someSession.cacheKey 1 ∧
    (Overtaken sideBySide 0 someSession.cacheKey 0 ∨
      Overtaken sideBySide 1 someSession.cacheKey 1) := by
  obtain ⟨c, hruns⟩ := exists_runs_sideBySide
  obtain ⟨hfirst, hsecond⟩ := holds_sideBySide
  exact ⟨c, hruns, hfirst, hsecond,
    (exclusion_up_to_clear hruns).1 _ 0 1 0 1 hfirst hsecond (by decide)⟩

/-- **Locks of one session do not always exclude each other.** -/
theorem not_exclusive : ¬ ∀ (c : CatalogCache) (deeds : List (Deed (Fin 2))), Runs c deeds →
    ∀ key i j lock lock', Holds deeds i key lock → Holds deeds j key lock' → i = j := by
  intro hexclusive
  obtain ⟨c, hruns⟩ := exists_runs_sideBySide
  obtain ⟨hfirst, hsecond⟩ := holds_sideBySide
  exact absurd (hexclusive c sideBySide hruns _ 0 1 0 1 hfirst hsecond) (by decide)

end CloudClient.SessionExclusion
