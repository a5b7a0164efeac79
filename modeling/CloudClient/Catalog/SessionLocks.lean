import CloudClient.Session

/-!
# Session locks

Concurrent calls of one session must not authenticate side by side, so each
key of a cache has a lock, made when it is first asked for. A lock is a thing
of its own, with a number that no other lock has: whoever has obtained one
may take it later, whatever has become of the table in between. So the table,
which says what lock a key has *now*, and the locks that are held are kept
apart.

Sweeping the table drops the locks that are free at that moment. A lock that
has been obtained but not yet taken is free.
-/

namespace CloudClient

/-- What tells one lock from another. -/
abbrev LockId := Nat

/-- The locks of the sessions of a cache. -/
structure LockTable where
  /-- The lock of each key. -/
  table : OrderedMap CacheKey LockId
  /-- The locks that are held. -/
  held : List LockId
  /-- The number of the next lock. -/
  next : LockId

namespace LockTable

/-- No locks. -/
def empty : LockTable := ⟨.empty, [], 0⟩

/-- The lock of a key, made if there is none. -/
def obtain (t : LockTable) (key : CacheKey) : LockId × LockTable :=
  match t.table.find? key with
  | some lock => (lock, t)
  | none => (t.next, { t with table := t.table.put key t.next, next := t.next + 1 })

/-- Whether a lock is held. -/
def isHeld (t : LockTable) (lock : LockId) : Bool := t.held.contains lock

/-- Takes a lock if it is free; says whether it was. -/
def acquire (t : LockTable) (lock : LockId) : Bool × LockTable :=
  if t.isHeld lock then (false, t) else (true, { t with held := lock :: t.held })

/-- Gives a lock back. -/
def release (t : LockTable) (lock : LockId) : Except Defect LockTable :=
  if t.isHeld lock then .ok { t with held := t.held.filter (· != lock) }
  else .error .lockNotHeld

/-- The table without the locks that are free. -/
def sweep (t : LockTable) : LockTable :=
  { t with table := t.table.filter fun e => t.isHeld e.2 }

/-! ## What becomes of the locks -/

theorem isHeld_iff {t : LockTable} {lock : LockId} : t.isHeld lock = true ↔ lock ∈ t.held :=
  List.contains_iff_mem

/-- The lock that a key has already is the one that is obtained. -/
theorem obtain_of_find? {t : LockTable} {key : CacheKey} {lock : LockId}
    (h : t.table.find? key = some lock) : t.obtain key = (lock, t) := by
  rw [obtain, h]

/-- The lock that is obtained is the one that the key has from then on. -/
theorem find?_obtain (t : LockTable) (key : CacheKey) :
    (t.obtain key).2.table.find? key = some (t.obtain key).1 := by
  unfold obtain
  cases h : t.table.find? key with
  | some lock => exact h
  | none =>
    show (t.table.put key t.next).find? key = some t.next
    rw [OrderedMap.find?_put, if_pos BEq.rfl]

/-- Nothing is taken when a lock is asked for. -/
@[simp] theorem isHeld_obtain (t : LockTable) (key : CacheKey) (lock : LockId) :
    (t.obtain key).2.isHeld lock = t.isHeld lock := by
  unfold obtain
  cases t.table.find? key <;> rfl

theorem next_le_obtain (t : LockTable) (key : CacheKey) : t.next ≤ (t.obtain key).2.next := by
  unfold obtain
  cases t.table.find? key with
  | some lock => exact Nat.le_refl _
  | none => exact Nat.le_succ _

/-- If all locks are older than the next one, they are so after a new one. -/
theorem lt_next_obtain {t : LockTable}
    (h : ∀ {key lock}, t.table.find? key = some lock → lock < t.next) {key key' : CacheKey}
    {lock : LockId} (hfind : (t.obtain key).2.table.find? key' = some lock) :
    lock < (t.obtain key).2.next := by
  unfold obtain at hfind ⊢
  cases hfound : t.table.find? key with
  | some found =>
    rw [hfound] at hfind
    exact h hfind
  | none =>
    rw [hfound] at hfind
    have hput : (t.table.put key t.next).find? key' = some lock := hfind
    rw [OrderedMap.find?_put] at hput
    split at hput
    · cases hput
      exact Nat.lt_succ_self t.next
    · exact Nat.lt_succ_of_lt (h hput)

/-- Asking for a lock takes none away from its key. -/
theorem find?_obtain_of_find? {t : LockTable} {key' : CacheKey} {lock : LockId}
    (h : t.table.find? key' = some lock) (key : CacheKey) :
    (t.obtain key).2.table.find? key' = some lock := by
  cases hfound : t.table.find? key with
  | some found =>
    rw [obtain_of_find? hfound]
    exact h
  | none =>
    have hne : key ≠ key' := fun hkey => by
      rw [hkey, h] at hfound
      cases hfound
    show (t.obtain key).2.table.find? key' = some lock
    unfold obtain
    rw [hfound]
    show (t.table.put key t.next).find? key' = some lock
    rw [OrderedMap.find?_put, if_neg (by simp [hne])]
    exact h

/-- A lock can be taken if it is free. -/
theorem acquire_fst (t : LockTable) (lock : LockId) : (t.acquire lock).1 = !t.isHeld lock := by
  unfold acquire
  cases t.isHeld lock <;> rfl

@[simp] theorem table_acquire (t : LockTable) (lock : LockId) :
    (t.acquire lock).2.table = t.table := by
  unfold acquire
  cases t.isHeld lock <;> rfl

@[simp] theorem next_acquire (t : LockTable) (lock : LockId) :
    (t.acquire lock).2.next = t.next := by
  unfold acquire
  cases t.isHeld lock <;> rfl

theorem isHeld_acquire_self (t : LockTable) (lock : LockId) :
    (t.acquire lock).2.isHeld lock = true := by
  unfold acquire
  cases h : t.isHeld lock with
  | true => exact h
  | false => exact isHeld_iff.2 List.mem_cons_self

theorem isHeld_acquire_of_isHeld {t : LockTable} {lock' : LockId} (h : t.isHeld lock' = true)
    (lock : LockId) : (t.acquire lock).2.isHeld lock' = true := by
  unfold acquire
  cases t.isHeld lock with
  | true => exact h
  | false => exact isHeld_iff.2 (List.mem_cons_of_mem lock (isHeld_iff.1 h))

/-- A lock that is held can be given back, and is free then. -/
theorem release_of_isHeld {t : LockTable} {lock : LockId} (h : t.isHeld lock = true) :
    t.release lock = .ok { t with held := t.held.filter (· != lock) } :=
  if_pos h

/-- Only a lock that is held can be given back. -/
theorem release_eq_ok {t t' : LockTable} {lock : LockId} (h : t.release lock = .ok t') :
    t.isHeld lock = true ∧ t' = { t with held := t.held.filter (· != lock) } := by
  unfold release at h
  cases hheld : t.isHeld lock with
  | true =>
    rw [hheld, if_pos rfl] at h
    cases h
    exact ⟨rfl, rfl⟩
  | false =>
    rw [hheld] at h
    cases h

/-- Taking a lock makes it held, and no other. -/
theorem isHeld_acquire (t : LockTable) (lock lock' : LockId) :
    (t.acquire lock).2.isHeld lock' = (t.isHeld lock' || lock == lock') := by
  by_cases hlock : lock = lock'
  · subst hlock
    rw [isHeld_acquire_self, beq_self_eq_true, Bool.or_true]
  · rw [beq_false_of_ne hlock, Bool.or_false]
    unfold acquire
    cases t.isHeld lock with
    | true => rfl
    | false => simp [isHeld, Ne.symm hlock]

/-- A key has its lock after a sweep if that is held, and none otherwise. -/
theorem find?_sweep (t : LockTable) (key : CacheKey) :
    t.sweep.table.find? key = (t.table.find? key).filter t.isHeld :=
  OrderedMap.find?_filter t.table t.isHeld key

theorem isHeld_filter_ne (t : LockTable) (lock : LockId) :
    LockTable.isHeld { t with held := t.held.filter (· != lock) } lock = false := by
  simp [isHeld]

/-- Giving a lock back makes it free, and no other. -/
theorem isHeld_release {t t' : LockTable} {lock : LockId} (h : t.release lock = .ok t')
    (lock' : LockId) : t'.isHeld lock' = (t.isHeld lock' && lock != lock') := by
  obtain ⟨-, rfl⟩ := release_eq_ok h
  by_cases hlock : lock = lock'
  · subst hlock
    rw [isHeld_filter_ne, bne_self_eq_false, Bool.and_false]
  · simp [isHeld, bne, hlock, Ne.symm hlock]

end LockTable

end CloudClient
