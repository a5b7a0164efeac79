import CloudClient.Catalog
import CloudClient.Catalog.SessionLocks

/-!
# The catalog cache

A cache keeps the catalog of each session key with the moment it was stored.
An entry older than the time to live counts as absent, and is dropped by the
operation that notices: looking it up, or counting the entries. One exactly
as old as that is still good.

## Which catalog

Two catalogs of equal content are still two catalogs: when a call finds its
token rejected it removes the catalog *it used*, and must not remove one that
somebody else has stored in the meantime. So the cache holds `Issued`
catalogs, which carry the number of their making, and
`CatalogCache.invalidate` with an expectation compares these numbers.

Time is a number of milliseconds and comes from outside with each operation,
as does all else, so each operation is a function on caches. What the
operations do is said by their laws: what becomes of the entry of each key
(`CatalogCache.stored?`), and which locks there are.
-/

namespace CloudClient

/-- A catalog with the number of its making. -/
structure Issued where
  /-- What tells this catalog from every other. -/
  serial : Nat
  /-- The catalog. -/
  catalog : Catalog

/-- A stored catalog. -/
structure CatalogCache.Entry where
  value : Issued
  /-- When it was stored. -/
  storedAt : Int

/-- The catalogs of sessions. -/
structure CatalogCache where
  /-- The stored catalog of each key. -/
  entries : OrderedMap CacheKey CatalogCache.Entry
  /-- How long an entry is good. -/
  ttl : Int
  /-- The locks of the sessions. -/
  locks : LockTable

namespace CatalogCache

/-- How long an entry is good unless the cache says otherwise: a day. -/
def defaultTtl : Int := 24 * 60 * 60 * 1000

/-- The cache without entries. -/
def empty (ttl : Int) : CatalogCache := ⟨.empty, ttl, .empty⟩

/-- Whether an entry is too old. -/
def isExpired (c : CatalogCache) (now : Int) (e : CatalogCache.Entry) : Bool :=
  decide (c.ttl < now - e.storedAt)

/-- The catalog of a key, unless it is too old; then it is dropped. -/
def lookup (c : CatalogCache) (now : Int) (key : CacheKey) : Option Issued × CatalogCache :=
  match c.entries.find? key with
  | none => (none, c)
  | some e =>
    if c.isExpired now e then (none, { c with entries := c.entries.erase key })
    else (some e.value, c)

/-- Stores a catalog under a key, in the place of the one there. -/
def store (c : CatalogCache) (now : Int) (key : CacheKey) (value : Issued) : CatalogCache :=
  { c with entries := c.entries.put key ⟨value, now⟩ }

/-- Whether a stored catalog is the expected one; without an expectation any
is. -/
def isExpected (expected : Option Issued) (e : CatalogCache.Entry) : Bool :=
  match expected with
  | none => true
  | some i => i.serial == e.value.serial

/-- Removes the catalog of a key if it is the expected one; says whether it
did. -/
def invalidate (c : CatalogCache) (key : CacheKey) (expected : Option Issued) :
    Bool × CatalogCache :=
  match c.entries.find? key with
  | none => (false, c)
  | some e =>
    if isExpected expected e then (true, { c with entries := c.entries.erase key })
    else (false, c)

/-- Removes all catalogs, and the locks that are free. -/
def clear (c : CatalogCache) : CatalogCache :=
  { c with entries := .empty, locks := c.locks.sweep }

/-- How many catalogs there are; those too old are dropped. -/
def count (c : CatalogCache) (now : Int) : Nat × CatalogCache :=
  let good := c.entries.filter fun e => !c.isExpired now e.2
  (good.entries.length, { c with entries := good })

/-- The lock of a key. -/
def sessionLock (c : CatalogCache) (key : CacheKey) : LockId × CatalogCache :=
  let obtained := c.locks.obtain key
  (obtained.1, { c with locks := obtained.2 })

/-- Takes a lock if it is free. -/
def acquire (c : CatalogCache) (lock : LockId) : Bool × CatalogCache :=
  let taken := c.locks.acquire lock
  (taken.1, { c with locks := taken.2 })

/-- Gives a lock back. -/
def release (c : CatalogCache) (lock : LockId) : Except Defect CatalogCache :=
  (c.locks.release lock).map fun locks => { c with locks := locks }

/-! ## What becomes of the entries -/

/-- The entry of a key, whatever its age. -/
def stored? (c : CatalogCache) (key : CacheKey) : Option Entry := c.entries.find? key

/-- Whether an entry is still good. -/
def isFresh (c : CatalogCache) (now : Int) (e : Entry) : Bool := !c.isExpired now e

theorem isFresh_iff (c : CatalogCache) (now : Int) (e : Entry) :
    c.isFresh now e = true ↔ now - e.storedAt ≤ c.ttl := by
  simp [isFresh, isExpired]

/-- Only the time to live says how old a good entry may be. -/
theorem isFresh_congr {c c' : CatalogCache} (h : c'.ttl = c.ttl) (now : Int) :
    c'.isFresh now = c.isFresh now := by
  funext e
  rw [isFresh, isFresh, isExpired, isExpired, h]

@[simp] theorem stored?_empty (ttl : Int) (key : CacheKey) : (empty ttl).stored? key = none := rfl

/-- Looking up a key gives what is stored there and still good. -/
theorem lookup_fst (c : CatalogCache) (now : Int) (key : CacheKey) :
    (c.lookup now key).1 = ((c.stored? key).filter (c.isFresh now)).map Entry.value := by
  unfold lookup stored? isFresh
  cases c.entries.find? key with
  | none => rfl
  | some e => by_cases h : c.isExpired now e <;> simp [h, Option.filter]

theorem stored?_lookup (c : CatalogCache) (now : Int) (key key' : CacheKey) :
    (c.lookup now key).2.stored? key'
      = if key = key' then (c.stored? key').filter (c.isFresh now) else c.stored? key' := by
  unfold lookup stored? isFresh
  cases h : c.entries.find? key with
  | none =>
    by_cases hk : key = key'
    · subst hk
      simp [h]
    · simp [hk]
  | some e =>
    by_cases he : c.isExpired now e <;> by_cases hk : key = key'
    · subst hk
      simp [h, he, OrderedMap.find?_erase, Option.filter]
    · simp [he, hk, OrderedMap.find?_erase]
    · subst hk
      simp [h, he, Option.filter]
    · simp [he, hk]

theorem stored?_store (c : CatalogCache) (now : Int) (key key' : CacheKey) (value : Issued) :
    (c.store now key value).stored? key' = if key = key' then some ⟨value, now⟩ else c.stored? key' := by
  unfold store stored?
  rw [OrderedMap.find?_put]
  simp

theorem stored?_invalidate (c : CatalogCache) (key key' : CacheKey) (expected : Option Issued) :
    (c.invalidate key expected).2.stored? key'
      = if key = key' then (c.stored? key').filter fun e => !isExpected expected e
        else c.stored? key' := by
  unfold invalidate stored?
  cases h : c.entries.find? key with
  | none =>
    by_cases hk : key = key'
    · subst hk
      simp [h]
    · simp [hk]
  | some e =>
    by_cases he : isExpected expected e <;> by_cases hk : key = key'
    · subst hk
      simp [h, he, OrderedMap.find?_erase, Option.filter]
    · simp [he, hk, OrderedMap.find?_erase]
    · subst hk
      simp [h, he, Option.filter]
    · simp [he, hk]

@[simp] theorem stored?_clear (c : CatalogCache) (key : CacheKey) : c.clear.stored? key = none := rfl

theorem stored?_count (c : CatalogCache) (now : Int) (key : CacheKey) :
    (c.count now).2.stored? key = (c.stored? key).filter (c.isFresh now) :=
  OrderedMap.find?_filter c.entries (c.isFresh now) key

@[simp] theorem stored?_sessionLock (c : CatalogCache) (key key' : CacheKey) :
    (c.sessionLock key).2.stored? key' = c.stored? key' := rfl

@[simp] theorem stored?_acquire (c : CatalogCache) (lock : LockId) (key : CacheKey) :
    (c.acquire lock).2.stored? key = c.stored? key := rfl

/-! ## What stays as it is -/

@[simp] theorem ttl_lookup (c : CatalogCache) (now : Int) (key : CacheKey) :
    (c.lookup now key).2.ttl = c.ttl := by
  unfold lookup
  cases c.entries.find? key with
  | none => rfl
  | some e => by_cases h : c.isExpired now e <;> simp [h]

@[simp] theorem ttl_store (c : CatalogCache) (now : Int) (key : CacheKey) (value : Issued) :
    (c.store now key value).ttl = c.ttl := rfl

@[simp] theorem ttl_invalidate (c : CatalogCache) (key : CacheKey) (expected : Option Issued) :
    (c.invalidate key expected).2.ttl = c.ttl := by
  unfold invalidate
  cases c.entries.find? key with
  | none => rfl
  | some e => by_cases h : isExpected expected e <;> simp [h]

@[simp] theorem ttl_clear (c : CatalogCache) : c.clear.ttl = c.ttl := rfl

@[simp] theorem ttl_count (c : CatalogCache) (now : Int) : (c.count now).2.ttl = c.ttl := rfl

@[simp] theorem ttl_sessionLock (c : CatalogCache) (key : CacheKey) :
    (c.sessionLock key).2.ttl = c.ttl := rfl

@[simp] theorem ttl_acquire (c : CatalogCache) (lock : LockId) : (c.acquire lock).2.ttl = c.ttl := rfl

@[simp] theorem locks_lookup (c : CatalogCache) (now : Int) (key : CacheKey) :
    (c.lookup now key).2.locks = c.locks := by
  unfold lookup
  cases c.entries.find? key with
  | none => rfl
  | some e => by_cases h : c.isExpired now e <;> simp [h]

@[simp] theorem locks_invalidate (c : CatalogCache) (key : CacheKey) (expected : Option Issued) :
    (c.invalidate key expected).2.locks = c.locks := by
  unfold invalidate
  cases c.entries.find? key with
  | none => rfl
  | some e => by_cases h : isExpected expected e <;> simp [h]

@[simp] theorem locks_store (c : CatalogCache) (now : Int) (key : CacheKey) (value : Issued) :
    (c.store now key value).locks = c.locks := rfl

/-- Giving a lock back is a matter of the locks alone. -/
theorem release_eq_ok {c c' : CatalogCache} {lock : LockId} (h : c.release lock = .ok c') :
    ∃ locks, c.locks.release lock = .ok locks ∧ c' = { c with locks := locks } := by
  unfold release at h
  cases hlocks : c.locks.release lock with
  | error defect =>
    rw [hlocks] at h
    cases h
  | ok locks =>
    rw [hlocks] at h
    cases h
    exact ⟨locks, rfl, rfl⟩

end CatalogCache

end CloudClient
