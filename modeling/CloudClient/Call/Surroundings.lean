import CloudClient.Catalog.Cache
import CloudClient.Http.Conversation
import CloudClient.Number.Binary64

/-!
# What surrounds a call

A call meets things that it does not decide: how the other side replies, what
the clock and the random generator say, what the cache holds, and what other
calls do to the cache while a request of this one is on its way. All of that
is in `Surroundings`, and a call is a function of them that gives its result
and the surroundings it leaves.

Each reply that is still to come is a `Turn`: the reply, what others store in
the cache meanwhile, and how much time goes by. That is the only time that
goes by within a call, since nothing looks at the clock between a pause and
the request after it; a pause itself is recorded and not waited for. Between
calls the clock may be moved at will.

## What is recorded

Whatever a call does outwardly is an `Event`, in order: an exchange with the
other side, a pause, a draw of a random number, the beginning of an
authentication. An exchange says for what it was made, and a call of a
resource or a probe with which catalog, so that statements on a call can be
read off its events.
-/

namespace CloudClient

/-- A reply still to come. -/
structure Turn where
  reply : Reply
  /-- What others store in the cache while the request is on its way. -/
  meanwhile : List (CacheKey × Issued) := []
  /-- How many milliseconds go by until they do. -/
  lead : Nat := 0
  /-- How many milliseconds go by from then until the reply. -/
  rest : Nat := 0

/-- For what an exchange is made. -/
inductive Origin where
  /-- To authenticate. -/
  | authentication
  /-- To find out whether the token of a catalog is still good. -/
  | probe (used : Issued)
  /-- To call a resource with a catalog. -/
  | resource (used : Issued)

/-- Something that a call does outwardly. -/
inductive Event where
  | exchange (origin : Origin) (request : Request) (reply : Reply)
  | pause (delay : Binary64)
  | draw (value : Binary64)
  /-- An authentication begins. -/
  | authentication

/-- The random numbers still to come. -/
structure Draws where
  /-- The numbers; the last one repeats. -/
  numbers : List Binary64

namespace Draws

/-- One half, which is drawn when there are no numbers. -/
def half : Binary64 := .ofRatio false 1 2

/-- The next number. -/
def head (d : Draws) : Binary64 := d.numbers.head?.getD half

/-- The numbers after the next. -/
def tail (d : Draws) : Draws :=
  match d.numbers with
  | _ :: b :: more => ⟨b :: more⟩
  | numbers => ⟨numbers⟩

end Draws

/-- What surrounds a call. -/
structure Surroundings where
  /-- The replies still to come. -/
  script : List Turn
  /-- The random numbers still to come. -/
  draws : Draws
  /-- The cache of catalogs. -/
  cache : CatalogCache
  /-- What the clock says, in milliseconds. -/
  now : Int
  /-- The number of the next catalog that is made. -/
  nextSerial : Nat
  /-- What has been done outwardly, in order. -/
  events : List Event

namespace Surroundings

/-- The surroundings with one more event. -/
def note (w : Surroundings) (e : Event) : Surroundings := { w with events := w.events ++ [e] }

/-- The cache after what others store. -/
def storeAll (now : Int) (stores : List (CacheKey × Issued)) (c : CatalogCache) : CatalogCache :=
  stores.foldl (fun c s => c.store now s.1 s.2) c

/-- A request is sent; its reply, and the surroundings by then. -/
def send (w : Surroundings) (origin : Origin) (request : Request) : Reply × Surroundings :=
  match w.script with
  | [] => (.silence, w.note (.exchange origin request .silence))
  | turn :: more =>
    (turn.reply,
      { w with
        script := more
        cache := storeAll (w.now + turn.lead) turn.meanwhile w.cache
        now := w.now + turn.lead + turn.rest }.note (.exchange origin request turn.reply))

@[simp] theorem nextSerial_send (w : Surroundings) (origin : Origin) (request : Request) :
    (w.send origin request).2.nextSerial = w.nextSerial := by
  unfold send
  cases w.script <;> rfl

/-- A reply that has come is no longer to come. -/
theorem script_send (w : Surroundings) (origin : Origin) (request : Request) :
    (w.send origin request).2.script = w.script.tail := by
  unfold send
  cases h : w.script with
  | nil => exact h
  | cons turn more => rfl

/-- A pause. -/
def pause (w : Surroundings) (delay : Binary64) : Surroundings := w.note (.pause delay)

/-- A random number is drawn. -/
def draw (w : Surroundings) : Binary64 × Surroundings :=
  (w.draws.head, { w with draws := w.draws.tail }.note (.draw w.draws.head))

/-- A catalog gets its number. -/
def issue (w : Surroundings) (c : Catalog) : Issued × Surroundings :=
  (⟨w.nextSerial, c⟩, { w with nextSerial := w.nextSerial + 1 })

/-- The catalog of a key in the cache. -/
def lookup (w : Surroundings) (key : CacheKey) : Option Issued × Surroundings :=
  let found := w.cache.lookup w.now key
  (found.1, { w with cache := found.2 })

/-- A catalog is stored under a key. -/
def store (w : Surroundings) (key : CacheKey) (value : Issued) : Surroundings :=
  { w with cache := w.cache.store w.now key value }

/-- The catalog of a key is removed if it is the given one. -/
def invalidate (w : Surroundings) (key : CacheKey) (value : Issued) : Surroundings :=
  { w with cache := (w.cache.invalidate key (some value)).2 }

/-- The lock of a key. -/
def sessionLock (w : Surroundings) (key : CacheKey) : LockId × Surroundings :=
  let obtained := w.cache.sessionLock key
  (obtained.1, { w with cache := obtained.2 })

/-- A lock is taken. A call that is made alone finds it free. -/
def acquire (w : Surroundings) (lock : LockId) : Surroundings :=
  { w with cache := (w.cache.acquire lock).2 }

/-- A lock is given back. -/
def release (w : Surroundings) (lock : LockId) : Surroundings :=
  match w.cache.release lock with
  | .ok cache => { w with cache := cache }
  | .error _ => w

/-- The surroundings of whoever has just taken the lock of a key. -/
def locked (w : Surroundings) (key : CacheKey) : Surroundings :=
  (w.sessionLock key).2.acquire (w.sessionLock key).1

/-! ## What a lookup gives -/

/-- Looking up a key gives what is stored there and still good. -/
theorem lookup_fst (w : Surroundings) (key : CacheKey) :
    (w.lookup key).1 = ((w.cache.stored? key).filter (w.cache.isFresh w.now)).map (·.value) :=
  CatalogCache.lookup_fst w.cache w.now key

/-- Locks have nothing to do with it. -/
@[simp] theorem lookup_locked_fst (w : Surroundings) (key key' : CacheKey) :
    ((w.locked key').lookup key).1 = (w.lookup key).1 := by
  rw [lookup_fst, lookup_fst]
  rfl

/-- Where nothing is stored nothing is found. -/
theorem lookup_eq_none {w : Surroundings} {key : CacheKey} (h : w.cache.stored? key = none) :
    (w.lookup key).1 = none := by
  rw [lookup_fst, h]
  rfl

/-! ## What becomes of the entries -/

/-- What others store is what they store last under a key, or nothing. -/
theorem stored?_storeAll (key : CacheKey) (now : Int) (stores : List (CacheKey × Issued)) (c : CatalogCache) :
    (storeAll now stores c).stored? key = c.stored? key
      ∨ ∃ value, (key, value) ∈ stores
        ∧ (storeAll now stores c).stored? key = some ⟨value, now⟩ := by
  induction stores generalizing c with
  | nil => exact .inl rfl
  | cons s more ih =>
    obtain ⟨k, stored⟩ := s
    show (storeAll now more (c.store now k stored)).stored? key = _ ∨ _
    rcases ih (c.store now k stored) with h | ⟨value, hmem, h⟩
    · rw [CatalogCache.stored?_store] at h
      by_cases hk : k = key
      · subst hk
        rw [if_pos rfl] at h
        exact .inr ⟨stored, List.mem_cons_self, h⟩
      · rw [if_neg hk] at h
        exact .inl h
    · exact .inr ⟨value, List.mem_cons_of_mem _ hmem, h⟩

theorem stored?_lookup (w : Surroundings) (key key' : CacheKey) :
    (w.lookup key).2.cache.stored? key'
      = if key = key' then (w.cache.stored? key').filter (w.cache.isFresh w.now)
        else w.cache.stored? key' :=
  CatalogCache.stored?_lookup w.cache w.now key key'

/-- What is looked up in vain is not stored any more. -/
theorem stored?_lookup_eq_none {w : Surroundings} {key : CacheKey}
    (h : (w.lookup key).1 = none) : (w.lookup key).2.cache.stored? key = none := by
  rw [stored?_lookup, if_pos rfl]
  rw [lookup_fst, Option.map_eq_none_iff] at h
  exact h

theorem stored?_invalidate (w : Surroundings) (key : CacheKey) (used : Issued) (key' : CacheKey) :
    (w.invalidate key used).cache.stored? key'
      = if key = key' then
          (w.cache.stored? key').filter fun e => !CatalogCache.isExpected (some used) e
        else w.cache.stored? key' :=
  CatalogCache.stored?_invalidate w.cache key key' (some used)

theorem stored?_store (w : Surroundings) (key : CacheKey) (value : Issued) (key' : CacheKey) :
    (w.store key value).cache.stored? key'
      = if key = key' then some ⟨value, w.now⟩ else w.cache.stored? key' :=
  CatalogCache.stored?_store w.cache w.now key key' value

/-- Giving back a lock changes no entry. -/
theorem stored?_release (w : Surroundings) (key : CacheKey) (lock : LockId) :
    (w.release lock).cache.stored? key = w.cache.stored? key := by
  unfold release CatalogCache.release
  cases w.cache.locks.release lock with
  | error defect => rfl
  | ok locks => rfl

theorem now_release (w : Surroundings) (lock : LockId) : (w.release lock).now = w.now := by
  unfold release
  cases w.cache.release lock <;> rfl

theorem ttl_release (w : Surroundings) (lock : LockId) :
    (w.release lock).cache.ttl = w.cache.ttl := by
  unfold release CatalogCache.release
  cases w.cache.locks.release lock <;> rfl

/-! ## What becomes of the locks -/

/-- Giving a lock back does not change what lock a key has. -/
theorem table_release (w : Surroundings) (lock : LockId) :
    (w.release lock).cache.locks.table = w.cache.locks.table := by
  unfold Surroundings.release CatalogCache.release LockTable.release
  cases w.cache.locks.isHeld lock <;> rfl

/-- A lock that is held can be given back. -/
theorem locks_release {w : Surroundings} {lock : LockId} (h : w.cache.locks.isHeld lock = true) :
    (w.release lock).cache.locks
      = { w.cache.locks with held := w.cache.locks.held.filter (· != lock) } := by
  unfold Surroundings.release CatalogCache.release
  rw [LockTable.release_of_isHeld h]
  rfl

/-! ## Views of the events -/

/-- The requests that have been sent. -/
def requests (w : Surroundings) : List Request :=
  w.events.filterMap fun
    | .exchange _ request _ => some request
    | _ => none

/-- The pauses that have been made. -/
def pauses (w : Surroundings) : List Binary64 :=
  w.events.filterMap fun
    | .pause delay => some delay
    | _ => none

/-- How many random numbers have been drawn. -/
def drawCount (w : Surroundings) : Nat :=
  w.events.countP fun
    | .draw _ => true
    | _ => false

/-- How many authentications have begun. -/
def authenticationCount (w : Surroundings) : Nat :=
  w.events.countP fun
    | .authentication => true
    | _ => false

end Surroundings

end CloudClient
