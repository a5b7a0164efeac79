import CloudClient.Catalog.Cache
import Mathlib.Data.Set.Card

/-!
# The catalog cache is a plain log

A cache drops entries for four reasons: they are too old, they are the
rejected ones, they are removed whatever they are, or everything is removed.
Two of its operations drop entries although they only look. A *log* does none
of that: it has a line for each operation, and a lookup reads it backwards to
the first line that is effective on its key. If that line stores a catalog,
and not too long ago, the lookup gives that catalog.

This module proves that the two cannot be told apart by lookups and counts,
whatever the time to live and whatever was asked before, as long as the clock
does not go back.

## Why the clock must not go back

An entry that is dropped because it is too old is still in the log. The two
agree only because it would be too old for every later lookup as well. That is
the relation between cache and log that every operation keeps (`Agrees`): the
cache has what the log has, or it has nothing and what the log has is past its
time.

Logs are written here with the latest line first.
-/

namespace CloudClient.CacheLog

/-- What can be asked of a cache. -/
inductive Operation where
  | store (key : CacheKey) (value : Issued)
  | lookup (key : CacheKey)
  /-- Removes what is stored; with an expectation, only that very catalog. -/
  | invalidate (key : CacheKey) (expected : Option Issued)
  | clear
  | count
  | sessionLock (key : CacheKey)

/-- **A line of the log**: what was asked, and what the clock said. -/
structure Line where
  time : Int
  operation : Operation

/-- The cache after an operation. -/
def Operation.apply (now : Int) (c : CatalogCache) : Operation → CatalogCache
  | .store key value => c.store now key value
  | .lookup key => (c.lookup now key).2
  | .invalidate key expected => (c.invalidate key expected).2
  | .clear => c.clear
  | .count => (c.count now).2
  | .sessionLock key => (c.sessionLock key).2

/-- The cache after the lines of a log, from an empty one. -/
def replay (ttl : Int) : List Line → CatalogCache
  | [] => .empty ttl
  | line :: earlier => line.operation.apply line.time (replay ttl earlier)

/-- The clock does not go back. -/
def Chronological (log : List Line) : Prop :=
  log.Pairwise fun later earlier => earlier.time ≤ later.time

/-! ## Reading a log -/

/-- Whether a line stores the given catalog, and not merely an equal one. -/
def isStoreOf (value : Issued) : Option Line → Bool
  | some ⟨_, .store _ stored⟩ => value.serial == stored.serial
  | _ => false

/-- Whether an operation is effective on a key, if `previous` is the latest
effective one before it. -/
def Operation.isEffective (key : CacheKey) (previous : Option Line) : Operation → Bool
  | .store k _ => decide (k = key)
  | .invalidate k none => decide (k = key)
  | .invalidate k (some expected) => decide (k = key) && isStoreOf expected previous
  | .clear => true
  | .lookup _ | .count | .sessionLock _ => false

/-- **The latest line that is effective on a key.** -/
def latest? (key : CacheKey) : List Line → Option Line
  | [] => none
  | line :: earlier =>
    if line.operation.isEffective key (latest? key earlier) then some line
    else latest? key earlier

/-- Whether an operation only looks. -/
def Operation.isRead : Operation → Bool
  | .lookup _ | .count | .sessionLock _ => true
  | _ => false

/-- Whether an operation is one on the given key, or on all keys. -/
def Operation.concerns (key : CacheKey) : Operation → Bool
  | .store k _ | .lookup k | .invalidate k _ | .sessionLock k => decide (k = key)
  | .clear | .count => true

/-- An operation that only looks is effective on no key. -/
theorem Operation.isEffective_of_isRead {o : Operation} (h : o.isRead = true) (key : CacheKey)
    (previous : Option Line) : o.isEffective key previous = false := by
  cases o with
  | lookup k => rfl
  | count => rfl
  | sessionLock k => rfl
  | store k value => cases h
  | invalidate k expected => cases h
  | clear => cases h

/-- An operation on another key is not effective. -/
theorem Operation.isEffective_of_not_concerns {o : Operation} {key : CacheKey}
    (h : o.concerns key = false) (previous : Option Line) :
    o.isEffective key previous = false := by
  cases o with
  | store k value => exact h
  | invalidate k expected =>
    have hk : decide (k = key) = false := h
    cases expected with
    | none => exact hk
    | some e => rw [isEffective, hk, Bool.false_and]
  | lookup k => rfl
  | count => rfl
  | sessionLock k => rfl
  | clear => cases h

/-- **Lines that are not effective can be left out.** -/
theorem latest?_filter {key : CacheKey} {keep : Line → Bool}
    (h : ∀ line previous, keep line = false → line.operation.isEffective key previous = false)
    (log : List Line) : latest? key (log.filter keep) = latest? key log := by
  -- a line that is left out was not effective, whatever came before it
  induction log with
  | nil => rfl
  | cons line earlier ih =>
    rw [List.filter_cons]
    by_cases hk : keep line
    · rw [if_pos hk, latest?, latest?, ih]
    · rw [if_neg hk, ih, latest?, h line _ (by simpa using hk)]
      rfl

/-! ## What cache and log agree on -/

/-- **Cache and log agree on a key** when the clock says `now`: the cache has
what the latest effective line stores, or has dropped it because it is too old.
If that line stores nothing, the cache has nothing. -/
def Agrees (ttl now : Int) (key : CacheKey) (entry : Option CatalogCache.Entry) :
    Option Line → Prop
  | some ⟨time, .store k value⟩ =>
    k = key ∧ (entry = some ⟨value, time⟩ ∨ (entry = none ∧ ttl < now - time))
  | _ => entry = none

variable {ttl now : Int} {key : CacheKey} {entry : Option CatalogCache.Entry} {line : Option Line}

/-- What is too old stays so. -/
theorem Agrees.mono (h : Agrees ttl now key entry line) {later : Int} (hle : now ≤ later) :
    Agrees ttl later key entry line := by
  unfold Agrees at h ⊢
  split at h
  · refine ⟨h.1, h.2.imp_right fun ⟨hnone, hlt⟩ => ⟨hnone, ?_⟩⟩
    omega
  · exact h

/-- Dropping an entry that is too old keeps the agreement. -/
theorem Agrees.drop_expired (h : Agrees ttl now key entry line)
    {fresh : CatalogCache.Entry → Bool}
    (hfresh : ∀ e, fresh e = true ↔ now - e.storedAt ≤ ttl) :
    Agrees ttl now key (entry.filter fresh) line := by
  unfold Agrees at h ⊢
  split at h
  · rename_i time k value
    obtain ⟨hk, rfl | ⟨rfl, hlt⟩⟩ := h
    · by_cases hf : fresh ⟨value, time⟩
      · exact ⟨hk, .inl (by simp [Option.filter, hf])⟩
      · have hold : ¬ now - time ≤ ttl := fun hle => hf ((hfresh _).2 hle)
        exact ⟨hk, .inr ⟨by simp [Option.filter, hf], by omega⟩⟩
    · exact ⟨hk, .inr ⟨rfl, hlt⟩⟩
  · rw [h]
    rfl

/-- A lookup among entries that agree with the log gives what the log says. -/
theorem Agrees.lookup_iff (h : Agrees ttl now key entry line)
    {fresh : CatalogCache.Entry → Bool}
    (hfresh : ∀ e, fresh e = true ↔ now - e.storedAt ≤ ttl) (value : Issued) :
    (entry.filter fresh).map CatalogCache.Entry.value = some value
      ↔ ∃ time, line = some ⟨time, .store key value⟩ ∧ now - time ≤ ttl := by
  unfold Agrees at h
  split at h
  · rename_i time k stored
    obtain ⟨rfl, rfl | ⟨rfl, hlt⟩⟩ := h
    · have := hfresh ⟨stored, time⟩
      constructor
      · intro hvalue
        by_cases hf : fresh ⟨stored, time⟩
        · obtain rfl : stored = value := by simpa [Option.filter, hf] using hvalue
          exact ⟨time, rfl, this.1 hf⟩
        · simp [Option.filter, hf] at hvalue
      · rintro ⟨t, ht, hle⟩
        obtain ⟨rfl, rfl⟩ : time = t ∧ stored = value := by simpa using ht
        simp [Option.filter, this.2 hle]
    · -- what has been dropped is too old for this lookup as well
      constructor
      · intro hvalue
        cases hvalue
      · rintro ⟨t, ht, hle⟩
        obtain ⟨rfl, rfl⟩ : time = t ∧ stored = value := by simpa using ht
        omega
  · rename_i hline
    subst h
    constructor
    · intro hvalue
      cases hvalue
    · rintro ⟨t, ht, -⟩
      exact absurd ht (hline _ _ _)

/-! ## Every operation keeps the agreement -/

/-- Removing the expected catalog keeps the agreement: in the log too, the
removal is effective just where that very catalog is stored. -/
theorem Agrees.invalidate (h : Agrees ttl now key entry line) (expected : Option Issued) :
    Agrees ttl now key (entry.filter fun e => !CatalogCache.isExpected expected e)
      (if Operation.isEffective key line (.invalidate key expected) then
        some ⟨now, .invalidate key expected⟩ else line) := by
  cases expected with
  | none =>
    simp only [Operation.isEffective, decide_true, if_true]
    show Option.filter _ _ = none
    simp [CatalogCache.isExpected]
  | some i =>
    simp only [Operation.isEffective, decide_true, Bool.true_and]
    by_cases hs : isStoreOf i line
    · -- the log stores that catalog, so the cache has it or has nothing
      rw [if_pos hs]
      show Option.filter _ _ = none
      unfold isStoreOf at hs
      split at hs
      · obtain ⟨rfl, rfl | ⟨rfl, -⟩⟩ := h
        · simp [Option.filter, CatalogCache.isExpected, beq_iff_eq.1 hs]
        · rfl
      · cases hs
    · rw [if_neg hs]
      unfold Agrees at h ⊢
      split at h
      · rename_i time k value
        have hne : (i.serial == value.serial) = false := by simpa [isStoreOf] using hs
        obtain ⟨rfl, rfl | ⟨rfl, hlt⟩⟩ := h
        · exact ⟨rfl, .inl (by simp [Option.filter, CatalogCache.isExpected, hne])⟩
        · exact ⟨rfl, .inr ⟨rfl, hlt⟩⟩
      · rw [h]
        rfl

/-- **One step**: an operation keeps the agreement of cache and log. -/
theorem Agrees.apply {c : CatalogCache} (h : Agrees c.ttl now key (c.stored? key) line)
    (o : Operation) :
    Agrees c.ttl now key ((o.apply now c).stored? key)
      (if o.isEffective key line then some ⟨now, o⟩ else line) := by
  cases o with
  | store k value =>
    show Agrees _ _ _ ((c.store now k value).stored? key) _
    rw [CatalogCache.stored?_store]
    by_cases hk : k = key
    · subst hk
      rw [if_pos rfl, Operation.isEffective, decide_eq_true rfl, if_pos rfl]
      exact ⟨rfl, .inl rfl⟩
    · simpa [Operation.isEffective, hk] using h
  | lookup k =>
    show Agrees _ _ _ ((c.lookup now k).2.stored? key) _
    rw [CatalogCache.stored?_lookup]
    by_cases hk : k = key
    · subst hk
      simpa [Operation.isEffective] using h.drop_expired (c.isFresh_iff now)
    · simpa [Operation.isEffective, hk] using h
  | invalidate k expected =>
    show Agrees _ _ _ ((c.invalidate k expected).2.stored? key) _
    rw [CatalogCache.stored?_invalidate]
    by_cases hk : k = key
    · subst hk
      rw [if_pos rfl]
      exact h.invalidate expected
    · have hnot : (Operation.invalidate k expected).isEffective key line = false :=
        Operation.isEffective_of_not_concerns (by simp [Operation.concerns, hk]) line
      rw [if_neg hk, hnot]
      exact h
  | clear => exact rfl
  | count =>
    show Agrees _ _ _ ((c.count now).2.stored? key) _
    rw [CatalogCache.stored?_count]
    exact h.drop_expired (c.isFresh_iff now)
  | sessionLock k => exact h

theorem ttl_apply (c : CatalogCache) (now : Int) (o : Operation) : (o.apply now c).ttl = c.ttl := by
  cases o with
  | store k value => rfl
  | lookup k => exact CatalogCache.ttl_lookup c now k
  | invalidate k expected => exact CatalogCache.ttl_invalidate c k expected
  | clear => rfl
  | count => rfl
  | sessionLock k => rfl

@[simp] theorem ttl_replay (ttl : Int) (log : List Line) : (replay ttl log).ttl = ttl := by
  induction log with
  | nil => rfl
  | cons line earlier ih => rw [replay, ttl_apply, ih]

/-- **Cache and log agree on every key after every log.** -/
theorem agrees_replay (ttl : Int) {log : List Line} (hlog : Chronological log) {now : Int}
    (hnow : ∀ line ∈ log, line.time ≤ now) (key : CacheKey) :
    Agrees ttl now key ((replay ttl log).stored? key) (latest? key log) := by
  induction log generalizing now with
  | nil => rfl
  | cons line earlier ih =>
    obtain ⟨hline, hearlier⟩ := List.pairwise_cons.1 hlog
    -- up to the line the clock says what the line says, and only then `now`
    have hagrees : Agrees (replay ttl earlier).ttl line.time key ((replay ttl earlier).stored? key)
        (latest? key earlier) := by
      rw [ttl_replay]
      exact ih hearlier hline
    have hstep := hagrees.apply line.operation
    rw [ttl_replay] at hstep
    exact hstep.mono (hnow line List.mem_cons_self)

/-! ## Counting -/

/-- The entries of a map are as many as the keys under which something is
found. -/
theorem encard_setOf_isSome_find? {κ ν : Type} [DecidableEq κ] (m : OrderedMap κ ν) :
    {k | (m.find? k).isSome}.encard = m.entries.length := by
  have hnodup : m.keys.Nodup := by
    refine ((Entries.distinct_iff_keys m.entries).1 m.distinct).imp fun h => ?_
    simpa using h
  have hset : {k | (m.find? k).isSome} = (m.keys.toFinset : Set κ) := by
    ext k
    rw [Set.mem_ofPred_eq, List.coe_toFinset, Set.mem_ofPred_eq, OrderedMap.find?,
      Entries.isSome_find?, Entries.has, List.any_eq_true, OrderedMap.keys, List.mem_map]
    simp only [beq_iff_eq]
  rw [hset, Set.encard_coe_eq_coe_finsetCard, List.toFinset_card_of_nodup hnodup,
    OrderedMap.keys, List.length_map]

/-- **What is counted is what could be looked up.** -/
theorem encard_setOf_isSome_lookup (c : CatalogCache) (now : Int) :
    {key | ((c.lookup now key).1).isSome}.encard = (c.count now).1 := by
  have hset : {key | ((c.lookup now key).1).isSome}
      = {key | ((c.entries.filter fun e => c.isFresh now e.2).find? key).isSome} := by
    ext key
    rw [Set.mem_ofPred_eq, Set.mem_ofPred_eq, CatalogCache.lookup_fst, Option.isSome_map,
      OrderedMap.find?_filter]
    rfl
  rw [hset, encard_setOf_isSome_find?]
  rfl

/-! ## The refinement -/

/-- What a lookup gives after a log. -/
def found (ttl : Int) (log : List Line) (now : Int) (key : CacheKey) : Option Issued :=
  ((replay ttl log).lookup now key).1

/-- What a count gives after a log. -/
def counted (ttl : Int) (log : List Line) (now : Int) : Nat := ((replay ttl log).count now).1

/-- A lookup gives what the latest effective line stores, if it is not too
old. -/
theorem found_eq_some_iff (ttl : Int) {log : List Line} (hlog : Chronological log) {now : Int}
    (hnow : ∀ line ∈ log, line.time ≤ now) (key : CacheKey) (value : Issued) :
    found ttl log now key = some value
      ↔ ∃ time, latest? key log = some ⟨time, .store key value⟩ ∧ now - time ≤ ttl := by
  have hfresh : ∀ e, (replay ttl log).isFresh now e = true ↔ now - e.storedAt ≤ ttl := by
    intro e
    rw [CatalogCache.isFresh_iff, ttl_replay]
  rw [found, CatalogCache.lookup_fst]
  exact (agrees_replay ttl hlog hnow key).lookup_iff hfresh value

/-- Lookups after two logs agree on a key if the same line is the latest
effective one. -/
theorem found_congr (ttl : Int) {log log' : List Line} (hlog : Chronological log)
    (hlog' : Chronological log') {now : Int} (hnow : ∀ line ∈ log, line.time ≤ now)
    (hnow' : ∀ line ∈ log', line.time ≤ now) {key : CacheKey}
    (h : latest? key log = latest? key log') : found ttl log now key = found ttl log' now key := by
  refine Option.ext fun value => ?_
  rw [found_eq_some_iff ttl hlog hnow, found_eq_some_iff ttl hlog' hnow', h]

/-- What is counted after two logs is the same if lookups give the same. -/
theorem counted_congr (ttl : Int) {log log' : List Line} {now : Int}
    (h : ∀ key, found ttl log now key = found ttl log' now key) :
    counted ttl log now = counted ttl log' now := by
  have hset : {key | (found ttl log now key).isSome} = {key | (found ttl log' now key).isSome} := by
    ext key
    rw [Set.mem_ofPred_eq, Set.mem_ofPred_eq, h]
  have hcard := encard_setOf_isSome_lookup (replay ttl log) now
  have hcard' := encard_setOf_isSome_lookup (replay ttl log') now
  exact_mod_cast hcard.symm.trans ((congrArg Set.encard hset).trans hcard')

/-- **The cache refines the log**, for every time to live and every log whose
clock does not go back.

A lookup gives a catalog just if the latest effective line on the key stores
it, no longer ago than the time to live. What is counted is the number of keys
whose lookup gives something. Operations that only look can be left out of the
log, and for the lookup of a key so can those on other keys. -/
theorem cache_refines_log (ttl : Int) (log : List Line) (hlog : Chronological log) (now : Int)
    (hnow : ∀ line ∈ log, line.time ≤ now) :
    (∀ key value, found ttl log now key = some value
      ↔ ∃ time, latest? key log = some ⟨time, .store key value⟩ ∧ now - time ≤ ttl)
    ∧ {key | (found ttl log now key).isSome}.encard = counted ttl log now
    ∧ (∀ key, found ttl (log.filter fun line => !line.operation.isRead) now key
        = found ttl log now key)
    ∧ counted ttl (log.filter fun line => !line.operation.isRead) now = counted ttl log now
    ∧ ∀ key, found ttl (log.filter fun line => line.operation.concerns key) now key
        = found ttl log now key := by
  have hsub : ∀ keep : Line → Bool,
      Chronological (log.filter keep) ∧ ∀ line ∈ log.filter keep, line.time ≤ now := by
    intro keep
    exact ⟨hlog.sublist List.filter_sublist, fun line h => hnow line (List.mem_of_mem_filter h)⟩
  have hreads : ∀ key, found ttl (log.filter fun line => !line.operation.isRead) now key
      = found ttl log now key := by
    intro key
    refine found_congr ttl (hsub _).1 hlog (hsub _).2 hnow (latest?_filter ?_ log)
    intro line previous hline
    exact Operation.isEffective_of_isRead (by simpa using hline) key previous
  refine ⟨found_eq_some_iff ttl hlog hnow, encard_setOf_isSome_lookup _ now, hreads,
    counted_congr ttl hreads, fun key => ?_⟩
  refine found_congr ttl (hsub _).1 hlog (hsub _).2 hnow (latest?_filter ?_ log)
  intro line previous hline
  exact Operation.isEffective_of_not_concerns hline previous

/-- A catalog without services. -/
def bareCatalog : Catalog := ⟨.null, .null, none, .null, .empty, fun _ h => nomatch h⟩

/-- The name of an entry in a cache. -/
def someKey : CacheKey := ⟨"account", some "east", "https://identity.example"⟩

/-- A catalog is stored, a removal expects another one of equal content, and
time goes by. -/
def someLog : List Line :=
  [⟨12, .count⟩, ⟨8, .invalidate someKey (some ⟨1, bareCatalog⟩)⟩,
    ⟨3, .store someKey ⟨0, bareCatalog⟩⟩, ⟨0, .lookup someKey⟩]

/-- An entry exactly as old as the time to live is still found, and the removal
of an equal catalog has not touched it. -/
theorem found_at_the_limit :
    Chronological someLog ∧ (∀ line ∈ someLog, line.time ≤ 13)
      ∧ found 10 someLog 13 someKey = some ⟨0, bareCatalog⟩ := by
  have hlog : Chronological someLog := by
    simp [Chronological, someLog]
  have hnow : ∀ line ∈ someLog, line.time ≤ 13 := by
    simp [someLog]
  refine ⟨hlog, hnow, ?_⟩
  exact ((cache_refines_log 10 someLog hlog 13 hnow).1 someKey ⟨0, bareCatalog⟩).2
    ⟨3, rfl, by decide⟩

end CloudClient.CacheLog
