import CloudClient.Proofs.SharedCache

/-!
# One authentication for many callers

Any number of callers act for sessions with one and the same key, and share a
cache. Each of them looks for a catalog by itself; none knows of the others.
This module proves that they still authenticate with success once only,
whatever the order in which they take their turns, and that all who return a
catalog return the same one: `single_flight`.

## Failure

A caller whose authentication fails makes no catalog and stores none, and gives
the lock back. That leaves everything to the others: the next one inside again
finds nothing, and authenticates in its turn. To say so is to say of a scene
that it has a certain run, not that all its runs are of some kind
(`MaySucceed`). Such a run is put together from the end: whoever is about to
make a catalog may succeed, so whoever is one act away from that may, and so
on back to a caller that has done nothing yet.
-/

namespace CloudClient

universe u

variable {ι : Type u} [DecidableEq ι] {key : CacheKey} {s s' : Scene ι (Except Failure Issued)}
  {callers : ι → Caller} {j : ι} {lock : LockId}

/-! ## Who may still succeed -/

/-- **A caller may succeed**: it makes a catalog in some run. -/
def MaySucceed (key : CacheKey) (s : Scene ι (Except Failure Issued)) (j : ι) : Prop :=
  ∃ more s', s.Runs (Surroundings.Lasting key) more s'
    ∧ ∃ m ∈ momentsOf j more, m.issued? ≠ none

/-- The other side lets a caller in if it replies in a certain way. -/
def Caller.CanAuthenticate (c : Caller) : Prop :=
  ∃ replies catalog, ((Authentication.usual c.session).hold replies).outcome = .ok catalog

namespace MaySucceed

/-- Whoever may succeed after an act of its own may succeed before it. -/
theorem of_act {act : Act} {next : act.Answer → Course (Except Failure Issued)}
    (hcourse : s.courses j = .does act next) (hallows : s.world.allows act = true)
    (hquiet : act.isQuiet = true) (reply : Reply)
    (h : ∀ s' : Scene ι (Except Failure Issued),
      s'.world = ((s.world.hearing reply).perform act).2 →
      s'.courses j = next ((s.world.hearing reply).perform act).1 → MaySucceed key s' j) :
    MaySucceed key s j := by
  have hstep := Scene.Step.acts reply hcourse hallows
  have hlasting := (s.world.quiet_perform key reply hquiet).lasting
  have hself : Function.update s.courses j (next ((s.world.hearing reply).perform act).1) j = _ :=
    Function.update_self _ _ _
  obtain ⟨more, s', hruns, m, hm, hissued⟩ := h ⟨_, Function.update s.courses j _⟩ rfl hself
  refine ⟨_, s', .after_step hstep hlasting hruns, m, ?_, hissued⟩
  rw [momentsOf_append]
  exact List.mem_append_right _ hm

/-- Whoever authenticates may succeed if the other side still lets it in. -/
theorem of_talking {talk : Authentication} {replies : List Reply} {catalog : Catalog}
    (hs : s.courses j = (callers j).remainder (.talking lock talk))
    (htalk : (talk.hold replies).outcome = .ok catalog) : MaySucceed key s j := by
  -- each reply of those that let the caller in is the next one
  induction talk generalizing s replies with
  | ended outcome =>
    rw [show outcome = .ok catalog from htalk] at hs
    have hstep := Scene.Step.acts (s := s) .silence hs rfl
    have hlasting : Surroundings.Lasting key s.world
        ((s.world.hearing .silence).perform (.issue catalog)).2 :=
      (s.world.quiet_perform key .silence rfl).lasting
    refine ⟨_, _, .after_step hstep hlasting .stays, ⟨s.world.hearing .silence, .issue catalog⟩, ?_,
      Option.some_ne_none _⟩
    rw [momentsOf_append, momentsOf_own]
    exact List.mem_append_left _ (List.mem_singleton_self _)
  | sends request next ih =>
    cases replies with
    | nil => exact of_act hs rfl rfl .silence fun s' _ hs' => ih .silence hs' htalk
    | cons reply more => exact of_act hs rfl rfl reply fun s' _ hs' => ih reply hs' htalk

theorem of_beginning (hj : (callers j).CanAuthenticate)
    (hs : s.courses j = (callers j).remainder (.beginning lock)) : MaySucceed key s j := by
  obtain ⟨replies, catalog, htalk⟩ := hj
  rw [Caller.remainder_beginning] at hs
  exact of_act hs rfl rfl .silence fun s' _ hs' => of_talking hs' htalk

/-- Whoever has the lock may succeed as long as there is no catalog. -/
theorem of_entered (hj : (callers j).CanAuthenticate) (hkey : (callers j).key = key)
    (hs : s.courses j = (callers j).remainder (.entered lock))
    (hnone : (s.world.lookup key).1 = none) : MaySucceed key s j := by
  rw [Caller.remainder_entered] at hs
  refine of_act hs rfl rfl .silence fun s' _ hs' => ?_
  have hbeginning : s'.courses j = (callers j).remainder (.beginning lock) := by
    subst hkey
    rw [hs', show ((s.world.hearing .silence).perform (.lookup (callers j).key)).1 = none from hnone]
  exact of_beginning hj hbeginning

/-- Whoever waits for the lock may succeed if it is free. -/
theorem of_waiting (hj : (callers j).CanAuthenticate) (hkey : (callers j).key = key)
    (hs : s.courses j = (callers j).remainder (.waiting lock))
    (hfree : s.world.cache.locks.isHeld lock = false) (hnone : (s.world.lookup key).1 = none) :
    MaySucceed key s j := by
  have hallows : s.world.allows (.acquire lock) = true := by
    rw [Surroundings.allows, hfree]
    rfl
  refine of_act hs hallows rfl .silence fun s' hworld hs' => of_entered hj hkey hs' ?_
  rw [hworld, (s.world.quiet_perform key .silence rfl).lookup_eq, hnone]

/-- Whoever asks for the lock is given the one that the key has. -/
theorem of_missing (hj : (callers j).CanAuthenticate) (hkey : (callers j).key = key)
    (hs : s.courses j = (callers j).remainder .missing)
    (htable : s.world.cache.locks.table.find? key = some lock)
    (hfree : s.world.cache.locks.isHeld lock = false) (hnone : (s.world.lookup key).1 = none) :
    MaySucceed key s j := by
  have hobtain : s.world.cache.locks.obtain (callers j).key = (lock, s.world.cache.locks) := by
    rw [hkey, LockTable.obtain_of_find? htable]
  refine of_act hs rfl rfl .silence fun s' hworld hs' => ?_
  have hlock : ((s.world.hearing .silence).perform (.sessionLock (callers j).key)).1 = lock :=
    congrArg Prod.fst hobtain
  have hlocks : s'.world.cache.locks = s.world.cache.locks := by
    rw [hworld]
    exact congrArg Prod.snd hobtain
  have hwaiting : s'.courses j = (callers j).remainder (.waiting lock) := by
    rw [hs', hlock]
    rfl
  refine of_waiting hj hkey hwaiting ?_ ?_
  · rw [hlocks, hfree]
  · rw [hworld, (s.world.quiet_perform key .silence rfl).lookup_eq, hnone]

/-- Whoever has done nothing yet finds nothing, and asks for the lock. -/
theorem of_arriving (hj : (callers j).CanAuthenticate) (hkey : (callers j).key = key)
    (hnever : (callers j).NeverProbes) (hs : s.courses j = (callers j).remainder .arriving)
    (htable : s.world.cache.locks.table.find? key = some lock)
    (hfree : s.world.cache.locks.isHeld lock = false) (hnone : (s.world.lookup key).1 = none) :
    MaySucceed key s j := by
  rw [Caller.remainder_arriving hnever, hkey] at hs
  refine of_act hs rfl rfl .silence fun s' hworld hs' => ?_
  have hlocks : s'.world.cache.locks = s.world.cache.locks := by
    rw [hworld]
    exact s.world.locks_perform .silence rfl
  refine of_missing hj hkey ?_ (hlocks ▸ htable) (hlocks ▸ hfree) ?_
  · rw [hs', show ((s.world.hearing .silence).perform (.lookup key)).1 = none from hnone]
  · rw [hworld, (s.world.quiet_perform key .silence rfl).lookup_eq, hnone]

end MaySucceed

/-! ## What is so after any moments -/

section

variable {w : Surroundings} {h : List (ι × Moment)} {stages : ι → Stage} {i : ι}

namespace Order

/-- A catalog that has been made is the first, and there was none in the
beginning. -/
theorem catalogs_eq (ho : Order callers key w h s stages) :
    (w.lookup key).1.toList ++ made h = [] ∨
      ∃ issued, (w.lookup key).1.toList ++ made h = [issued] := by
  cases hfound : (s.world.lookup key).1 with
  | some issued => exact Or.inr ⟨issued, ho.agreement.found issued hfound⟩
  | none =>
    refine (ho.agreement.missed hfound).imp_right ?_
    rintro ⟨i, lock, issued, hi⟩
    have hagrees := ho.agreement.agrees i
    rw [hi] at hagrees
    exact ⟨issued, hagrees.1⟩

theorem length_made_le (ho : Order callers key w h s stages) : (made h).length ≤ 1 := by
  have hle : (made h).length ≤ ((w.lookup key).1.toList ++ made h).length := by
    rw [List.length_append]
    exact Nat.le_add_left _ _
  rcases ho.catalogs_eq with hnil | ⟨issued, hone⟩
  · rw [hnil] at hle
    exact Nat.le_succ_of_le hle
  · rw [hone] at hle
    exact hle

theorem made_eq_nil (ho : Order callers key w h s stages) {held : Issued}
    (hheld : (w.lookup key).1 = some held) : made h = [] := by
  rcases ho.catalogs_eq with hnil | ⟨issued, hone⟩
  · exact (List.append_eq_nil_iff.1 hnil).2
  · rw [hheld] at hone
    exact (List.cons.inj hone).2

theorem not_begun (ho : Order callers key w h s stages) {held : Issued}
    (hheld : (w.lookup key).1 = some held) : ¬ Begun h := by
  intro hbegun
  rw [ho.begun hbegun] at hheld
  exact absurd hheld.symm (Option.some_ne_none held)

theorem isInside_eq (ho : Order callers key w h s stages) (i : ι) :
    isInside (momentsOf i h) = (stages i).isInside :=
  (ho.trails i).isInside_eq

theorem one_inside (ho : Order callers key w h s stages) {j : ι}
    (hi : isInside (momentsOf i h) = true) (hj : isInside (momentsOf j h) = true) : i = j :=
  ho.exclusion.alone i j ((ho.isInside_eq i).symm.trans hi) ((ho.isInside_eq j).symm.trans hj)

/-- A catalog that is returned is in the cache. -/
theorem lookup_of_returned (ho : Order callers key w h s stages)
    (hnever : (callers i).NeverProbes) {issued : Issued}
    (hi : s.courses i = .ended (.ok issued)) : (s.world.lookup key).1 = some issued := by
  have hagrees := ho.agreement.agrees i
  rw [Caller.eq_gone_of_remainder hnever ((ho.courses i).symm.trans hi)] at hagrees
  exact hagrees

theorem returned (ho : Order callers key w h s stages) (hnever : (callers i).NeverProbes)
    {issued : Issued} (hi : s.courses i = .ended (.ok issued)) :
    (w.lookup key).1 = some issued ∨ made h = [issued] := by
  have hone := ho.agreement.found issued (ho.lookup_of_returned hnever hi)
  cases hfound : (w.lookup key).1 with
  | none =>
    rw [hfound] at hone
    exact Or.inr hone
  | some held =>
    rw [hfound] at hone
    rw [(List.cons.inj hone).1]
    exact Or.inl rfl

theorem one_succeeds (ho : Order callers key w h s stages) {j : ι} {a b : Catalog}
    (hi : (callers i).authentication? (momentsOf i h) = some (.ended (.ok a)))
    (hj : (callers j).authentication? (momentsOf j h) = some (.ended (.ok b))) : i = j := by
  -- whoever is about to make a catalog has seen that none has been made
  have hnone : ∀ {k k' : ι} {lock : LockId} {talk : Authentication},
      stages k = .talking lock talk → ∀ m ∈ momentsOf k' h, m.issued? = none := by
    intro k k' lock talk hk m hm
    have hagrees := ho.agreement.agrees k
    rw [hk] at hagrees
    have hnil := (List.append_eq_nil_iff.1 hagrees.1).2
    exact List.filterMap_eq_nil_iff.1 hnil (k', m) (mem_of_mem_momentsOf hm)
  rcases (ho.trails i).succeeded hi with ⟨lock, hti⟩ | ⟨m, hm, hmade⟩ <;>
    rcases (ho.trails j).succeeded hj with ⟨lock', htj⟩ | ⟨m', hm', hmade'⟩
  · exact ho.exclusion.alone i j (by rw [hti]; rfl) (by rw [htj]; rfl)
  · exact absurd (hnone hti m' hm') hmade'
  · exact absurd (hnone htj m hm) hmade
  · exact congrArg Prod.fst (eq_of_made ho.length_made_le (mem_of_mem_momentsOf hm)
      (mem_of_mem_momentsOf hm') hmade hmade')

theorem failed (ho : Order callers key w h s stages) {failure : Failure}
    (hi : (callers i).authentication? (momentsOf i h) = some (.ended (.error failure))) :
    Barren (momentsOf i h)
      ∧ ((∃ lock, s.courses i = .does (.release lock) (fun _ => .ended (.error failure))
          ∧ s.world.cache.locks.isHeld lock = true)
        ∨ s.courses i = .ended (.error failure) ∧ isInside (momentsOf i h) = false) := by
  obtain ⟨hbarren, ⟨lock, htalking⟩ | hgone⟩ := (ho.trails i).failed hi
  · refine ⟨hbarren, Or.inl ⟨lock, ?_, ?_⟩⟩
    · rw [ho.courses i, htalking]
      rfl
    · exact (ho.exclusion.fits i lock (by rw [htalking]; rfl)).2 (by rw [htalking]; rfl)
  · refine ⟨hbarren, Or.inr ⟨?_, ?_⟩⟩
    · rw [ho.courses i, hgone]
      rfl
    · rw [ho.isInside_eq, hgone]
      rfl

/-- **After a failure every caller that is left may still succeed.** -/
theorem maySucceed (ho : Order callers key w h s stages) (hkey : (callers j).key = key)
    (hnever : (callers j).NeverProbes) (hbegun : Begun h)
    (hnobody : ∀ i, isInside (momentsOf i h) = false) (hmade : made h = [])
    (hleft : ∀ result, s.courses j ≠ .ended result) (hj : (callers j).CanAuthenticate) :
    MaySucceed key s j := by
  have hout : ∀ i, (stages i).isInside = false := fun i =>
    (ho.isInside_eq i).symm.trans (hnobody i)
  obtain ⟨lock, htable, hheld⟩ := ho.freed hbegun
  have hfree : s.world.cache.locks.isHeld lock = false := by
    cases hlock : s.world.cache.locks.isHeld lock with
    | false => rfl
    | true =>
      obtain ⟨i, hi⟩ := hheld hlock
      rw [hout i] at hi
      cases hi
  have hnone : (s.world.lookup key).1 = none := by
    cases hfound : (s.world.lookup key).1 with
    | none => rfl
    | some issued =>
      -- whatever is found is a catalog that there has been
      have hone := ho.agreement.found issued hfound
      rw [ho.begun hbegun, hmade] at hone
      cases hone
  have hcourse := ho.courses j
  have hinside := hout j
  cases hstage : stages j with
  | arriving =>
    rw [hstage] at hcourse
    exact .of_arriving hj hkey hnever hcourse htable hfree hnone
  | missing =>
    rw [hstage] at hcourse
    exact .of_missing hj hkey hcourse htable hfree hnone
  | waiting lock' =>
    rw [hstage] at hcourse
    have hlock' := (ho.exclusion.fits j lock' (by rw [hstage]; rfl)).1
    rw [Option.some.inj (hlock'.symm.trans htable)] at hcourse
    exact .of_waiting hj hkey hcourse hfree hnone
  | gone result =>
    rw [hstage] at hcourse
    exact absurd hcourse (hleft result)
  | _ =>
    rw [hstage] at hinside
    cases hinside

end Order

end

/-- **One authentication for many callers.** What is so after any moments `h`
of callers with one key, who began in some surroundings. -/
structure SingleFlight (callers : ι → Caller) (key : CacheKey) (w : Surroundings)
    (h : List (ι × Moment)) (s : Scene ι (Except Failure Issued)) : Prop where
  /-- At most one caller is between taking the lock and giving it back. -/
  one_inside : ∀ i j, isInside (momentsOf i h) = true → isInside (momentsOf j h) = true → i = j
  /-- At most one caller has authenticated with success. -/
  one_succeeds : ∀ i j a b,
    (callers i).authentication? (momentsOf i h) = some (.ended (.ok a)) →
      (callers j).authentication? (momentsOf j h) = some (.ended (.ok b)) → i = j
  /-- At most one catalog is made. -/
  one_made : (made h).length ≤ 1
  /-- None is made, and nobody even begins to authenticate, if there was a
  catalog in the beginning. -/
  none_needed : ∀ held, (w.lookup key).1 = some held → made h = [] ∧ ¬ Begun h
  /-- Whoever returns a catalog returns the one from the beginning or the one
  that is made. -/
  returned : ∀ i issued, s.courses i = .ended (.ok issued) →
    (w.lookup key).1 = some issued ∨ made h = [issued]
  /-- All who return a catalog return the same one. -/
  same : ∀ i j a b, s.courses i = .ended (.ok a) → s.courses j = .ended (.ok b) → a = b
  /-- Whoever fails to authenticate makes and stores nothing. It holds the lock
  and is about to give it back, or has done so and ends with the failure. -/
  failed : ∀ i failure,
    (callers i).authentication? (momentsOf i h) = some (.ended (.error failure)) →
      Barren (momentsOf i h)
        ∧ ((∃ lock, s.courses i = .does (.release lock) (fun _ => .ended (.error failure))
            ∧ s.world.cache.locks.isHeld lock = true)
          ∨ s.courses i = .ended (.error failure) ∧ isInside (momentsOf i h) = false)
  /-- Once somebody has failed and nobody is inside, whoever has not ended may
  still succeed, unless somebody has. -/
  may_succeed : ∀ i failure,
    (callers i).authentication? (momentsOf i h) = some (.ended (.error failure)) →
      (∀ k, isInside (momentsOf k h) = false) → made h = [] →
        ∀ j, (∀ result, s.courses j ≠ .ended result) → (callers j).CanAuthenticate →
          MaySucceed key s j

/-- **Callers who share a cache authenticate once.** Any number of them, with
one and the same key, look for a catalog in any order of turns; none of them
puts a cached catalog to the test, and no entry of the key passes its time to
live. -/
theorem single_flight (callers : ι → Caller) (key : CacheKey) (w : Surroundings)
    (hkey : ∀ i, (callers i).key = key) (hnever : ∀ i, (callers i).NeverProbes)
    (hruns : (Scene.resolving callers w).Runs (Surroundings.Lasting key) h s) :
    SingleFlight callers key w h s := by
  obtain ⟨stages, ho⟩ := exists_order hkey hnever hruns
  constructor
  · intro i j
    exact ho.one_inside
  · intro i j a b
    exact ho.one_succeeds
  · exact ho.length_made_le
  · intro held hheld
    exact ⟨ho.made_eq_nil hheld, ho.not_begun hheld⟩
  · intro i issued
    exact ho.returned (hnever i)
  · intro i j a b hi hj
    have ha := ho.lookup_of_returned (hnever i) hi
    exact Option.some.inj (ha.symm.trans (ho.lookup_of_returned (hnever j) hj))
  · intro i failure
    exact ho.failed
  · intro i failure hfail hnobody hmade j hleft hj
    obtain ⟨m, hm, hact⟩ := Caller.exists_authentication (c := callers i)
      (hfail ▸ Option.some_ne_none _)
    have hbegun : Begun h := ⟨(i, m), mem_of_mem_momentsOf hm, hact⟩
    exact ho.maySucceed (hkey j) (hnever j) hbegun hnobody hmade hleft hj

/-! ## Three callers at the same time -/

namespace SingleFlight

def someSession : Session where
  endpoint := "st:https://identity.example"
  account := "account"
  endpoint_not_blank := by decide

/-- All callers act for one session, and none of them probes. -/
def each (_ : Fin 3) : Caller where
  session := someSession
  revalidation := .zero false

/-- Nothing has happened yet. -/
def outset : Surroundings where
  script := []
  draws := ⟨[]⟩
  cache := CatalogCache.empty 10
  now := 0
  nextSerial := 0
  events := []

def granted : Reply := .response ⟨204, .ofList [("X-Auth-Token", "token")], [], "No Content"⟩

/-- All find nothing and ask for the lock. The first one authenticates and
fails, then the second one does and succeeds, and the third one finds what is
stored by then. -/
def turns : List (Fin 3 × Reply) :=
  [0, 1, 2, 0, 1, 2, 0, 0, 0, 0, 0].map (fun i => (i, .silence))
    ++ [1, 1, 1, 1, 1, 1, 1].map (fun i => (i, granted))
    ++ [2, 2, 2].map (fun i => (i, .silence))

/-- Whether what is stored after a moment is good. -/
def isGoodAfter (key : CacheKey) (m : Moment) : Bool :=
  (m.after.cache.stored? key).all (m.after.cache.isFresh m.after.now)

theorem lasting_of_isGoodAfter (key : CacheKey) (w : Surroundings) (m : Moment)
    (h : isGoodAfter key m = true) : Surroundings.Lasting key w m.after := by
  intro e he hold
  rw [isGoodAfter, he, Option.all_some, hold] at h
  cases h

theorem play_turns :
    ((Scene.resolving each outset).play turns).any (fun p =>
      p.1.all (fun q => isGoodAfter someSession.cacheKey q.2) && (made p.1).length == 1) = true := by
  decide +kernel

/-- The first of three callers fails, the second succeeds, and one catalog is
made. -/
theorem single_flight_of_three : ∃ h s,
    (∀ i, (each i).key = someSession.cacheKey) ∧ (∀ i, (each i).NeverProbes)
      ∧ (Scene.resolving each outset).Runs (Surroundings.Lasting someSession.cacheKey) h s
      ∧ SingleFlight each someSession.cacheKey outset h s
      ∧ (made h).length = 1 := by
  obtain ⟨⟨h, s⟩, hplay, hall⟩ := (Option.any_eq_true _ _).1 play_turns
  obtain ⟨hgood, hlen⟩ := Bool.and_eq_true_iff.1 hall
  have hkey : ∀ i, (each i).key = someSession.cacheKey := fun _ => rfl
  have hnever : ∀ i, (each i).NeverProbes := fun _ => rfl
  have hruns : (Scene.resolving each outset).Runs (Surroundings.Lasting someSession.cacheKey) h s :=
    Scene.runs_of_play (P := fun m => isGoodAfter someSession.cacheKey m = true)
      (fun w reply act => lasting_of_isGoodAfter _ w ⟨w.hearing reply, act⟩) hplay
      (List.all_eq_true.1 hgood)
  exact ⟨h, s, hkey, hnever, hruns, single_flight each _ outset hkey hnever hruns,
    eq_of_beq hlen⟩

end SingleFlight

end CloudClient
