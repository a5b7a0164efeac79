import CloudClient.Proofs.EntryChange

/-!
# A new catalog is none of the old ones

What tells catalogs apart is the number of their making. A new one gets the
next number, so it differs from every catalog with a smaller one. This module
proves that all catalogs a call has to do with – what the cache holds under its
key, and what a search for a catalog yields – have smaller numbers, as long as
that is so in the beginning and others store nothing that has not been made
yet.

The numbers are names, and which ones others' catalogs have is free; all that
is asked of others is that they do not foresee a number.
-/

namespace CloudClient

/-- **Everything under a key has been made already.** -/
def Surroundings.Known (key : CacheKey) (w : Surroundings) : Prop :=
  ∀ e, w.cache.stored? key = some e → e.value.serial < w.nextSerial

/-- **What others store under a key has been made already** by then. -/
def OthersKnown (key : CacheKey) (moments : List Moment) : Prop :=
  ∀ m ∈ moments, ∀ value, (key, value) ∈ m.othersStores → value.serial < m.before.nextSerial

theorem othersKnown_cons {key : CacheKey} {m : Moment} {ms : List Moment} :
    OthersKnown key (m :: ms)
      ↔ (∀ value, (key, value) ∈ m.othersStores → value.serial < m.before.nextSerial)
        ∧ OthersKnown key ms :=
  List.forall_mem_cons

theorem othersKnown_append {key : CacheKey} {ms ns : List Moment} :
    OthersKnown key (ms ++ ns) ↔ OthersKnown key ms ∧ OthersKnown key ns :=
  List.forall_mem_append

/-- Numbers are only counted up. -/
theorem Surroundings.nextSerial_le_perform (w : Surroundings) (act : Act) :
    w.nextSerial ≤ (w.perform act).2.nextSerial := by
  cases act with
  | send origin request => exact Nat.le_of_eq (w.nextSerial_send origin request).symm
  | issue catalog => exact Nat.le_succ _
  | release lock =>
    show _ ≤ (w.release lock).nextSerial
    unfold Surroundings.release
    cases w.cache.release lock <;> exact Nat.le_refl _
  | draw => exact Nat.le_refl _
  | pause delay => exact Nat.le_refl _
  | authentication => exact Nat.le_refl _
  | lookup key => exact Nat.le_refl _
  | invalidate key value => exact Nat.le_refl _
  | store key value => exact Nat.le_refl _
  | sessionLock key => exact Nat.le_refl _
  | acquire lock => exact Nat.le_refl _

/-- It is enough that others only store what has been made before the
beginning. -/
theorem othersKnown_history {key : CacheKey} {α : Type} (p : Course α) {w : Surroundings}
    (h : ∀ turn ∈ w.script, ∀ s ∈ turn.meanwhile, s.2.serial < w.nextSerial) :
    OthersKnown key (p.history w) := by
  induction p generalizing w with
  | ended a => exact fun m hm => absurd hm List.not_mem_nil
  | does act next ih =>
    refine othersKnown_cons.2 ⟨?_, ih _ fun turn hturn s hs => ?_⟩
    · intro value hvalue
      unfold Moment.othersStores at hvalue
      cases act with
      | send origin request =>
        cases hw : w.script with
        | nil =>
          rw [hw] at hvalue
          cases hvalue
        | cons turn more =>
          rw [hw] at hvalue
          exact h turn (hw ▸ List.mem_cons_self) _ hvalue
      | _ => cases hvalue
    · exact Nat.lt_of_lt_of_le (h turn (Surroundings.mem_script_of_perform hturn) s hs)
        (w.nextSerial_le_perform act)

namespace Surroundings

variable {w : Surroundings} {key : CacheKey}

/-- What is found is what is there. -/
theorem stored?_of_lookup {issued : Issued} (h : (w.lookup key).1 = some issued) :
    ∃ e, w.cache.stored? key = some e ∧ w.now - e.storedAt ≤ w.cache.ttl ∧ e.value = issued := by
  rw [lookup_fst] at h
  cases hstored : w.cache.stored? key with
  | none =>
    rw [hstored] at h
    cases h
  | some e =>
    rw [hstored] at h
    cases hfresh : w.cache.isFresh w.now e with
    | false =>
      rw [Option.filter_some_neg (by simp [hfresh])] at h
      cases h
    | true =>
      rw [Option.filter_some_pos hfresh] at h
      exact ⟨e, rfl, (CatalogCache.isFresh_iff _ _ _).1 hfresh, Option.some_inj.1 h⟩

theorem Known.of_lookup (hw : w.Known key) {issued : Issued}
    (h : (w.lookup key).1 = some issued) : issued.serial < w.nextSerial := by
  obtain ⟨e, hstored, -, rfl⟩ := stored?_of_lookup h
  exact hw e hstored

theorem Known.invalidate (hw : w.Known key) (used : Issued) :
    (w.invalidate key used).Known key := by
  intro e he
  rw [w.stored?_invalidate, if_pos rfl] at he
  exact hw e (Option.eq_some_of_filter_eq_some he)

theorem Known.lookup (hw : w.Known key) : (w.lookup key).2.Known key := by
  intro e he
  rw [w.stored?_lookup, if_pos rfl] at he
  exact hw e (Option.eq_some_of_filter_eq_some he)

/-- What is there after a justified act has been made already. -/
theorem Known.perform {c : Caller} {previous : Option Moment} {act : Act} (hw : w.Known c.key)
    (hjustified : Justified c previous ⟨w, act⟩) (hprevious : ∀ p, previous = some p → p.after = w)
    (hothers : ∀ value, (c.key, value) ∈ (Moment.mk w act).othersStores →
      value.serial < w.nextSerial) : (w.perform act).2.Known c.key := by
  intro e he
  have hle := w.nextSerial_le_perform act
  by_cases hsame : (w.perform act).2.cache.stored? c.key = w.cache.stored? c.key
  · exact Nat.lt_of_lt_of_le (hw e (hsame ▸ he)) hle
  · have hchange : Change c previous ⟨w, act⟩ c.key := hjustified.change hsame
    have heq : (Moment.mk w act).after.cache.stored? c.key = some e := he
    -- only two of the reasons leave something under the key
    cases hchange with
    | others hother hafter =>
      obtain rfl := Option.some_inj.1 (hafter.symm.trans heq)
      exact Nat.lt_of_lt_of_le (hothers _ hother) hle
    | expired hkey hact hbefore hold hafter => cases hafter.symm.trans heq
    | rejected hkey hact hbefore hserial hrejected hafter => cases hafter.symm.trans heq
    | renewed hkey hact hp hissued hserial hafter =>
      rename_i issued p
      obtain rfl := Option.some_inj.1 (hafter.symm.trans heq)
      have hafterp := hprevious p hp
      refine Nat.lt_of_lt_of_le ?_ hle
      show issued.serial < w.nextSerial
      rw [hserial, ← hafterp, Moment.after, hissued]
      exact Nat.lt_succ_self _

end Surroundings

/-- **What is there has been made already at any time**, if all that was done
was justified. -/
theorem Course.known_after {α : Type} {c : Caller} {p : Course α} {previous : Option Moment}
    {w : Surroundings} (hw : w.Known c.key) (hjustified : AllJustified c previous (p.history w))
    (hprevious : ∀ q, previous = some q → q.after = w)
    (hothers : OthersKnown c.key (p.history w)) : ∀ m ∈ p.history w, m.after.Known c.key := by
  induction p generalizing previous w with
  | ended a => exact fun m hm => absurd hm List.not_mem_nil
  | does act next ih =>
    rw [Course.history_does] at hjustified hothers ⊢
    obtain ⟨hother, hmore⟩ := othersKnown_cons.1 hothers
    have hnext := hw.perform hjustified.1 hprevious hother
    refine List.forall_mem_cons.2 ⟨hnext, ih _ hnext hjustified.2 (fun q hq => ?_) hmore⟩
    cases hq
    rfl

/-- So it is in the end. -/
theorem Course.known_run {α : Type} {c : Caller} {p : Course α} {previous : Option Moment}
    {w : Surroundings} (hw : w.Known c.key) (hjustified : AllJustified c previous (p.history w))
    (hprevious : ∀ q, previous = some q → q.after = w)
    (hothers : OthersKnown c.key (p.history w)) : (p.run w).2.Known c.key := by
  induction p generalizing previous w with
  | ended a => exact hw
  | does act next ih =>
    rw [Course.history_does] at hjustified hothers
    obtain ⟨hother, hmore⟩ := othersKnown_cons.1 hothers
    refine ih _ (hw.perform hjustified.1 hprevious hother) hjustified.2 (fun q hq => ?_) hmore
    cases hq
    rfl

theorem Course.nextSerial_le_run {α : Type} (p : Course α) (w : Surroundings) :
    w.nextSerial ≤ (p.run w).2.nextSerial := by
  induction p generalizing w with
  | ended a => exact Nat.le_refl _
  | does act next ih => exact Nat.le_trans (w.nextSerial_le_perform act) (ih _ _)

/-! ## What a trial leaves -/

section Asked

variable {c : Caller} {call : Call} {payload : Option Octets} {held : Issued} {request : Request}
  {reply : Reply} {w w' : Surroundings}

theorem Asked.after_asking (hasked : Asked call payload held request w reply w') :
    (Moment.asking held request w).after = w' := by
  show (w.send (.resource held) request).2 = w'
  rw [hasked.answered]

theorem Asked.nextSerial_eq (hasked : Asked call payload held request w reply w') :
    w'.nextSerial = w.nextSerial := by
  have hsend := w.nextSerial_send (.resource held) request
  rwa [hasked.answered] at hsend

/-- A request for the resource keeps the numbers in order. -/
theorem Asked.known (hasked : Asked call payload held request w reply w') (hw : w.Known c.key)
    (hothers : ∀ value, (c.key, value) ∈ (Moment.asking held request w).othersStores →
      value.serial < w.nextSerial) : w'.Known c.key := by
  have hjustified : Justified c none ⟨w, .send (.resource held) request⟩ := trivial
  have hknown := hw.perform hjustified (fun p hp => absurd hp.symm (Option.some_ne_none p)) hothers
  have hafter : (w.perform (.send (.resource held) request)).2 = w' := hasked.after_asking
  rwa [hafter] at hknown

/-- Getting another catalog keeps the numbers in order. -/
theorem Asked.known_replace (hasked : Asked call payload held request w reply w')
    (h : reply.isRejection = true) (hw : w'.Known c.key)
    (hothers : OthersKnown c.key ((c.replace held).history w')) :
    ((c.replace held).run w').2.Known c.key := by
  have hjustified : AllJustified c (some (.asking held request w)) ((c.replace held).history w') :=
    c.allJustified_replace (hasked.bind_rejected? h) w'
  refine Course.known_run hw hjustified (fun q hq => ?_) hothers
  cases hq
  exact hasked.after_asking

end Asked

/-! ## What a search yields -/

namespace Caller

variable {c : Caller} {w : Surroundings} {issued held : Issued}

/-- What the holder of the lock ends with is older than the next catalog. -/
theorem serial_lt_refreshIfMissing (hw : w.Known c.key)
    (h : (c.refreshIfMissing.run w).1 = .ok issued) :
    issued.serial < (c.refreshIfMissing.run w).2.nextSerial := by
  cases hfound : (w.lookup c.key).1 with
  | some found =>
    rw [(refreshIfMissing_of_found hfound).2] at h ⊢
    cases h
    exact hw.of_lookup hfound
  | none =>
    rw [(refreshIfMissing_of_missing hfound).2] at h ⊢
    obtain ⟨ms, v, -, hserial, -, hafter⟩ := refresh_ok h
    rw [hafter, hserial]
    exact Nat.lt_succ_self _

theorem serial_lt_authenticateOnce (hw : w.Known c.key)
    (h : (c.authenticateOnce.run w).1 = .ok issued) :
    issued.serial < (c.authenticateOnce.run w).2.nextSerial := by
  rw [run_authenticateOnce_fst] at h
  rw [run_authenticateOnce_snd]
  have hlocked : (w.locked c.key).Known c.key := hw
  exact Nat.lt_of_lt_of_le (serial_lt_refreshIfMissing hlocked h)
    (Surroundings.nextSerial_le_perform _ (.release _))

/-- What takes the place of a catalog is older than the next one. -/
theorem serial_lt_replace (hw : w.Known c.key)
    (h : ((c.replace held).run w).1 = .ok issued) :
    issued.serial < ((c.replace held).run w).2.nextSerial := by
  have hleft := hw.invalidate held
  cases hfound : ((w.invalidate c.key held).lookup c.key).1 with
  | some found =>
    rw [(replace_of_found hfound).2] at h ⊢
    cases h
    exact hleft.of_lookup hfound
  | none =>
    rw [(replace_of_missing hfound).2] at h ⊢
    exact serial_lt_authenticateOnce hleft.lookup h

/-- What a call begins with is older than the next catalog. -/
theorem serial_lt_resolve (hw : w.Known c.key) (hothers : OthersKnown c.key (c.resolve.history w))
    (h : (c.resolve.run w).1 = .ok issued) :
    issued.serial < (c.resolve.run w).2.nextSerial := by
  cases hfound : (w.lookup c.key).1 with
  | none =>
    rw [(resolve_of_missing hfound).2] at h ⊢
    exact serial_lt_authenticateOnce hw.lookup h
  | some held =>
    rw [(resolve_of_found hfound).1] at hothers
    rw [(resolve_of_found hfound).2] at h ⊢
    have hheld : held.serial < (w.lookup c.key).2.nextSerial := hw.of_lookup hfound
    rcases c.recheck_cases held (w.lookup c.key).2 with
      ⟨hkept, -⟩ | ⟨front, m, -, -, hhistory, hrun⟩
    · rw [hkept issued h]
      exact Nat.lt_of_lt_of_le hheld (Course.nextSerial_le_run _ _)
    · rw [hrun] at h ⊢
      -- others may have stored something while the probe was on its way
      have hm : m ∈ (c.recheck held).history (w.lookup c.key).2 := by
        rw [hhistory]
        exact List.mem_append_right _ List.mem_cons_self
      have hjustified : AllJustified c none ((c.recheck held).history (w.lookup c.key).2) :=
        c.allJustified_recheck held _
      have hafter := Course.known_after hw.lookup hjustified
        (fun q hq => absurd hq.symm (Option.some_ne_none q)) (othersKnown_cons.1 hothers).2 m hm
      exact serial_lt_authenticateOnce (hafter.invalidate held) h

end Caller

end CloudClient
