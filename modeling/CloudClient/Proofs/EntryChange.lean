import CloudClient.Proofs.Pursuit

/-!
# Why an entry of the cache changes

During a call an entry of the shared cache can change at many moments: somebody
else stores a catalog while a request is on its way, a lookup drops an entry
that is too old, a rejected catalog is removed, a new one is stored. This module
lists the reasons (`Change`) and proves that there are no others, at any
moment of any call, for any key (`change_of_split`).

## What makes a removal or a store right

Both are right only by what happened just before: a catalog may be removed when
the last reply has rejected that catalog, and stored when it has just been
made. So the moments of a caller are judged one after another, each with the
one before it: `Justified`. A search for a catalog consists of justified moments
wherever it begins, except that one in place of a rejected catalog must follow
the rejection.
-/

namespace CloudClient

namespace Moment

/-- What others store in the cache at a moment, which is while a request is on
its way. -/
def othersStores (m : Moment) : List (CacheKey × Issued) :=
  match m.act with
  | .send _ _ => (m.before.script.head?.map Turn.meanwhile).getD []
  | _ => []

/-- **The catalog that is rejected at a moment**: the resource or a probe is
asked for with it, and the reply rejects it. -/
def rejected? (m : Moment) : Option Issued :=
  match m.act with
  | .send (.resource used) request =>
    if (m.before.send (.resource used) request).1.isRejection then some used else none
  | .send (.probe used) request =>
    match Caller.speaksFor request (m.before.send (.probe used) request).1 with
    | .ok false => some used
    | _ => none
  | _ => none

end Moment

/-- Getting another catalog, nothing is rejected. -/
theorem Moment.rejected?_of_isRenewing {m : Moment} (h : m.act.isRenewing = true) :
    m.rejected? = none := by
  obtain ⟨w, act⟩ := m
  cases act with
  | send origin request =>
    cases origin with
    | authentication => rfl
    | probe used => cases h
    | resource used => cases h
  | _ => rfl

theorem Course.rejected?_of_confined {α : Type} {p : Course α}
    (h : p.Confined (·.isRenewing = true)) {w : Surroundings} {m : Moment}
    (hm : m ∈ p.history w) : m.rejected? = none :=
  Moment.rejected?_of_isRenewing (h.of_mem_history hm)

/-- **Why the entry of a key changes** at a moment of a caller, with the moment
before. -/
inductive Change (c : Caller) (previous : Option Moment) (m : Moment) (key : CacheKey) : Prop where
  | others {value : Issued} {time : Int} (hother : (key, value) ∈ m.othersStores)
      (hafter : m.after.cache.stored? key = some ⟨value, time⟩)
  | expired {e : CatalogCache.Entry} (hkey : key = c.key) (hact : m.act = .lookup key)
      (hbefore : m.before.cache.stored? key = some e)
      (hold : m.before.cache.ttl < m.before.now - e.storedAt)
      (hafter : m.after.cache.stored? key = none)
  | rejected {used : Issued} {e : CatalogCache.Entry} (hkey : key = c.key)
      (hact : m.act = .invalidate key used) (hbefore : m.before.cache.stored? key = some e)
      (hsame : e.value.serial = used.serial)
      (hrejected : previous.bind Moment.rejected? = some used)
      (hafter : m.after.cache.stored? key = none)
  | renewed {issued : Issued} {p : Moment} (hkey : key = c.key) (hact : m.act = .store key issued)
      (hprevious : previous = some p) (hissued : p.act = .issue issued.catalog)
      (hserial : issued.serial = p.before.nextSerial)
      (hafter : m.after.cache.stored? key = some ⟨issued, m.before.now⟩)

/-! ## What an act does to an entry -/

namespace Surroundings

variable (w : Surroundings) (key : CacheKey)

/-- While a request is on its way only others change an entry. -/
theorem stored?_send (origin : Origin) (request : Request) :
    (w.send origin request).2.cache.stored? key = w.cache.stored? key
      ∨ ∃ value time, (key, value) ∈ (Moment.mk w (.send origin request)).othersStores
        ∧ (w.send origin request).2.cache.stored? key = some ⟨value, time⟩ := by
  unfold Moment.othersStores send
  cases w.script with
  | nil => exact .inl rfl
  | cons turn more =>
    rcases stored?_storeAll key (w.now + turn.lead) turn.meanwhile w.cache with
      h | ⟨value, hmem, h⟩
    · exact .inl h
    · exact .inr ⟨value, w.now + turn.lead, hmem, h⟩

end Surroundings

/-! ## Justified moments -/

/-- **A moment that is justified** by the one before it. A caller only uses its
own key; it removes what has just been rejected, and stores what it has just
made. -/
def Justified (c : Caller) (previous : Option Moment) (m : Moment) : Prop :=
  match m.act with
  | .lookup key => key = c.key
  | .invalidate key used => key = c.key ∧ previous.bind Moment.rejected? = some used
  | .store key issued => key = c.key ∧ ∃ p, previous = some p
      ∧ p.act = .issue issued.catalog ∧ issued.serial = p.before.nextSerial
  | _ => True

/-- What a filter changes it drops. -/
theorem exists_of_filter_ne {α : Type} {o : Option α} {keep : α → Bool} (h : o.filter keep ≠ o) :
    ∃ e, o = some e ∧ keep e = false ∧ o.filter keep = none := by
  cases o with
  | none => exact absurd rfl h
  | some e =>
    cases hk : keep e with
    | true => exact absurd (Option.filter_some_pos hk) h
    | false => exact ⟨e, rfl, hk, Option.filter_some_neg (by simp [hk])⟩

/-- An entry that changes at a justified moment does so for one of the
reasons. -/
theorem Justified.change {c : Caller} {previous : Option Moment} {m : Moment}
    (h : Justified c previous m) {key : CacheKey}
    (hchange : m.after.cache.stored? key ≠ m.before.cache.stored? key) :
    Change c previous m key := by
  obtain ⟨w, act⟩ := m
  cases act with
  | send origin request =>
    rcases w.stored?_send key origin request with hsame | ⟨value, time, hmem, hafter⟩
    · exact absurd hsame hchange
    · exact .others hmem hafter
  | lookup k =>
    obtain rfl : k = c.key := h
    have hafter := w.stored?_lookup c.key key
    by_cases hk : c.key = key
    · subst hk
      rw [if_pos rfl] at hafter
      obtain ⟨e, hbefore, hold, hnone⟩ := exists_of_filter_ne (hafter ▸ hchange)
      have hnotgood : ¬ w.now - e.storedAt ≤ w.cache.ttl := by
        rw [← CatalogCache.isFresh_iff, hold]
        exact Bool.false_ne_true
      exact .expired rfl rfl hbefore (Int.not_le.1 hnotgood) (hafter.trans hnone)
    · rw [if_neg hk] at hafter
      exact absurd hafter hchange
  | invalidate k used =>
    obtain ⟨rfl, hrejected⟩ := h
    have hafter := w.stored?_invalidate c.key used key
    by_cases hk : c.key = key
    · subst hk
      rw [if_pos rfl] at hafter
      obtain ⟨e, hbefore, hexpected, hnone⟩ := exists_of_filter_ne (hafter ▸ hchange)
      have hsame : used.serial = e.value.serial := by
        simpa [CatalogCache.isExpected] using hexpected
      exact .rejected rfl rfl hbefore hsame.symm hrejected (hafter.trans hnone)
    · rw [if_neg hk] at hafter
      exact absurd hafter hchange
  | store k issued =>
    obtain ⟨rfl, p, hprevious, hissued, hserial⟩ := h
    have hafter := w.stored?_store c.key issued key
    by_cases hk : c.key = key
    · subst hk
      rw [if_pos rfl] at hafter
      exact .renewed rfl rfl hprevious hissued hserial hafter
    · rw [if_neg hk] at hafter
      exact absurd hafter hchange
  | release lock => exact absurd (w.stored?_release key lock) hchange
  | draw => exact absurd rfl hchange
  | pause delay => exact absurd rfl hchange
  | authentication => exact absurd rfl hchange
  | issue catalog => exact absurd rfl hchange
  | sessionLock k => exact absurd rfl hchange
  | acquire lock => exact absurd rfl hchange

/-- Each moment is justified by the one before it. -/
def AllJustified (c : Caller) : Option Moment → List Moment → Prop
  | _, [] => True
  | previous, m :: ms => Justified c previous m ∧ AllJustified c (some m) ms

section AllJustified

variable {c : Caller} {previous : Option Moment} {ms ns : List Moment}

theorem allJustified_append :
    AllJustified c previous (ms ++ ns)
      ↔ AllJustified c previous ms ∧ AllJustified c (ms.getLast?.or previous) ns := by
  induction ms generalizing previous with
  | nil => simp [AllJustified]
  | cons m ms ih =>
    rw [List.cons_append, AllJustified, AllJustified, ih, and_assoc]
    cases ms with
    | nil => rfl
    | cons n ms => rw [List.getLast?_cons_cons]; simp [List.getLast?_cons]

/-- In the middle of justified moments each is justified by the last one before
it. -/
theorem AllJustified.of_split {pre post : List Moment} {m : Moment}
    (h : AllJustified c none (pre ++ m :: post)) : Justified c pre.getLast? m := by
  have hm := (allJustified_append.1 h).2.1
  rwa [Option.or_none] at hm

/-- Whether an act is justified whatever came before. -/
def Act.IsFree (c : Caller) : Act → Prop
  | .lookup key => key = c.key
  | .invalidate _ _ | .store _ _ => False
  | _ => True

theorem justified_of_isFree {m : Moment} (h : m.act.IsFree c) : Justified c previous m := by
  obtain ⟨w, act⟩ := m
  cases act with
  | lookup key => exact h
  | invalidate key used => cases h
  | store key issued => cases h
  | _ => trivial

theorem allJustified_of_isFree (h : ∀ m ∈ ms, m.act.IsFree c) : AllJustified c previous ms := by
  induction ms generalizing previous with
  | nil => trivial
  | cons m ms ih =>
    exact ⟨justified_of_isFree (h m List.mem_cons_self),
      ih fun n hn => h n (List.mem_cons_of_mem _ hn)⟩

end AllJustified

/-! ## Every moment of a caller is justified -/

namespace Caller

variable (c : Caller) {previous : Option Moment}

theorem authenticate_isFree : c.authenticate.Confined (Act.IsFree c) := by
  unfold authenticate
  generalize Authentication.usual c.session = talk
  refine ⟨trivial, fun _ => ?_⟩
  refine Course.Confined.andThen ?_ fun outcome => ?_
  · exact (Course.confined_converse .authentication talk).mono fun _ ⟨_, h⟩ => h ▸ trivial
  · cases outcome with
    | error failure => trivial
    | ok catalog => exact ⟨trivial, fun _ => trivial⟩

theorem allJustified_refresh (w : Surroundings) :
    AllJustified c previous (c.refresh.history w) := by
  unfold refresh
  rw [Course.history_andThen, allJustified_append]
  refine ⟨allJustified_of_isFree fun m hm => c.authenticate_isFree.of_mem_history hm, ?_⟩
  cases houtcome : (c.authenticate.run w).1 with
  | error failure => trivial
  | ok issued =>
    obtain ⟨ms, v, hhistory, hserial, -⟩ := authenticate_ok houtcome
    rw [hhistory, List.getLast?_concat]
    exact ⟨⟨rfl, _, rfl, rfl, hserial⟩, trivial⟩

theorem allJustified_refreshIfMissing (w : Surroundings) :
    AllJustified c previous (c.refreshIfMissing.history w) := by
  cases h : (w.lookup c.key).1 with
  | some issued =>
    rw [(refreshIfMissing_of_found h).1]
    exact ⟨rfl, trivial⟩
  | none =>
    rw [(refreshIfMissing_of_missing h).1]
    exact ⟨rfl, c.allJustified_refresh _⟩

theorem allJustified_authenticateOnce (w : Surroundings) :
    AllJustified c previous (c.authenticateOnce.history w) := by
  rw [history_authenticateOnce]
  refine ⟨trivial, trivial, ?_⟩
  rw [allJustified_append]
  exact ⟨c.allJustified_refreshIfMissing _, trivial, trivial⟩

/-- **In place of a rejected catalog**: the removal follows the rejection. -/
theorem allJustified_replace {held : Issued}
    (hrejected : previous.bind Moment.rejected? = some held) (w : Surroundings) :
    AllJustified c previous ((c.replace held).history w) := by
  cases h : ((w.invalidate c.key held).lookup c.key).1 with
  | some issued =>
    rw [(replace_of_found h).1]
    exact ⟨⟨rfl, hrejected⟩, rfl, trivial⟩
  | none =>
    rw [(replace_of_missing h).1]
    exact ⟨⟨rfl, hrejected⟩, rfl, c.allJustified_authenticateOnce _⟩

theorem wantsProbe_isFree : c.wantsProbe.Confined (Act.IsFree c) := by
  unfold wantsProbe
  split
  · exact ⟨trivial, fun _ => trivial⟩
  · trivial

/-- **A probe rejects a catalog or speaks for it**; it is the only thing that
happens then, if anything does. -/
theorem accepts_cases (held : Issued) (w : Surroundings) :
    ((c.accepts held).run w).1 ≠ .ok false
        ∧ (∀ m ∈ (c.accepts held).history w, m.rejected? = none)
      ∨ ∃ m, (c.accepts held).history w = [m] ∧ m.rejected? = some held
        ∧ (c.accepts held).run w = (.ok false, m.after) := by
  rcases c.accepts_eq held with ⟨result, hresult, heq⟩ | ⟨request, heq⟩
  · rw [heq]
    exact .inl ⟨hresult, fun m hm => absurd hm List.not_mem_nil⟩
  · rw [heq]
    have hrejected : (Moment.mk w (.send (.probe held) request)).rejected?
        = match speaksFor request (w.send (.probe held) request).1 with
          | .ok false => some held
          | _ => none := rfl
    show (speaksFor request (w.send (.probe held) request).1).mapError Failure.defect ≠ .ok false
          ∧ (∀ m ∈ [Moment.mk w (.send (.probe held) request)], m.rejected? = none)
      ∨ ∃ m, [Moment.mk w (.send (.probe held) request)] = [m] ∧ m.rejected? = some held
        ∧ ((speaksFor request (w.send (.probe held) request).1).mapError Failure.defect,
          (w.send (.probe held) request).2) = (.ok false, m.after)
    cases hspeaks : speaksFor request (w.send (.probe held) request).1 with
    | error defect =>
      rw [hspeaks] at hrejected
      exact .inl ⟨nofun, List.forall_mem_singleton.2 hrejected⟩
    | ok speaks =>
      rw [hspeaks] at hrejected
      cases speaks with
      | true => exact .inl ⟨nofun, List.forall_mem_singleton.2 hrejected⟩
      | false => exact .inr ⟨_, rfl, hrejected, rfl⟩

/-- A probe is justified, whatever its reply. -/
theorem accepts_isFree (held : Issued) : (c.accepts held).Confined (Act.IsFree c) := by
  unfold accepts
  split
  · trivial
  · trivial
  · exact ⟨trivial, fun _ => trivial⟩

theorem allJustified_recheck (held : Issued) (w : Surroundings) :
    AllJustified c previous ((c.recheck held).history w) := by
  unfold recheck
  rw [Course.history_andThen, allJustified_append]
  refine ⟨allJustified_of_isFree fun m hm => c.wantsProbe_isFree.of_mem_history hm, ?_⟩
  cases (c.wantsProbe.run w).1 with
  | false => trivial
  | true =>
    rw [Course.history_andThen, allJustified_append]
    refine ⟨allJustified_of_isFree fun m hm => (c.accepts_isFree held).of_mem_history hm, ?_⟩
    rcases c.accepts_cases held (c.wantsProbe.run w).2 with
      ⟨hspeaks, -⟩ | ⟨m, hhistory, hrejected, hrun⟩
    · rcases houtcome : ((c.accepts held).run (c.wantsProbe.run w).2).1 with failure | (_ | _)
      · trivial
      · exact absurd houtcome hspeaks
      · trivial
    · rw [hhistory, hrun]
      exact ⟨⟨rfl, hrejected⟩, c.allJustified_authenticateOnce _⟩

/-- **A cached catalog is kept, or rejected by a probe**; in the latter case it
is removed, and what the holder of the lock has takes its place. -/
theorem recheck_cases (held : Issued) (w : Surroundings) :
    (∀ other, ((c.recheck held).run w).1 = .ok other → other = held)
        ∧ (∀ m ∈ (c.recheck held).history w, m.rejected? = none)
      ∨ ∃ front m, (∀ n ∈ front, n.rejected? = none) ∧ m.rejected? = some held
        ∧ (c.recheck held).history w
          = front ++ m :: ⟨m.after, .invalidate c.key held⟩ ::
            c.authenticateOnce.history (m.after.invalidate c.key held)
        ∧ (c.recheck held).run w
          = c.authenticateOnce.run (m.after.invalidate c.key held) := by
  have hdraws : ∀ n ∈ c.wantsProbe.history w, n.rejected? = none := fun n =>
    Course.rejected?_of_confined c.wantsProbe_isRenewing
  unfold recheck
  rw [Course.history_andThen, Course.run_andThen]
  cases (c.wantsProbe.run w).1 with
  | false =>
    refine .inl ⟨(fun other h => by cases h; rfl), ?_⟩
    exact List.forall_mem_append.2 ⟨hdraws, fun m hm => absurd hm List.not_mem_nil⟩
  | true =>
    rw [Course.history_andThen, Course.run_andThen]
    rcases c.accepts_cases held (c.wantsProbe.run w).2 with
      ⟨hspeaks, hprobe⟩ | ⟨m, hhistory, hrejected, hrun⟩
    · rcases houtcome : ((c.accepts held).run (c.wantsProbe.run w).2).1 with failure | (_ | _)
      · refine .inl ⟨(fun other h => by cases h), ?_⟩
        rw [Course.history_ended, List.append_nil]
        exact List.forall_mem_append.2 ⟨hdraws, hprobe⟩
      · exact absurd houtcome hspeaks
      · refine .inl ⟨(fun other h => by cases h; rfl), ?_⟩
        rw [Course.history_ended, List.append_nil]
        exact List.forall_mem_append.2 ⟨hdraws, hprobe⟩
    · rw [hhistory, hrun]
      exact .inr ⟨c.wantsProbe.history w, m, hdraws, hrejected, rfl, rfl⟩

/-- **At the beginning of a call** everything is justified. -/
theorem allJustified_resolve (w : Surroundings) :
    AllJustified c previous (c.resolve.history w) := by
  cases h : (w.lookup c.key).1 with
  | some held =>
    rw [(resolve_of_found h).1]
    exact ⟨rfl, c.allJustified_recheck held _⟩
  | none =>
    rw [(resolve_of_missing h).1]
    exact ⟨rfl, c.allJustified_authenticateOnce _⟩

end Caller

/-- The moment at which a reply rejects the catalog that the resource is asked
for with. -/
theorem Asked.rejected? {call : Call} {payload : Option Octets} {held : Issued}
    {request : Request} {w w' : Surroundings} {reply : Reply}
    (hasked : Asked call payload held request w reply w') (h : reply.isRejection = true) :
    (Moment.asking held request w).rejected? = some held := by
  show (if (w.send (.resource held) request).1.isRejection then some held else none) = some held
  rw [hasked.answered, if_pos h]

theorem Asked.bind_rejected? {call : Call} {payload : Option Octets} {held : Issued}
    {request : Request} {w w' : Surroundings} {reply : Reply}
    (hasked : Asked call payload held request w reply w') (h : reply.isRejection = true) :
    (some (Moment.asking held request w)).bind Moment.rejected? = some held :=
  hasked.rejected? h

theorem Asked.rejected?_eq_none {call : Call} {payload : Option Octets} {held : Issued}
    {request : Request} {w w' : Surroundings} {reply : Reply}
    (hasked : Asked call payload held request w reply w') (h : reply.isRejection = false) :
    (Moment.asking held request w).rejected? = none := by
  show (if (w.send (.resource held) request).1.isRejection then some held else none) = none
  rw [hasked.answered, h]
  rfl

/-- **In the pursuit of a call** everything is justified. -/
theorem Pursuit.allJustified {c : Caller} {call : Call} {payload : Option Octets} {held : Issued}
    {renewals pauses : Nat} {w : Surroundings} {moments : List Moment}
    {result : Except Failure CallResult} {previous : Option Moment}
    (h : Pursuit c call payload held renewals pauses w moments result) :
    AllJustified c previous moments := by
  -- only a removal looks back, and that is to the trial in front of it
  induction h generalizing previous with
  | unsent hunsent => trivial
  | settled hasked h => exact ⟨trivial, trivial⟩
  | rejected hasked h hr => exact ⟨trivial, trivial⟩
  | lost hasked h hlost =>
    exact ⟨trivial, c.allJustified_replace (hasked.bind_rejected? h) _⟩
  | renewed hasked h hother hrest ih =>
    have hreplaced := c.allJustified_replace (hasked.bind_rejected? h)
    exact ⟨trivial, allJustified_append.2 ⟨hreplaced _, ih⟩⟩
  | throttled hasked h hr ht => exact ⟨trivial, trivial⟩
  | endless hasked h hr ht hdelay => exact ⟨trivial, trivial⟩
  | paused hasked h hrest ih => exact ⟨trivial, trivial, ih⟩

/-- **A call is justified throughout.** -/
theorem Caller.allJustified_perform (c : Caller) (call : Call) (w : Surroundings) :
    AllJustified c none ((c.perform call).history w) := by
  cases hbody : call.body.encode with
  | error defect =>
    unfold Caller.perform
    rw [hbody]
    trivial
  | ok payload =>
    rw [c.perform_of_encode hbody]
    rcases performWith_cases c call payload w with
      ⟨failure, -, hhistory, -⟩ | ⟨held, rest, -, hhistory, hpursuit⟩
    · rw [hhistory]
      exact c.allJustified_resolve w
    · rw [hhistory, allJustified_append]
      exact ⟨c.allJustified_resolve w, hpursuit.allJustified⟩

/-- **There is no other reason for an entry to change.** -/
theorem change_of_split {c : Caller} {moments pre post : List Moment} {m : Moment}
    (h : AllJustified c none moments) (hsplit : moments = pre ++ m :: post) {key : CacheKey}
    (hchange : m.after.cache.stored? key ≠ m.before.cache.stored? key) :
    Change c pre.getLast? m key := by
  subst hsplit
  exact h.of_split.change hchange

end CloudClient
