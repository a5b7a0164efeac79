import CloudClient.Call.Surroundings

/-!
# The course of a call

A call does one thing after another: it looks into the cache, takes a lock,
sends a request, draws a random number. What it does next depends on what
came of what it did before, and on nothing else. A `Course` is a call as such
a value: it has ended with a result, or it does an `Act` and goes on in
dependence on the answer.

## One course, three readings

Whoever makes a call runs its course in surroundings: `Course.run`. To say
what happens on the way, and not only what comes of it, there is
`Course.history`, the acts of the course with the surroundings in which each
of them was done. And where many callers share one cache, each act is one
step, between which the others may do theirs. What a call does is written
down once, as its course, and all three readings are readings of that.

Two courses one after the other are one course (`Course.andThen`); it ends as
the second does, and its history is that of the first followed by that of the
second: `run_andThen` and `history_andThen`.

Some acts are seen from outside. They are the `Course.outward` events of a
course, and just those are recorded when it is run (`events_run`).
-/

namespace CloudClient

/-- **One thing that a call does.** Each of them is indivisible: nobody else
does anything in the middle of it, except that others may use the cache while
a request is on its way. -/
inductive Act where
  | send (origin : Origin) (request : Request)
  /-- Draws a random number. -/
  | draw
  | pause (delay : Binary64)
  /-- Begins to authenticate. -/
  | authentication
  /-- Looks up the catalog of a key in the cache. -/
  | lookup (key : CacheKey)
  /-- Removes the catalog of a key if it is the given one. -/
  | invalidate (key : CacheKey) (value : Issued)
  /-- Makes a catalog known as a new one. -/
  | issue (catalog : Catalog)
  /-- Stores a catalog under a key. -/
  | store (key : CacheKey) (value : Issued)
  /-- Asks for the lock of a key. -/
  | sessionLock (key : CacheKey)
  | acquire (lock : LockId)
  | release (lock : LockId)

/-- What comes of an act. -/
@[reducible] def Act.Answer : Act → Type
  | .send .. => Reply
  | .draw => Binary64
  | .lookup _ => Option Issued
  | .issue _ => Issued
  | .sessionLock _ => LockId
  | _ => Unit

/-- What a call does in dependence on what comes of it. -/
inductive Course (α : Type) where
  /-- Nothing more is done. -/
  | ended (result : α)
  /-- An act is done, and its answer decides how it goes on. -/
  | does (act : Act) (next : act.Answer → Course α)

/-- An act done in surroundings: its answer, and the surroundings after it. -/
def Surroundings.perform (w : Surroundings) : (act : Act) → act.Answer × Surroundings
  | .send origin request => w.send origin request
  | .draw => w.draw
  | .pause delay => ((), w.pause delay)
  | .authentication => ((), w.note .authentication)
  | .lookup key => w.lookup key
  | .invalidate key value => ((), w.invalidate key value)
  | .issue catalog => w.issue catalog
  | .store key value => ((), w.store key value)
  | .sessionLock key => w.sessionLock key
  | .acquire lock => ((), w.acquire lock)
  | .release lock => ((), w.release lock)

/-- **A moment of a call**: an act, and the surroundings in which it is
done. -/
structure Moment where
  /-- The surroundings before the act. -/
  before : Surroundings
  act : Act

namespace Moment

/-- The surroundings after the act. -/
def after (m : Moment) : Surroundings := (m.before.perform m.act).2

/-- What is seen of the act from outside, if anything is. -/
def event? (m : Moment) : Option Event :=
  match m.act with
  | .send origin request => some (.exchange origin request (m.before.send origin request).1)
  | .draw => some (.draw m.before.draws.head)
  | .pause delay => some (.pause delay)
  | .authentication => some .authentication
  | _ => none

end Moment

/-- An act records what is seen of it, and nothing else. -/
theorem Surroundings.events_perform (w : Surroundings) (act : Act) :
    (w.perform act).2.events = w.events ++ (Moment.event? ⟨w, act⟩).toList := by
  cases act with
  | send origin request =>
    simp only [perform, send, Moment.event?]
    cases w.script with
    | nil => rfl
    | cons turn more => rfl
  | release lock =>
    simp only [perform, release, Moment.event?]
    cases w.cache.release lock <;> simp
  | draw => rfl
  | pause delay => rfl
  | authentication => rfl
  | lookup key => simp [perform, lookup, Moment.event?]
  | invalidate key value => simp [perform, invalidate, Moment.event?]
  | issue catalog => simp [perform, issue, Moment.event?]
  | store key value => simp [perform, store, Moment.event?]
  | sessionLock key => simp [perform, sessionLock, Moment.event?]
  | acquire lock => simp [perform, acquire, Moment.event?]

/-- The replies that are still to come after an act were so before. -/
theorem Surroundings.mem_script_of_perform {w : Surroundings} {act : Act} {turn : Turn}
    (h : turn ∈ (w.perform act).2.script) : turn ∈ w.script := by
  cases act with
  | send origin request =>
    have hsent : turn ∈ (w.send origin request).2.script := h
    rw [w.script_send] at hsent
    exact List.mem_of_mem_tail hsent
  | release lock =>
    have hreleased : turn ∈ (w.release lock).script := h
    unfold release at hreleased
    cases hgiven : w.cache.release lock <;> rw [hgiven] at hreleased <;> exact hreleased
  | _ => exact h

namespace Course

variable {α β : Type}

/-- A course and the one that its result leads to. -/
def andThen (p : Course α) (f : α → Course β) : Course β :=
  match p with
  | ended a => f a
  | does act next => does act fun answer => (next answer).andThen f

/-- A conversation, held for the given purpose. -/
def converse (origin : Origin) : Conversation α → Course α
  | .ended a => ended a
  | .sends request next => does (.send origin request) fun reply => converse origin (next reply)

/-- The result of a course in surroundings, and the surroundings it leaves. -/
def run (p : Course α) (w : Surroundings) : α × Surroundings :=
  match p with
  | ended a => (a, w)
  | does act next => (next (w.perform act).1).run (w.perform act).2

/-- The moments of a course in surroundings, in order. -/
def history (p : Course α) (w : Surroundings) : List Moment :=
  match p with
  | ended _ => []
  | does act next => ⟨w, act⟩ :: (next (w.perform act).1).history (w.perform act).2

/-- What is seen of a course from outside, in order. -/
def outward (p : Course α) (w : Surroundings) : List Event :=
  (p.history w).filterMap Moment.event?

@[simp] theorem andThen_ended (a : α) (f : α → Course β) : (ended a).andThen f = f a := rfl

@[simp] theorem andThen_does (act : Act) (next : act.Answer → Course α) (f : α → Course β) :
    (does act next).andThen f = does act fun answer => (next answer).andThen f := rfl

@[simp] theorem run_ended (a : α) (w : Surroundings) : (ended a).run w = (a, w) := rfl

@[simp] theorem run_does (act : Act) (next : act.Answer → Course α) (w : Surroundings) :
    (does act next).run w = (next (w.perform act).1).run (w.perform act).2 := rfl

@[simp] theorem history_ended (a : α) (w : Surroundings) : (ended a).history w = [] := rfl

@[simp] theorem history_does (act : Act) (next : act.Answer → Course α) (w : Surroundings) :
    (does act next).history w
      = ⟨w, act⟩ :: (next (w.perform act).1).history (w.perform act).2 := rfl

/-- Two courses one after the other end as the second does. -/
@[simp] theorem run_andThen (p : Course α) (f : α → Course β) (w : Surroundings) :
    (p.andThen f).run w = (f (p.run w).1).run (p.run w).2 := by
  induction p generalizing w with
  | ended a => rfl
  | does act next ih => exact ih _ _

/-- Two courses one after the other do what the first does and then what the
second does. -/
@[simp] theorem history_andThen (p : Course α) (f : α → Course β) (w : Surroundings) :
    (p.andThen f).history w = p.history w ++ (f (p.run w).1).history (p.run w).2 := by
  induction p generalizing w with
  | ended a => rfl
  | does act next ih =>
    rw [andThen_does, history_does, history_does, run_does, ih, List.cons_append]

@[simp] theorem outward_ended (a : α) (w : Surroundings) : (ended a).outward w = [] := rfl

theorem outward_does (act : Act) (next : act.Answer → Course α) (w : Surroundings) :
    (does act next).outward w
      = (Moment.event? ⟨w, act⟩).toList ++ (next (w.perform act).1).outward (w.perform act).2 := by
  unfold outward
  rw [history_does, List.filterMap_cons]
  cases Moment.event? ⟨w, act⟩ <;> rfl

@[simp] theorem outward_andThen (p : Course α) (f : α → Course β) (w : Surroundings) :
    (p.andThen f).outward w = p.outward w ++ (f (p.run w).1).outward (p.run w).2 := by
  unfold outward
  rw [history_andThen, List.filterMap_append]

/-- **A course leaves what its last act leaves.** -/
theorem run_snd (p : Course α) (w : Surroundings) :
    (p.run w).2 = ((p.history w).getLast?.map Moment.after).getD w := by
  induction p generalizing w with
  | ended a => rfl
  | does act next ih =>
    rw [run_does, ih, history_does, List.getLast?_cons]
    cases ((next (w.perform act).1).history (w.perform act).2).getLast? <;> rfl

/-- A course that ends as another one does leaves what that leaves. -/
theorem run_snd_of_history {p : Course α} {q : Course β} {w v : Surroundings}
    {front : List Moment} (h : p.history w = front ++ q.history v) (hne : q.history v ≠ []) :
    (p.run w).2 = (q.run v).2 := by
  obtain ⟨last, hlast⟩ := Option.ne_none_iff_exists'.1 fun hnone =>
    hne (List.getLast?_eq_none_iff.1 hnone)
  rw [run_snd, run_snd, h, List.getLast?_append, hlast]
  rfl

/-! ## Courses that do only certain things -/

/-- **Whatever comes of its acts, a course does only acts of a certain
sort.** -/
def Confined (P : Act → Prop) : Course α → Prop
  | ended _ => True
  | does act next => P act ∧ ∀ answer, (next answer).Confined P

@[simp] theorem confined_ended {P : Act → Prop} (a : α) : (ended a).Confined P := trivial

@[simp] theorem confined_does {P : Act → Prop} (act : Act) (next : act.Answer → Course α) :
    (does act next).Confined P ↔ P act ∧ ∀ answer, (next answer).Confined P :=
  Iff.rfl

theorem Confined.mono {P Q : Act → Prop} (hPQ : ∀ act, P act → Q act) {p : Course α}
    (h : p.Confined P) : p.Confined Q := by
  induction p with
  | ended a => trivial
  | does act next ih => exact ⟨hPQ act h.1, fun answer => ih answer (h.2 answer)⟩

theorem Confined.andThen {P : Act → Prop} {p : Course α} (h : p.Confined P) {f : α → Course β}
    (hf : ∀ a, (f a).Confined P) : (p.andThen f).Confined P := by
  induction p with
  | ended a => exact hf a
  | does act next ih => exact ⟨h.1, fun answer => ih answer (h.2 answer)⟩

/-- A conversation only sends requests, all of them for its purpose. -/
theorem confined_converse (origin : Origin) (talk : Conversation α) :
    (converse origin talk).Confined fun act => ∃ request, act = .send origin request := by
  induction talk with
  | ended a => trivial
  | sends request next ih => exact ⟨⟨request, rfl⟩, ih⟩

theorem Confined.of_mem_history {P : Act → Prop} {p : Course α} (h : p.Confined P)
    {w : Surroundings} {m : Moment} (hm : m ∈ p.history w) : P m.act := by
  induction p generalizing w with
  | ended a => cases hm
  | does act next ih =>
    rcases List.mem_cons.1 hm with rfl | hm
    · exact h.1
    · exact ih _ (h.2 _) hm

/-- A conversation makes no catalog. -/
theorem nextSerial_converse (origin : Origin) (talk : Conversation α) (w : Surroundings) :
    ((converse origin talk).run w).2.nextSerial = w.nextSerial := by
  induction talk generalizing w with
  | ended a => rfl
  | sends request next ih => exact (ih _ _).trans (w.nextSerial_send origin request)

/-- **A run records what is seen of the course from outside.** -/
theorem events_run (p : Course α) (w : Surroundings) :
    (p.run w).2.events = w.events ++ p.outward w := by
  induction p generalizing w with
  | ended a => simp
  | does act next ih =>
    rw [run_does, ih, Surroundings.events_perform, outward_does, List.append_assoc]

end Course

end CloudClient
