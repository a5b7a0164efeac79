import CloudClient.Call.Caller
import Mathlib.Logic.Function.Basic

/-!
# Many callers at a time

Several callers who share one cache take turns, one act at a time. A `Scene`
is the surroundings that they share, and of each caller what it has still to
do. In a `Scene.Step` one of the callers does the next act of its course, or
time goes by; which of them it is, and what the other side replies when the
act is a request, is not determined. So `Scene.Runs` has all orders of acts
and all replies, and what is proved of it holds of them all.

## What is not alone any more

A caller by itself finds each lock free. Here a lock may be held, and taking
it has to wait until it is not: the step is not there
(`Surroundings.allows`).

A request by itself comes with what others store meanwhile. Here the others
are the callers of the scene, and what they do meanwhile are steps of their
own. So nothing besides happens during a request (`Surroundings.hearing`), and
it takes no time; time goes by between the acts.

What happens in a scene is the list of all moments with the callers whose
moments they are. It is the same kind of moments that a caller has by itself,
and those of one caller are a list of such (`momentsOf`).
-/

namespace CloudClient

universe u

namespace Surroundings

/-- The surroundings in which a request is answered by the given reply. -/
def hearing (w : Surroundings) (reply : Reply) : Surroundings :=
  { w with script := [{ reply := reply }] }

/-- The surroundings some milliseconds later. -/
def later (w : Surroundings) (time : Nat) : Surroundings := { w with now := w.now + time }

/-- Whether an act can be done at all: a lock that is held cannot be taken. -/
def allows (w : Surroundings) : Act → Bool
  | .acquire lock => !w.cache.locks.isHeld lock
  | _ => true

end Surroundings

/-- What comes of the act of a moment. -/
def Moment.answer (m : Moment) : m.act.Answer := (m.before.perform m.act).1

/-- **Several callers who share their surroundings**, in the middle of what
they do. -/
structure Scene (ι : Type u) (α : Type) where
  world : Surroundings
  /-- What each caller has still to do. -/
  courses : ι → Course α

namespace Scene

/-- Callers all of whom are about to come by a catalog. -/
def resolving {ι : Type u} (callers : ι → Caller) (w : Surroundings) :
    Scene ι (Except Failure Issued) :=
  ⟨w, fun i => (callers i).resolve⟩

variable {ι : Type u} [DecidableEq ι] {α : Type}

/-- **One step of a scene**, with the moments that happen in it. -/
inductive Step (s : Scene ι α) : List (ι × Moment) → Scene ι α → Prop where
  /-- A caller does its next act. -/
  | acts {i : ι} {act : Act} {next : act.Answer → Course α} (reply : Reply)
      (hcourse : s.courses i = .does act next) (hallows : s.world.allows act = true) :
      Step s [(i, ⟨s.world.hearing reply, act⟩)]
        ⟨Moment.after ⟨s.world.hearing reply, act⟩,
          Function.update s.courses i (next (Moment.answer ⟨s.world.hearing reply, act⟩))⟩
  /-- Time goes by. -/
  | waits (time : Nat) : Step s [] ⟨s.world.later time, s.courses⟩

/-- **A run of a scene**, with all that happens in it, each step of which
changes the surroundings in a certain way. -/
inductive Runs (C : Surroundings → Surroundings → Prop) (s : Scene ι α) :
    List (ι × Moment) → Scene ι α → Prop where
  | stays : Runs C s [] s
  | goesOn {past now : List (ι × Moment)} {s' s'' : Scene ι α} (hruns : Runs C s past s')
      (hstep : Step s' now s'') (hchange : C s'.world s''.world) :
      Runs C s (past ++ now) s''

/-- A step and a run after it are a run. -/
theorem Runs.after_step {C : Surroundings → Surroundings → Prop} {s s' s'' : Scene ι α}
    {first more : List (ι × Moment)} (hstep : Step s first s') (hchange : C s.world s'.world)
    (h : Runs C s' more s'') : Runs C s (first ++ more) s'' := by
  induction h with
  | stays =>
    rw [List.append_nil]
    exact Runs.goesOn .stays hstep hchange
  | goesOn hruns hstep' hchange' ih =>
    rw [← List.append_assoc]
    exact Runs.goesOn ih hstep' hchange'

/-! ## Taking turns as given -/

/-- The next act of a caller and the scene after it, if there is one that can
be done. -/
def turn? (s : Scene ι α) (i : ι) (reply : Reply) : Option (Moment × Scene ι α) :=
  match s.courses i with
  | .ended _ => none
  | .does act next =>
    let m : Moment := ⟨s.world.hearing reply, act⟩
    if s.world.allows act then
      some (m, ⟨m.after, Function.update s.courses i (next m.answer)⟩)
    else none

/-- What happens when callers take turns in the given order, with the given
replies. -/
def play (s : Scene ι α) : List (ι × Reply) → Option (List (ι × Moment) × Scene ι α)
  | [] => some ([], s)
  | (i, reply) :: more =>
    (s.turn? i reply).bind fun (m, s') =>
      (s'.play more).map fun (rest, s'') => ((i, m) :: rest, s'')

theorem step_of_turn? {s s' : Scene ι α} {i : ι} {reply : Reply} {m : Moment}
    (h : s.turn? i reply = some (m, s')) : Step s [(i, m)] s' := by
  unfold turn? at h
  cases hcourse : s.courses i with
  | ended a =>
    rw [hcourse] at h
    cases h
  | does act next =>
    rw [hcourse] at h
    cases hallows : s.world.allows act with
    | false => simp [hallows] at h
    | true =>
      simp only [hallows, if_true, Option.some.injEq, Prod.mk.injEq] at h
      obtain ⟨rfl, rfl⟩ := h
      exact .acts reply hcourse hallows

/-- Taking turns is a run, if each moment changes the surroundings in the given
way. -/
theorem runs_of_play {C : Surroundings → Surroundings → Prop} {P : Moment → Prop}
    (hC : ∀ (w : Surroundings) (reply : Reply) (act : Act), P ⟨w.hearing reply, act⟩ →
      C w (Moment.after ⟨w.hearing reply, act⟩))
    {turns : List (ι × Reply)} {s s' : Scene ι α} {moments : List (ι × Moment)}
    (h : s.play turns = some (moments, s')) (hP : ∀ p ∈ moments, P p.2) :
    Runs C s moments s' := by
  induction turns generalizing s moments with
  | nil =>
    cases h
    exact .stays
  | cons turn more ih =>
    obtain ⟨i, reply⟩ := turn
    obtain ⟨⟨m, s₁⟩, hturn, hmore⟩ := Option.bind_eq_some_iff.1 h
    obtain ⟨⟨rest, s₂⟩, hplay, hsame⟩ := Option.map_eq_some_iff.1 hmore
    cases hsame
    have hstep := step_of_turn? hturn
    have hchange : C s.world s₁.world := by
      have hm := hP (i, m) List.mem_cons_self
      cases hstep with
      | acts reply' hcourse hallows => exact hC s.world reply' _ hm
    exact Runs.after_step hstep hchange (ih hplay fun p hp => hP p (List.mem_cons_of_mem _ hp))

end Scene

section

variable {ι : Type u} [DecidableEq ι]

/-- The moments of one of the callers. -/
def momentsOf (i : ι) (moments : List (ι × Moment)) : List Moment :=
  moments.filterMap fun p => if p.1 = i then some p.2 else none

@[simp] theorem momentsOf_append (i : ι) (ms ns : List (ι × Moment)) :
    momentsOf i (ms ++ ns) = momentsOf i ms ++ momentsOf i ns :=
  List.filterMap_append

theorem momentsOf_own (i : ι) (m : Moment) : momentsOf i [(i, m)] = [m] := by
  simp [momentsOf]

theorem momentsOf_foreign {i j : ι} (h : j ≠ i) (m : Moment) : momentsOf i [(j, m)] = [] := by
  simp [momentsOf, h]

theorem mem_of_mem_momentsOf {i : ι} {moments : List (ι × Moment)} {m : Moment}
    (h : m ∈ momentsOf i moments) : (i, m) ∈ moments := by
  obtain ⟨⟨j, m'⟩, hmem, hif⟩ := List.mem_filterMap.1 h
  by_cases hj : j = i
  · rw [if_pos hj] at hif
    rw [← hj, ← Option.some.inj hif]
    exact hmem
  · rw [if_neg hj] at hif
    exact absurd hif.symm (Option.some_ne_none m)

end

end CloudClient
