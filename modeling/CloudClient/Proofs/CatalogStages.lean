import CloudClient.Call.Scene

/-!
# How far a caller has come

A caller that never puts its catalog to the test does what it does in a fixed
order: it looks, it asks for the lock, it takes it, it looks once more, it
authenticates, it stores, it gives the lock back. A `Stage` is a place in that
order, and `Caller.remainder` what there is still to do from there. So to know
the stage of a caller is to know its course, and all that a caller can do next
is said once: `advance_of_remainder`.

## What a caller has done

What a caller has done so far determines how far its authentication has come
(`Caller.authentication?`): it has not begun, or it goes on with the rest of a
conversation, or it has ended. A `Trail` is what a caller can have done by
some stage. Three things are read off it. The caller has taken the lock and
not given it back at just the stages between these two acts. It has stored or
made a catalog only if its authentication has succeeded. And if that has
failed then all that is left to do is to give back the lock.
-/

namespace CloudClient

/-- Whether an act leaves alone what is stored, unless that is too old. -/
def Act.isQuiet : Act → Bool
  | .store _ _ | .invalidate _ _ => false
  | _ => true

/-- Whether an act has to do with locks. -/
def Act.isLocking : Act → Bool
  | .sessionLock _ | .acquire _ | .release _ => true
  | _ => false

/-! ## Authentication as it goes -/

/-- How a conversation goes on after a reply. -/
def Conversation.heard {α : Type} : Conversation α → Reply → Conversation α
  | .ended a, _ => .ended a
  | .sends _ next, reply => next reply

namespace Moment

/-- The catalog that is made at a moment, if one is. -/
def issued? (m : Moment) : Option Issued :=
  match m.act with
  | .issue catalog => some (m.before.issue catalog).1
  | _ => none

/-- Whether a catalog is stored at a moment. -/
def isStore (m : Moment) : Bool :=
  match m.act with
  | .store _ _ => true
  | _ => false

/-- Whether whoever does the act of a moment has a lock after it. -/
def locks (before : Bool) (m : Moment) : Bool :=
  match m.act with
  | .acquire _ => true
  | .release _ => false
  | _ => before

/-- How far an authentication has come by the end of a moment. -/
def authentication? (c : Caller) (before : Option Authentication) (m : Moment) :
    Option Authentication :=
  match m.act with
  | .authentication => some (Authentication.usual c.session)
  | .send .authentication request =>
    before.map fun talk => talk.heard (m.before.send .authentication request).1
  | _ => before

end Moment

/-- **Whether a caller is between taking a lock and giving it back** after
some moments. -/
def isInside (moments : List Moment) : Bool := moments.foldl Moment.locks false

/-- **How far the authentication of a caller has come** after some moments, if
it has begun. -/
def Caller.authentication? (c : Caller) (moments : List Moment) : Option Authentication :=
  moments.foldl (Moment.authentication? c) none

/-- Neither is a catalog made at any moment nor stored. -/
def Barren (moments : List Moment) : Prop :=
  ∀ m ∈ moments, m.issued? = none ∧ m.isStore = false

@[simp] theorem isInside_concat (ms : List Moment) (m : Moment) :
    isInside (ms ++ [m]) = m.locks (isInside ms) := by
  rw [isInside, List.foldl_append]
  rfl

@[simp] theorem Caller.authentication?_concat (c : Caller) (ms : List Moment) (m : Moment) :
    c.authentication? (ms ++ [m]) = m.authentication? c (c.authentication? ms) := by
  rw [Caller.authentication?, List.foldl_append]
  rfl

theorem Moment.authentication?_none {c : Caller} {m : Moment} (hm : m.act ≠ .authentication) :
    m.authentication? c none = none := by
  obtain ⟨w, act⟩ := m
  cases act with
  | authentication => exact absurd rfl hm
  | send origin request => cases origin <;> rfl
  | _ => rfl

/-- An authentication that goes on has begun. -/
theorem Caller.exists_authentication {c : Caller} {ms : List Moment}
    (h : c.authentication? ms ≠ none) : ∃ m ∈ ms, m.act = .authentication := by
  unfold Caller.authentication? at h
  induction ms with
  | nil => exact absurd rfl h
  | cons m ms ih =>
    by_cases hm : m.act = .authentication
    · exact ⟨m, List.mem_cons_self, hm⟩
    · rw [List.foldl_cons, Moment.authentication?_none hm] at h
      obtain ⟨m', hm', hact⟩ := ih h
      exact ⟨m', List.mem_cons_of_mem m hm', hact⟩

theorem barren_nil : Barren [] := fun _ h => absurd h List.not_mem_nil

theorem Barren.concat {ms : List Moment} (h : Barren ms) {m : Moment} (hi : m.issued? = none)
    (hs : m.isStore = false) : Barren (ms ++ [m]) := by
  intro n hn
  rcases List.mem_append.1 hn with hn | hn
  · exact h n hn
  · rw [List.mem_singleton.1 hn]
    exact ⟨hi, hs⟩

/-! ## Stages -/

/-- **How far a caller has come** on its way to a catalog. -/
inductive Stage where
  /-- It has done nothing yet. -/
  | arriving
  /-- It has found no catalog. -/
  | missing
  /-- It waits for a lock. -/
  | waiting (lock : LockId)
  /-- It has a lock. -/
  | entered (lock : LockId)
  /-- It has found no catalog, once more. -/
  | beginning (lock : LockId)
  /-- It authenticates, or has just done so. -/
  | talking (lock : LockId) (talk : Authentication)
  /-- It has a new catalog. -/
  | storing (lock : LockId) (issued : Issued)
  /-- It has a catalog that is stored. -/
  | leaving (lock : LockId) (issued : Issued)
  /-- It has done all. -/
  | gone (result : Except Failure Issued)

namespace Stage

/-- The lock that a caller waits for or has. -/
def lock? : Stage → Option LockId
  | .waiting lock | .entered lock | .beginning lock | .talking lock _ | .storing lock _
  | .leaving lock _ => some lock
  | _ => none

/-- Whether a caller has a lock. -/
def isInside : Stage → Bool
  | .entered _ | .beginning _ | .talking _ _ | .storing _ _ | .leaving _ _ => true
  | _ => false

theorem lock?_of_isInside {σ : Stage} (h : σ.isInside = true) : ∃ lock, σ.lock? = some lock := by
  cases σ <;> first | exact ⟨_, rfl⟩ | cases h

end Stage

namespace Caller

/-- What is left of the lock's part in a course: giving it back. -/
def leave (lock : LockId) (result : Except Failure Issued) : Course (Except Failure Issued) :=
  .does (.release lock) fun _ => .ended result

/-- What is left of an authentication when its conversation has ended. -/
def concluded : Except Failure Catalog → Course (Except Failure Issued)
  | .error failure => .ended (.error failure)
  | .ok catalog => .does (.issue catalog) fun issued => .ended (.ok issued)

/-- What is left when the authentication has ended: storing the catalog. -/
def kept (c : Caller) : Except Failure Issued → Course (Except Failure Issued)
  | .error failure => .ended (.error failure)
  | .ok issued => .does (.store c.key issued) fun _ => .ended (.ok issued)

/-- **What a caller has still to do** at a stage. -/
def remainder (c : Caller) : Stage → Course (Except Failure Issued)
  | .arriving => c.resolve
  | .missing => c.authenticateOnce
  | .waiting lock => .does (.acquire lock) fun _ => c.refreshIfMissing.andThen (leave lock)
  | .entered lock => c.refreshIfMissing.andThen (leave lock)
  | .beginning lock => c.refresh.andThen (leave lock)
  | .talking lock talk =>
    (((Course.converse .authentication talk).andThen concluded).andThen c.kept).andThen (leave lock)
  | .storing lock issued => .does (.store c.key issued) fun _ => leave lock (.ok issued)
  | .leaving lock issued => leave lock (.ok issued)
  | .gone result => .ended result

/-! ## What a caller can do next -/

/-- Whether a caller never puts its catalog to the test. -/
def NeverProbes (c : Caller) : Prop := Binary64.lt (.zero false) c.revalidation = false

theorem remainder_arriving {c : Caller} (h : c.NeverProbes) :
    c.remainder .arriving
      = .does (.lookup c.key) fun
        | some held => c.remainder (.gone (.ok held))
        | none => c.remainder .missing := by
  unfold remainder resolve recheck wantsProbe
  rw [h]
  refine congrArg (Course.does (Act.lookup c.key)) ?_
  funext found
  cases found with
  | none => rfl
  | some held => rfl

theorem remainder_entered (c : Caller) (lock : LockId) :
    c.remainder (.entered lock)
      = .does (.lookup c.key) fun
        | some held => c.remainder (.leaving lock held)
        | none => c.remainder (.beginning lock) := by
  refine congrArg (Course.does (Act.lookup c.key)) ?_
  funext found
  cases found with
  | none => rfl
  | some held => rfl

theorem remainder_beginning (c : Caller) (lock : LockId) :
    c.remainder (.beginning lock)
      = .does .authentication fun _ =>
          c.remainder (.talking lock (Authentication.usual c.session)) := by
  unfold remainder refresh authenticate
  generalize Authentication.usual c.session = talk
  rfl

/-- Whoever has nothing more to do has done all. -/
theorem eq_gone_of_remainder {c : Caller} (h : c.NeverProbes) {σ : Stage}
    {result : Except Failure Issued} (hσ : c.remainder σ = .ended result) : σ = .gone result := by
  cases σ with
  | arriving =>
    rw [remainder_arriving h] at hσ
    cases hσ
  | beginning lock =>
    rw [remainder_beginning] at hσ
    cases hσ
  | talking lock talk =>
    cases talk with
    | sends request next => cases hσ
    | ended outcome => cases outcome <;> cases hσ
  | gone result' =>
    cases hσ
    rfl
  | _ => cases hσ

/-- **From one stage to the next**: the act that leads there, and its
answer. -/
inductive Advance (c : Caller) : Stage → (act : Act) → act.Answer → Stage → Prop where
  | finds (held : Issued) :
      Advance c .arriving (.lookup c.key) (some held) (.gone (.ok held))
  | misses : Advance c .arriving (.lookup c.key) none .missing
  | asks (lock : LockId) : Advance c .missing (.sessionLock c.key) lock (.waiting lock)
  | enters (lock : LockId) : Advance c (.waiting lock) (.acquire lock) () (.entered lock)
  | findsInside (lock : LockId) (held : Issued) :
      Advance c (.entered lock) (.lookup c.key) (some held) (.leaving lock held)
  | missesInside (lock : LockId) :
      Advance c (.entered lock) (.lookup c.key) none (.beginning lock)
  | begins (lock : LockId) :
      Advance c (.beginning lock) .authentication ()
        (.talking lock (Authentication.usual c.session))
  | hears (lock : LockId) (request : Request) (next : Reply → Authentication) (reply : Reply) :
      Advance c (.talking lock (.sends request next)) (.send .authentication request) reply
        (.talking lock (next reply))
  | makes (lock : LockId) (catalog : Catalog) (issued : Issued) :
      Advance c (.talking lock (.ended (.ok catalog))) (.issue catalog) issued
        (.storing lock issued)
  | stores (lock : LockId) (issued : Issued) :
      Advance c (.storing lock issued) (.store c.key issued) () (.leaving lock issued)
  | gives (lock : LockId) (issued : Issued) :
      Advance c (.leaving lock issued) (.release lock) () (.gone (.ok issued))
  | givesUp (lock : LockId) (failure : Failure) :
      Advance c (.talking lock (.ended (.error failure))) (.release lock) ()
        (.gone (.error failure))

/-- **What a caller does next leads from its stage to another.** -/
theorem advance_of_remainder {c : Caller} (h : c.NeverProbes) {σ : Stage} {act : Act}
    {next : act.Answer → Course (Except Failure Issued)} (hσ : c.remainder σ = .does act next)
    (answer : act.Answer) :
    ∃ σ', Advance c σ act answer σ' ∧ next answer = c.remainder σ' := by
  -- at a lookup it is the answer that decides where it goes on
  cases σ with
  | arriving =>
    rw [remainder_arriving h] at hσ
    cases hσ
    cases answer with
    | none => exact ⟨_, .misses, rfl⟩
    | some held => exact ⟨_, .finds held, rfl⟩
  | missing =>
    cases hσ
    exact ⟨_, .asks answer, rfl⟩
  | waiting lock =>
    cases hσ
    exact ⟨_, .enters lock, rfl⟩
  | entered lock =>
    rw [remainder_entered] at hσ
    cases hσ
    cases answer with
    | none => exact ⟨_, .missesInside lock, rfl⟩
    | some held => exact ⟨_, .findsInside lock held, rfl⟩
  | beginning lock =>
    rw [remainder_beginning] at hσ
    cases hσ
    exact ⟨_, .begins lock, rfl⟩
  | talking lock talk =>
    cases talk with
    | sends request more =>
      cases hσ
      exact ⟨_, .hears lock request more answer, rfl⟩
    | ended outcome =>
      cases outcome with
      | ok catalog =>
        cases hσ
        exact ⟨_, .makes lock catalog answer, rfl⟩
      | error failure =>
        cases hσ
        exact ⟨_, .givesUp lock failure, rfl⟩
  | storing lock issued =>
    cases hσ
    exact ⟨_, .stores lock issued, rfl⟩
  | leaving lock issued =>
    cases hσ
    exact ⟨_, .gives lock issued, rfl⟩
  | gone result => cases hσ

/-- Only the acts on the lock change what a caller has to do with it. -/
theorem Advance.lock?_eq {c : Caller} {σ σ' : Stage} {act : Act} {answer : act.Answer}
    (h : c.Advance σ act answer σ') (hact : act.isLocking = false) :
    σ'.lock? = σ.lock? ∧ σ'.isInside = σ.isInside := by
  cases h <;> first | exact ⟨rfl, rfl⟩ | cases hact

/-! ## What a caller has done by some stage -/

/-- **What a caller can have done by some stage.** -/
inductive Trail (c : Caller) : Stage → List Moment → Prop where
  | arrives : Trail c .arriving []
  | advances {σ σ' : Stage} {ms : List Moment} (m : Moment) (htrail : Trail c σ ms)
      (h : c.Advance σ m.act m.answer σ') : Trail c σ' (ms ++ [m])

variable {c : Caller} {σ σ' : Stage} {ms : List Moment}

theorem Advance.locks {m : Moment} {answer : m.act.Answer} (h : c.Advance σ m.act answer σ') :
    m.locks σ.isInside = σ'.isInside := by
  obtain ⟨w, act⟩ := m
  cases h <;> rfl

/-- **A caller is inside at just the stages at which it has the lock.** -/
theorem Trail.isInside_eq (h : c.Trail σ ms) : isInside ms = σ.isInside := by
  induction h with
  | arrives => rfl
  | advances m htrail h ih => rw [isInside_concat, ih, h.locks]

/-- If a caller has authenticated at all, a catalog has come of it. -/
def Served (c : Caller) (ms : List Moment) : Prop :=
  ∀ talk, c.authentication? ms = some talk →
    ∃ catalog, talk = .ended (.ok catalog) ∧ ∃ m ∈ ms, m.issued? ≠ none

/-- **How the authentication of a caller stands** at a stage, and what has
come of it. -/
def Stands (c : Caller) (ms : List Moment) : Stage → Prop
  | .talking _ talk => c.authentication? ms = some talk ∧ Barren ms
  | .gone (.error failure) => c.authentication? ms = some (.ended (.error failure)) ∧ Barren ms
  | .storing _ _ | .leaving _ _ | .gone (.ok _) => c.Served ms
  | _ => c.authentication? ms = none ∧ Barren ms

theorem served_of_none (h : c.authentication? ms = none) : c.Served ms := by
  intro talk htalk
  rw [h] at htalk
  exact absurd htalk.symm (Option.some_ne_none talk)

/-- What has no part in authentication changes nothing. -/
theorem authentication?_concat_of_plain {m : Moment} (hm : ∀ before, m.authentication? c before = before) :
    c.authentication? (ms ++ [m]) = c.authentication? ms := by
  rw [authentication?_concat, hm]

theorem Served.concat {m : Moment} (h : c.Served ms)
    (hm : ∀ before, m.authentication? c before = before) : c.Served (ms ++ [m]) := by
  intro talk htalk
  rw [authentication?_concat_of_plain hm] at htalk
  obtain ⟨catalog, hended, m', hm', hissued⟩ := h talk htalk
  exact ⟨catalog, hended, m', List.mem_append_left _ hm', hissued⟩

/-- Before an authentication begins nothing is made of it. -/
theorem silent_concat {m : Moment} (hm : ∀ before, m.authentication? c before = before)
    (hi : m.issued? = none) (hs : m.isStore = false)
    (h : c.authentication? ms = none ∧ Barren ms) :
    c.authentication? (ms ++ [m]) = none ∧ Barren (ms ++ [m]) :=
  ⟨(authentication?_concat_of_plain hm).trans h.1, h.2.concat hi hs⟩

theorem Stands.advance {m : Moment} {answer : m.act.Answer} (hms : c.Stands ms σ)
    (h : c.Advance σ m.act answer σ') (hanswer : m.answer = answer) :
    c.Stands (ms ++ [m]) σ' := by
  obtain ⟨w, act⟩ := m
  cases h with
  | finds held => exact served_of_none (silent_concat (fun _ => rfl) rfl rfl hms).1
  | misses => exact silent_concat (fun _ => rfl) rfl rfl hms
  | asks lock => exact silent_concat (fun _ => rfl) rfl rfl hms
  | enters lock => exact silent_concat (fun _ => rfl) rfl rfl hms
  | findsInside lock held => exact served_of_none (silent_concat (fun _ => rfl) rfl rfl hms).1
  | missesInside lock => exact silent_concat (fun _ => rfl) rfl rfl hms
  | begins lock => exact ⟨authentication?_concat c ms _, hms.2.concat rfl rfl⟩
  | hears lock request next reply =>
    refine ⟨?_, hms.2.concat rfl rfl⟩
    rw [authentication?_concat, hms.1]
    exact congrArg (fun reply => some (next reply)) hanswer
  | makes lock catalog issued =>
    intro talk htalk
    -- making a catalog is no part of the conversation, which has just ended
    rw [authentication?_concat_of_plain fun _ => rfl, hms.1] at htalk
    exact ⟨catalog, (Option.some.inj htalk).symm, _,
      List.mem_append_right ms (List.mem_singleton_self _), Option.some_ne_none _⟩
  | stores lock issued => exact Served.concat hms fun _ => rfl
  | gives lock issued => exact Served.concat hms fun _ => rfl
  | givesUp lock failure =>
    refine ⟨?_, hms.2.concat rfl rfl⟩
    rw [authentication?_concat_of_plain fun _ => rfl]
    exact hms.1

theorem Trail.stands (h : c.Trail σ ms) : c.Stands ms σ := by
  induction h with
  | arrives => exact ⟨rfl, barren_nil⟩
  | advances m htrail h ih => exact ih.advance h rfl

/-- **A caller whose authentication has failed has made nothing of it**, and
all there is left to do is to give back the lock. -/
theorem Trail.failed (h : c.Trail σ ms) {failure : Failure}
    (hms : c.authentication? ms = some (.ended (.error failure))) :
    Barren ms
      ∧ ((∃ lock, σ = .talking lock (.ended (.error failure))) ∨ σ = .gone (.error failure)) := by
  -- wherever a catalog has been made the authentication has ended otherwise
  have hstands := h.stands
  cases σ with
  | talking lock talk =>
    have htalk := Option.some.inj (hms.symm.trans hstands.1)
    exact ⟨hstands.2, Or.inl ⟨lock, by rw [htalk]⟩⟩
  | gone result =>
    cases result with
    | error failure' =>
      have hended := Option.some.inj (hms.symm.trans hstands.1)
      cases hended
      exact ⟨hstands.2, Or.inr rfl⟩
    | ok issued =>
      obtain ⟨catalog, hended, -⟩ := hstands _ hms
      cases hended
  | storing lock issued =>
    obtain ⟨catalog, hended, -⟩ := hstands _ hms
    cases hended
  | leaving lock issued =>
    obtain ⟨catalog, hended, -⟩ := hstands _ hms
    cases hended
  | _ => exact absurd (hms.symm.trans hstands.1) (Option.some_ne_none _)

/-- **A caller whose authentication has succeeded** is about to make the
catalog known, or has done so. -/
theorem Trail.succeeded (h : c.Trail σ ms) {catalog : Catalog}
    (hms : c.authentication? ms = some (.ended (.ok catalog))) :
    (∃ lock, σ = .talking lock (.ended (.ok catalog))) ∨ ∃ m ∈ ms, m.issued? ≠ none := by
  have hstands := h.stands
  cases σ with
  | talking lock talk =>
    have htalk := Option.some.inj (hms.symm.trans hstands.1)
    exact Or.inl ⟨lock, by rw [htalk]⟩
  | gone result =>
    cases result with
    | error failure =>
      have hended := Option.some.inj (hms.symm.trans hstands.1)
      cases hended
    | ok issued =>
      obtain ⟨_, -, hmade⟩ := hstands _ hms
      exact Or.inr hmade
  | storing lock issued =>
    obtain ⟨_, -, hmade⟩ := hstands _ hms
    exact Or.inr hmade
  | leaving lock issued =>
    obtain ⟨_, -, hmade⟩ := hstands _ hms
    exact Or.inr hmade
  | _ => exact absurd (hms.symm.trans hstands.1) (Option.some_ne_none _)

end Caller

end CloudClient
