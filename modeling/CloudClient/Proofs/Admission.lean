import CloudClient.Endpoint.Resolution

/-!
# Which candidates count

Most of what a resolution does with a candidate depends on the candidate
alone. It is passed over – it has no locator, the library does not speak its
version, the rule leaves it out –, or it is refused, and its failure is that
of the whole resolution; or it is *admitted*, with its region settled, and
only then does it matter what has been resolved before.
`Resolution.consider` is that part of a step, and `Resolution.take_eq` says that
a step is this part and then the other.

`Resolution.Considered` lists what a candidate may come to. There are three
reasons to be refused, and all that can go wrong in a resolution is one of
them at the first candidate that has one. Where nothing goes wrong the
admitted candidates are the *accepted* ones (`RegionRule.accepted`), which
are described without any reference to failures.

A list that is gone through up to its first failure is met again wherever a
document is read, so `FirstFailure` is about any function that can fail.
-/

namespace CloudClient

/-! ## Lists gone through up to a failure -/

section FirstFailure

variable {α β ε : Type} {Good Bad : α → Prop} {f : α → Except ε β} {e : ε} {as : List α}

/-- **A list is gone through up to an element**: that one is bad, and all in
front of it are good. -/
inductive FirstAt (Good Bad : α → Prop) : List α → Prop where
  | here {a : α} {more : List α} (h : Bad a) : FirstAt Good Bad (a :: more)
  | later {a : α} {more : List α} (h : Good a) (rest : FirstAt Good Bad more) :
      FirstAt Good Bad (a :: more)

/-- A function has a value at an element. -/
def Reads (f : α → Except ε β) (a : α) : Prop := ∃ b, f a = .ok b

/-- **A function fails** at an element of a list, and at none in front of
it. -/
abbrev FirstFailure (f : α → Except ε β) (e : ε) : List α → Prop :=
  FirstAt (Reads f) (f · = .error e)

namespace FirstAt

theorem exists_mem (h : FirstAt Good Bad as) : ∃ a ∈ as, Bad a := by
  induction h with
  | here h => exact ⟨_, List.mem_cons_self, h⟩
  | later _ _ ih =>
    obtain ⟨a, hmem, ha⟩ := ih
    exact ⟨a, List.mem_cons_of_mem _ hmem, ha⟩

theorem congr {Bad' : α → Prop} (h : ∀ a, Bad a ↔ Bad' a) :
    FirstAt Good Bad as ↔ FirstAt Good Bad' as := by
  rw [show Bad = Bad' from funext fun a => propext (h a)]

theorem cons_iff {a : α} : FirstAt Good Bad (a :: as) ↔ Bad a ∨ Good a ∧ FirstAt Good Bad as := by
  constructor
  · intro h
    cases h with
    | here h => exact .inl h
    | later h rest => exact .inr ⟨h, rest⟩
  · rintro (h | ⟨h, rest⟩)
    · exact .here h
    · exact .later h rest

end FirstAt

/-- There is one first failure. -/
theorem FirstFailure.unique {e' : ε} (h : FirstFailure f e as) (h' : FirstFailure f e' as) :
    e = e' := by
  induction as with
  | nil => cases h
  | cons a more ih =>
    obtain ha | ⟨⟨b, ha⟩, hrest⟩ := FirstAt.cons_iff.1 h
    · obtain ha' | ⟨⟨b, ha'⟩, -⟩ := FirstAt.cons_iff.1 h'
      · exact Except.error.inj (ha.symm.trans ha')
      · rw [ha] at ha'
        cases ha'
    · obtain ha' | ⟨-, hrest'⟩ := FirstAt.cons_iff.1 h'
      · rw [ha] at ha'
        cases ha'
      · exact ih hrest hrest'

end FirstFailure

/-! ## Accepted candidates -/

namespace RegionRule

/-- **A candidate as it is accepted** under a rule, with its region settled:
it has a locator, the library speaks its version, and the rule keeps it. -/
def accept? (rule : RegionRule) (c : Candidate) : Option Candidate :=
  if c.url ≠ "" ∧ (Version.read c.version).toOption.any Version.isSupported then
    (rule.settle c).toOption.join
  else none

/-- The accepted candidates, in order. -/
def accepted (rule : RegionRule) (candidates : List Candidate) : List Candidate :=
  candidates.filterMap rule.accept?

/-- A rule gives a candidate at most a region. -/
theorem settle_eq_some {rule : RegionRule} {c settled : Candidate}
    (h : rule.settle c = .ok (some settled)) :
    settled = { c with region := settled.region }
      ∧ (settled.region = c.region ∨ ∃ name, settled.region = Region.named name) := by
  unfold settle at h
  split at h
  · cases h
    exact ⟨rfl, .inl rfl⟩
  · split at h
    · cases hinfer : Region.infer c.url with
      | error fault =>
        rw [hinfer] at h
        cases h
      | ok name =>
        rw [hinfer] at h
        cases h
        exact ⟨rfl, .inr ⟨name, rfl⟩⟩
    · split at h
      · cases h
      · cases h
        exact ⟨rfl, .inl rfl⟩

/-- The one thing a rule can fail at is a locator whose region it has to
infer. -/
theorem settle_eq_error {rule : RegionRule} {c : Candidate} {fault : LocatorFault}
    (h : rule.settle c = .error fault) : Region.infer c.url = .error fault := by
  unfold settle at h
  split at h
  · cases h
  · split at h
    · cases hinfer : Region.infer c.url with
      | error fault' =>
        rw [hinfer] at h
        cases h
        rfl
      | ok name =>
        rw [hinfer] at h
        cases h
    · split at h <;> cases h

end RegionRule

namespace Resolution

/-- **What a candidate is by itself**: passed over, refused with a failure,
or admitted with its region settled. -/
def consider (rule : RegionRule) (c : Candidate) : Except Failure (Option Candidate) :=
  if c.url = "" then .ok none
  else match Version.read c.version with
    | .error f => .error (.fault f)
    | .ok version =>
      if version.isSupported then
        match rule.settle c with
        | .error fault => .error (.defect (.badLocator fault))
        | .ok none => .ok none
        | .ok (some c) => if isKey c.region then .ok (some c) else .error (.defect .regionNoKey)
      else .ok none

/-- **One step is to consider a candidate and to give it its place.** -/
theorem take_eq (rule : RegionRule) (p : Progress) (c : Candidate) :
    p.take rule c = match consider rule c with
      | .error failure => .error failure
      | .ok none => .ok p
      | .ok (some c) => p.place c := by
  unfold Progress.take consider
  split
  · rfl
  · cases Version.read c.version with
    | error f => rfl
    | ok version =>
      simp only
      split
      · cases rule.settle c with
        | error fault => rfl
        | ok settled =>
          cases settled with
          | none => rfl
          | some c =>
            by_cases hkey : isKey c.region = true
            · simp only [if_pos hkey]
            · simp only [Progress.place, if_neg hkey]
      · rfl

/-- **What a candidate may come to by itself**, and why. -/
inductive Considered (rule : RegionRule) (c : Candidate) : Except Failure (Option Candidate) → Prop
    where
  | unlocated (hurl : c.url = "") : Considered rule c (.ok none)
  /-- Its version is not made of numbers. -/
  | undated {f : Fault} (hurl : c.url ≠ "") (hread : Version.read c.version = .error f) :
      Considered rule c (.error (.fault f))
  | unsupported {v : Version} (hurl : c.url ≠ "") (hread : Version.read c.version = .ok v)
      (hno : v.isSupported = false) : Considered rule c (.ok none)
  /-- Its locator is asked for a region and cannot be read. -/
  | unsettled {v : Version} {fault : LocatorFault} (hurl : c.url ≠ "")
      (hread : Version.read c.version = .ok v) (hsupported : v.isSupported = true)
      (hsettle : rule.settle c = .error fault) :
      Considered rule c (.error (.defect (.badLocator fault)))
  | leftOut {v : Version} (hurl : c.url ≠ "") (hread : Version.read c.version = .ok v)
      (hsupported : v.isSupported = true) (hsettle : rule.settle c = .ok none) :
      Considered rule c (.ok none)
  /-- Its region cannot be a key. -/
  | keyless {v : Version} {settled : Candidate} (hurl : c.url ≠ "")
      (hread : Version.read c.version = .ok v) (hsupported : v.isSupported = true)
      (hsettle : rule.settle c = .ok (some settled)) (hno : isKey settled.region = false) :
      Considered rule c (.error (.defect .regionNoKey))
  | admitted {v : Version} {settled : Candidate} (hurl : c.url ≠ "")
      (hread : Version.read c.version = .ok v) (hsupported : v.isSupported = true)
      (hsettle : rule.settle c = .ok (some settled)) (hkey : isKey settled.region = true) :
      Considered rule c (.ok (some settled))

variable {rule : RegionRule} {c : Candidate}

theorem considered (rule : RegionRule) (c : Candidate) : Considered rule c (consider rule c) := by
  unfold consider
  split
  · rename_i hurl
    exact .unlocated hurl
  · rename_i hurl
    split
    · rename_i f hread
      exact .undated hurl hread
    · rename_i v hread
      by_cases hsupported : v.isSupported = true
      · rw [if_pos hsupported]
        split
        · rename_i fault hsettle
          exact .unsettled hurl hread hsupported hsettle
        · rename_i hsettle
          exact .leftOut hurl hread hsupported hsettle
        · rename_i settled hsettle
          by_cases hkey : isKey settled.region = true
          · rw [if_pos hkey]
            exact .admitted hurl hread hsupported hsettle hkey
          · rw [if_neg hkey]
            exact .keyless hurl hread hsupported hsettle (Bool.eq_false_iff.2 hkey)
      · rw [if_neg hsupported]
        exact .unsupported hurl hread (Bool.eq_false_iff.2 hsupported)

/-- **The cases are exact.** -/
theorem consider_eq_iff {result : Except Failure (Option Candidate)} :
    consider rule c = result ↔ Considered rule c result := by
  constructor
  · rintro rfl
    exact considered rule c
  · intro h
    unfold consider
    cases h with
    | unlocated hurl => rw [if_pos hurl]
    | undated hurl hread => rw [if_neg hurl, hread]
    | unsupported hurl hread hno => simp [hurl, hread, hno]
    | unsettled hurl hread hsupported hsettle => simp [hurl, hread, hsupported, hsettle]
    | leftOut hurl hread hsupported hsettle => simp [hurl, hread, hsupported, hsettle]
    | keyless hurl hread hsupported hsettle hno => simp [hurl, hread, hsupported, hsettle, hno]
    | admitted hurl hread hsupported hsettle hkey => simp [hurl, hread, hsupported, hsettle, hkey]

/-- **To be admitted is to be accepted**, where nothing is refused. -/
theorem accept?_of_consider {admitted : Option Candidate} (h : consider rule c = .ok admitted) :
    rule.accept? c = admitted := by
  unfold RegionRule.accept?
  cases consider_eq_iff.1 h with
  | unlocated hurl => exact if_neg fun haccepted => haccepted.1 hurl
  | unsupported hurl hread hno =>
    rw [hread, Except.toOption, Option.any_some, hno]
    exact if_neg fun haccepted => Bool.false_ne_true haccepted.2
  | leftOut hurl hread hsupported hsettle =>
    rw [hread, Except.toOption, Option.any_some, hsettle]
    exact if_pos ⟨hurl, hsupported⟩
  | admitted hurl hread hsupported hsettle =>
    rw [hread, Except.toOption, Option.any_some, hsettle]
    exact if_pos ⟨hurl, hsupported⟩

end Resolution

end CloudClient
