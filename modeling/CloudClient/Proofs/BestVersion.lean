import CloudClient.Proofs.Admission

/-!
# Which candidate stays

A cloud offers one service in one region several times over, and a resolution
keeps one of the offers. The loop that does it has two maps in hand, of
endpoints and of their versions, and compares each candidate with the one in
its place. What it keeps in the end is a fact about the whole list, and no
step of it shows that fact.

One candidate is below another if its version is lower as a pair of numbers,
however the two are written. The *best* of a place (`IsBest`) is above all
that come before it and not below any that come after it – the earliest of
the highest. There is at most one (`IsBest.unique`), and adding a candidate
at the end leaves it the best or makes the new one so.

`Reflects` is the invariant: the two maps hold the best of each place, and
services and regions stand in the order in which they were first met. One
admitted candidate preserves it (`Reflects.place`), so a whole run does
(`reflects_or_fails`), and `best_version_kept` reads the result off.
-/

namespace CloudClient

/-! ## The order of candidates -/

namespace Candidate

/-- One candidate has a lower version than another. -/
def IsBelow (a b : Candidate) : Prop :=
  ∃ v w, Version.read a.version = .ok v ∧ Version.read b.version = .ok w ∧ v < w

/-- A candidate has a version, and it can be read. -/
def IsDated (c : Candidate) : Prop :=
  c.version.isSome = true ∧ ∃ v, Version.read c.version = .ok v

/-- A candidate has a version that can be read, or none. -/
def IsReadable (c : Candidate) : Prop := ∃ v, Version.read c.version = .ok v

theorem IsBelow.trans {a b c : Candidate} (h : a.IsBelow b) (k : b.IsBelow c) : a.IsBelow c := by
  obtain ⟨u, v, ha, hb, huv⟩ := h
  obtain ⟨v', w, hb', hc, hvw⟩ := k
  obtain rfl : v = v' := Except.ok.inj (hb.symm.trans hb')
  exact ⟨u, w, ha, hc, Version.lt_trans huv hvw⟩

/-- What a candidate is not below is below whatever it is below. -/
theorem IsBelow.of_not_isBelow {a b c : Candidate} (h : ¬ b.IsBelow a) (k : b.IsBelow c)
    (ha : a.IsReadable) : a.IsBelow c := by
  obtain ⟨v, w, hb, hc, hvw⟩ := k
  obtain ⟨u, ha⟩ := ha
  have huv : ¬ v < u := fun hlt => h ⟨v, u, hb, ha, hlt⟩
  refine ⟨u, w, ha, hc, ?_⟩
  rw [Version.lt_def] at *
  omega

end Candidate

namespace Resolution

/-- **A version beats one that is below it**, and no other. -/
theorem beats_iff {a b : Candidate} (ha : a.IsReadable) (hb : b.IsDated) :
    (b.IsBelow a ∧ beats a.version b.version = .ok true)
      ∨ (¬ b.IsBelow a ∧ beats a.version b.version = .ok false) := by
  obtain ⟨v, hv⟩ := ha
  obtain ⟨hbsome, w, hw⟩ := hb
  have hbnone : b.version.isNone = false := by
    rw [Option.isNone_eq_false_iff]
    exact hbsome
  have hbeats : beats a.version b.version = .ok (v.compare w == .gt) := by
    unfold beats Version.compareTexts
    simp only [hbnone, Bool.and_false, Bool.false_eq_true, if_false, hv, hw, Except.map]
  by_cases hlt : w < v
  · refine .inl ⟨⟨w, v, hw, hv, hlt⟩, ?_⟩
    rw [hbeats, Version.compare_eq_gt_iff.2 hlt]
    rfl
  · refine .inr ⟨?_, ?_⟩
    · rintro ⟨w', v', hw', hv', hlt'⟩
      obtain rfl : w = w' := Except.ok.inj (hw.symm.trans hw')
      obtain rfl : v = v' := Except.ok.inj (hv.symm.trans hv')
      exact hlt hlt'
    · rw [hbeats, beq_eq_false_iff_ne.2 fun h => hlt (Version.compare_eq_gt_iff.1 h)]

/-- A candidate is one for a certain place. -/
def IsAt (p : RawText × Region) (c : Candidate) : Prop := (place c == p) = true

/-- **The best candidate for a place**: those for the place in front of it
are below it, and it is not below any that follow. -/
def IsBest (p : RawText × Region) (candidates : List Candidate) (c : Candidate) : Prop :=
  ∃ before after, candidates = before ++ c :: after ∧ IsAt p c
    ∧ (∀ d ∈ before, IsAt p d → d.IsBelow c) ∧ ∀ d ∈ after, IsAt p d → ¬ c.IsBelow d

section Best

variable {p : RawText × Region} {cs : List Candidate} {b c : Candidate}

theorem IsBest.mem (h : IsBest p cs c) : c ∈ cs := by
  obtain ⟨before, after, rfl, -, -, -⟩ := h
  exact List.mem_append_right _ List.mem_cons_self

theorem IsBest.isAt (h : IsBest p cs c) : IsAt p c := by
  obtain ⟨before, after, -, hat, -, -⟩ := h
  exact hat

/-- Places that are one place have one best. -/
theorem IsBest.of_beq {q : RawText × Region} (h : IsBest p cs c) (hp : (p == q) = true) :
    IsBest q cs c := by
  obtain ⟨before, after, hsplit, hat, hbefore, hafter⟩ := h
  have hsame (d : Candidate) (hd : IsAt q d) : IsAt p d := BEq.trans hd (BEq.symm hp)
  exact ⟨before, after, hsplit, BEq.trans hat hp, fun d hd hat => hbefore d hd (hsame d hat),
    fun d hd hat => hafter d hd (hsame d hat)⟩

/-- Of two that are the best, neither comes first. -/
theorem IsBest.not_before {before after before' after' : List Candidate}
    (hsplit : before ++ b :: after = before' ++ c :: after') {x : Candidate} {xs : List Candidate}
    (hlonger : before' = before ++ x :: xs) (hb : IsAt p b) (hc : IsAt p c)
    (hafter : ∀ d ∈ after, IsAt p d → ¬ b.IsBelow d)
    (hbefore : ∀ d ∈ before', IsAt p d → d.IsBelow c) : False := by
  rw [hlonger, List.append_assoc, List.append_right_inj, List.cons_append, List.cons_eq_cons]
    at hsplit
  obtain ⟨rfl, rfl⟩ := hsplit
  have hlower : b.IsBelow c := by
    refine hbefore b ?_ hb
    rw [hlonger]
    exact List.mem_append_right _ List.mem_cons_self
  exact hafter c (List.mem_append_right _ List.mem_cons_self) hc hlower

/-- **A place has one best candidate.** -/
theorem IsBest.unique (h : IsBest p cs b) (k : IsBest p cs c) : b = c := by
  obtain ⟨before, after, rfl, hb, hbefore, hafter⟩ := h
  obtain ⟨before', after', hsplit, hc, hbefore', hafter'⟩ := k
  obtain ⟨more, hmore, hrest⟩ | ⟨more, hmore, hrest⟩ := List.append_eq_append_iff.1 hsplit
  · cases more with
    | nil => exact (List.cons_eq_cons.1 hrest).1
    | cons x xs => exact (IsBest.not_before hsplit hmore hb hc hafter hbefore').elim
  · cases more with
    | nil => exact (List.cons_eq_cons.1 hrest).1.symm
    | cons x xs => exact (IsBest.not_before hsplit.symm hmore hc hb hafter' hbefore).elim

/-- The best stays the best if nothing above it is added for its place. -/
theorem IsBest.concat (h : IsBest p cs b) (hc : IsAt p c → ¬ b.IsBelow c) :
    IsBest p (cs ++ [c]) b := by
  obtain ⟨before, after, rfl, hb, hbefore, hafter⟩ := h
  refine ⟨before, after ++ [c], ?_, hb, hbefore, ?_⟩
  · rw [List.append_assoc, List.cons_append]
  · intro d hd hat
    obtain hd | hd := List.mem_append.1 hd
    · exact hafter d hd hat
    · obtain rfl := List.mem_singleton.1 hd
      exact hc hat

/-- **A candidate above the best takes its place.** -/
theorem IsBest.superseded (h : IsBest p cs b) (hc : IsAt p c) (hlower : b.IsBelow c)
    (hreadable : ∀ d ∈ cs, d.IsReadable) : IsBest p (cs ++ [c]) c := by
  refine ⟨cs, [], rfl, hc, ?_, fun d hd => absurd hd List.not_mem_nil⟩
  obtain ⟨before, after, rfl, hb, hbefore, hafter⟩ := h
  intro d hd hat
  obtain hin | hin := List.mem_append.1 hd
  · exact (hbefore d hin hat).trans hlower
  · obtain rfl | hin := List.mem_cons.1 hin
    · exact hlower
    · exact .of_not_isBelow (hafter d hin hat) hlower (hreadable d hd)

/-- The first candidate for a place is the best for the time being. -/
theorem isBest_of_first (h : ∀ d ∈ cs, ¬ IsAt p d) (hc : IsAt p c) : IsBest p (cs ++ [c]) c :=
  ⟨cs, [], rfl, hc, fun d hd hat => absurd hat (h d hd), fun _ hd => absurd hd List.not_mem_nil⟩

end Best

/-! ## What a resolution under way reflects -/

/-- **What is held of a place**: nothing while no candidate is for it, and
else version and locator of the best. -/
inductive Holds (done : List Candidate) (p : Progress) (q : RawText × Region) : Prop where
  | free (hnone : ∀ c ∈ done, ¬ IsAt q c) (hversion : p.versions.find? q = none)
      (hurl : p.result.endpoints.get? q.1 q.2 = none)
  | taken {c : Candidate} (hbest : IsBest q done c) (hversion : p.versions.find? q = some c.version)
      (hurl : p.result.endpoints.get? q.1 q.2 = some c.url)

/-- **What has been resolved of the accepted candidates so far.** -/
structure Reflects (done : List Candidate) (p : Progress) : Prop where
  /-- Every version can be compared. -/
  dated : ∀ c ∈ done, c.IsDated
  /-- Both maps hold the best of each place. -/
  holds : ∀ q, Holds done p q
  /-- Services stand where they were first met. -/
  services : p.result.endpoints.keys = (done.map Candidate.service).eraseDups
  /-- And so do the regions of each. -/
  regions : ∀ service, (p.result.endpoints.regionsOf service).keys
    = ((done.filter (·.service == service)).map Candidate.region).eraseDups
  /-- The first region that was met is kept. -/
  home : p.result.firstRegion = done.findSome? Candidate.region

theorem reflects_start : Reflects [] Progress.start where
  dated _ h := absurd h List.not_mem_nil
  holds _ := .free (fun _ h => absurd h List.not_mem_nil) rfl rfl
  services := rfl
  regions _ := rfl
  home := rfl

section Step

variable {done : List Candidate} {p : Progress} {b c : Candidate}

/-- What is held of the other places stays when a candidate is added. -/
theorem Holds.of_ne {q : RawText × Region} {p' : Progress} (h : Holds done p q) (hc : ¬ IsAt q c)
    (hversion : p'.versions.find? q = p.versions.find? q)
    (hurl : p'.result.endpoints.get? q.1 q.2 = p.result.endpoints.get? q.1 q.2) :
    Holds (done ++ [c]) p' q := by
  cases h with
  | free hnone hv hu =>
    refine .free ?_ (hversion.trans hv) (hurl.trans hu)
    intro d hd
    obtain hd | hd := List.mem_append.1 hd
    · exact hnone d hd
    · rwa [List.mem_singleton.1 hd]
  | taken hbest hv hu =>
    exact .taken (hbest.concat fun hat => absurd hat hc) (hversion.trans hv) (hurl.trans hu)

theorem dated_concat (h : ∀ d ∈ done, d.IsDated) (hc : c.IsDated) :
    ∀ d ∈ done ++ [c], d.IsDated := by
  intro d hd
  obtain hd | hd := List.mem_append.1 hd
  · exact h d hd
  · rwa [List.mem_singleton.1 hd]

theorem home_concat (h : p.result.firstRegion = done.findSome? Candidate.region) :
    (p.noteRegion c).result.firstRegion = (done ++ [c]).findSome? Candidate.region := by
  show p.result.firstRegion.or c.region = _
  rw [List.findSome?_append, h, List.findSome?_cons, List.findSome?_nil]
  cases c.region <;> rfl

/-- The regions of a service when a candidate of it is added. -/
theorem regions_concat_of_eq {service : RawText} (hc : (c.service == service) = true) :
    ((done ++ [c]).filter (·.service == service)).map Candidate.region
      = (done.filter (·.service == service)).map Candidate.region ++ [c.region] := by
  rw [List.filter_append, List.map_append, List.filter_cons, if_pos hc]
  rfl

/-- The regions of a service when a candidate of another is added. -/
theorem regions_concat_of_ne {service : RawText} (hc : ¬ (c.service == service) = true) :
    ((done ++ [c]).filter (·.service == service)).map Candidate.region
      = (done.filter (·.service == service)).map Candidate.region := by
  rw [List.filter_append, List.filter_cons, if_neg hc, List.filter_nil, List.append_nil]

/-- The regions of the services, when a candidate has taken its place. -/
theorem regions_seat {m : EndpointMap}
    (h : ∀ service, (m.regionsOf service).keys
      = ((done.filter (·.service == service)).map Candidate.region).eraseDups)
    (c : Candidate) (service : RawText) :
    ((m.set c.service c.region c.url).regionsOf service).keys
      = (((done ++ [c]).filter (·.service == service)).map Candidate.region).eraseDups := by
  rw [EndpointMap.regionsOf_set]
  by_cases hs : c.service == service
  · rw [if_pos hs, regions_concat_of_eq hs]
    obtain rfl : c.service = service := eq_of_beq hs
    exact OrderedMap.keys_put_of_keys (h c.service) c.region c.url
  · rw [if_neg hs, regions_concat_of_ne hs]
    exact h service

/-- And when its place was taken already. -/
theorem regions_pass {m : EndpointMap}
    (h : ∀ service, (m.regionsOf service).keys
      = ((done.filter (·.service == service)).map Candidate.region).eraseDups)
    {url : String} (hurl : m.get? c.service c.region = some url) (service : RawText) :
    (m.regionsOf service).keys
      = (((done ++ [c]).filter (·.service == service)).map Candidate.region).eraseDups := by
  by_cases hs : c.service == service
  · rw [regions_concat_of_eq hs]
    obtain rfl : c.service = service := eq_of_beq hs
    exact OrderedMap.keys_of_keys_of_has (h c.service) (EndpointMap.has_of_get? hurl).2
  · rw [regions_concat_of_ne hs]
    exact h service

/-- What is held when the best of a place has taken it. -/
theorem Holds.seat {q : RawText × Region} (h : Holds done p q)
    (hbest : IsBest (place c) (done ++ [c]) c) :
    Holds (done ++ [c]) ((p.seat c).noteRegion c) q := by
  have hversion : ((p.seat c).noteRegion c).versions.find? q
      = if place c == q then some c.version else p.versions.find? q :=
    OrderedMap.find?_put p.versions (place c) c.version q
  have hurl : ((p.seat c).noteRegion c).result.endpoints.get? q.1 q.2
      = if place c == q then some c.url else p.result.endpoints.get? q.1 q.2 :=
    EndpointMap.get?_set p.result.endpoints c.service c.region c.url q
  by_cases hq : place c == q
  · rw [if_pos hq] at hversion hurl
    exact .taken (hbest.of_beq hq) hversion hurl
  · rw [if_neg hq] at hversion hurl
    exact h.of_ne hq hversion hurl

/-- And when the best stays in it. -/
theorem Holds.pass {q : RawText × Region} (h : Holds done p q) (hbest : IsBest (place c) done b)
    (hlower : ¬ b.IsBelow c) : Holds (done ++ [c]) (p.noteRegion c) q := by
  by_cases hq : IsAt q c
  · cases h with
    | free hnone _ _ => exact absurd (BEq.trans hbest.isAt hq) (hnone b hbest.mem)
    | taken hbest' hversion' hurl' =>
      obtain rfl := hbest'.unique (hbest.of_beq hq)
      exact .taken (hbest'.concat fun _ => hlower) hversion' hurl'
  · exact h.of_ne hq rfl rfl

/-- **A candidate that takes its place**: nothing was there, or something
below it. -/
theorem Reflects.seat (h : Reflects done p) (hc : c.IsDated)
    (hbest : IsBest (place c) (done ++ [c]) c) :
    Reflects (done ++ [c]) ((p.seat c).noteRegion c) where
  dated := dated_concat h.dated hc
  holds q := (h.holds q).seat hbest
  services := by
    rw [List.map_append]
    exact EndpointMap.keys_set_of_keys h.services c.service c.region c.url
  regions := regions_seat h.regions c
  home := home_concat h.home

/-- **A candidate that is beaten** leaves everything but the first region as
it is. -/
theorem Reflects.pass (h : Reflects done p) (hc : c.IsDated) (hbest : IsBest (place c) done b)
    (hlower : ¬ b.IsBelow c)
    (hurl : p.result.endpoints.get? c.service c.region = some b.url) :
    Reflects (done ++ [c]) (p.noteRegion c) where
  dated := dated_concat h.dated hc
  holds q := (h.holds q).pass hbest hlower
  services := by
    rw [List.map_append]
    exact OrderedMap.keys_of_keys_of_has h.services (EndpointMap.has_of_get? hurl).1
  regions := regions_pass h.regions hurl
  home := home_concat h.home

/-- **One admitted candidate.** -/
theorem Reflects.place (h : Reflects done p) (hc : c.IsDated) (hkey : isKey c.region = true) :
    ∃ p', p.place c = .ok p' ∧ Reflects (done ++ [c]) p' := by
  unfold Progress.place
  rw [if_pos hkey]
  cases h.holds (Resolution.place c) with
  | free hnone hversion hurl =>
    refine ⟨_, ?_, h.seat hc (isBest_of_first hnone BEq.rfl)⟩
    rw [hversion]
    rfl
  | @taken b hbest hversion hurl =>
    have hb := h.dated b hbest.mem
    rw [hversion, Option.join_some]
    obtain ⟨hlower, hbeats⟩ | ⟨hlower, hbeats⟩ := beats_iff hc.2 hb
    · rw [hbeats]
      exact ⟨_, rfl, h.seat hc (hbest.superseded BEq.rfl hlower fun d hd => (h.dated d hd).2)⟩
    · rw [hbeats]
      exact ⟨_, rfl, h.pass hc hbest hlower hurl⟩

end Step

/-! ## The run -/

section Run

variable {rule : RegionRule} {c : Candidate} {admitted : Option Candidate}

/-- **One candidate that is not refused.** -/
theorem Reflects.take {done : List Candidate} {p : Progress} (h : Reflects done p)
    (hc : c.version.isSome = true) (hgives : consider rule c = .ok admitted) :
    ∃ p', p.take rule c = .ok p' ∧ Reflects (done ++ admitted.toList) p' := by
  rw [take_eq, hgives]
  cases admitted with
  | none =>
    refine ⟨p, rfl, ?_⟩
    rwa [Option.toList_none, List.append_nil]
  | some admitted =>
    cases consider_eq_iff.1 hgives with
    | admitted hurl hread hsupported hsettle hkey =>
      -- the region may be new, but the version is that of the original
      have hdated : admitted.IsDated := by
        rw [(RegionRule.settle_eq_some hsettle).1]
        exact ⟨hc, _, hread⟩
      exact h.place hdated hkey

theorem accepted_cons_of_consider (hgives : consider rule c = .ok admitted)
    (more : List Candidate) :
    rule.accepted (c :: more) = admitted.toList ++ rule.accepted more := by
  have haccept := accept?_of_consider hgives
  unfold RegionRule.accepted
  cases admitted with
  | none => exact List.filterMap_cons_none haccept
  | some admitted => exact List.filterMap_cons_some haccept

/-- **A run fails as the first candidate that is refused, or it goes through**,
and then what every step keeps holds of the accepted ones. -/
theorem run_or_fails (rule : RegionRule) (candidates : List Candidate)
    {Inv : List Candidate → Progress → Prop}
    (hstep : ∀ c ∈ candidates, ∀ {done p admitted}, Inv done p → consider rule c = .ok admitted →
      ∃ p', p.take rule c = .ok p' ∧ Inv (done ++ admitted.toList) p')
    {done : List Candidate} {p : Progress} (h : Inv done p) :
    (∃ failure, FirstFailure (consider rule) failure candidates
        ∧ candidates.foldlM (Progress.take rule) p = .error failure)
      ∨ (∀ c ∈ candidates, Reads (consider rule) c)
        ∧ ∃ p', candidates.foldlM (Progress.take rule) p = .ok p'
          ∧ Inv (done ++ rule.accepted candidates) p' := by
  induction candidates generalizing done p with
  | nil =>
    refine .inr ⟨fun c hc => absurd hc List.not_mem_nil, p, rfl, ?_⟩
    rwa [RegionRule.accepted, List.filterMap_nil, List.append_nil]
  | cons c more ih =>
    obtain ⟨hc, hmore⟩ := List.forall_mem_cons.1 hstep
    rw [List.foldlM_cons]
    cases hgives : consider rule c with
    | error failure =>
      rw [take_eq, hgives]
      exact .inl ⟨failure, .here hgives, rfl⟩
    | ok admitted =>
      obtain ⟨p', hp', h'⟩ := hc h hgives
      rw [hp', accepted_cons_of_consider hgives, ← List.append_assoc]
      obtain ⟨failure, hfails, hrun⟩ | ⟨hall, hrun⟩ := ih hmore h'
      · exact .inl ⟨failure, .later ⟨admitted, hgives⟩ hfails, hrun⟩
      · exact .inr ⟨List.forall_mem_cons.2 ⟨⟨admitted, hgives⟩, hall⟩, hrun⟩

/-- **A resolution fails as the first candidate that is refused, or it
reflects the accepted ones.** -/
theorem reflects_or_fails (rule : RegionRule) {candidates : List Candidate}
    (hstated : ∀ c ∈ candidates, c.version.isSome = true) {done : List Candidate} {p : Progress}
    (h : Reflects done p) :
    (∃ failure, FirstFailure (consider rule) failure candidates
        ∧ candidates.foldlM (Progress.take rule) p = .error failure)
      ∨ (∀ c ∈ candidates, Reads (consider rule) c)
        ∧ ∃ p', candidates.foldlM (Progress.take rule) p = .ok p'
          ∧ Reflects (done ++ rule.accepted candidates) p' :=
  run_or_fails rule candidates (fun c hc _ _ _ h hgives => h.take (hstated c hc) hgives) h

/-- The same of a whole resolution. -/
theorem resolve_cases (rule : RegionRule) {candidates : List Candidate}
    (hstated : ∀ c ∈ candidates, c.version.isSome = true) :
    (∃ failure, FirstFailure (consider rule) failure candidates
        ∧ resolve rule candidates = .error failure)
      ∨ (∀ c ∈ candidates, Reads (consider rule) c)
        ∧ ∃ p, resolve rule candidates = .ok p.result ∧ Reflects (rule.accepted candidates) p := by
  unfold resolve
  obtain ⟨failure, hfails, hrun⟩ | ⟨hall, p, hrun, h⟩ :=
    reflects_or_fails rule hstated reflects_start
  · exact .inl ⟨failure, hfails, by rw [hrun]; rfl⟩
  · exact .inr ⟨hall, p, by rw [hrun]; rfl, h⟩

/-- The first candidate that is refused is the failure of the whole. -/
theorem resolve_of_firstFailure {candidates : List Candidate} {failure : Failure}
    (hstated : ∀ c ∈ candidates, c.version.isSome = true)
    (h : FirstFailure (consider rule) failure candidates) :
    resolve rule candidates = .error failure := by
  obtain ⟨failure', hfails, hrun⟩ | ⟨hall, -⟩ := resolve_cases rule hstated
  · rw [hrun, FirstFailure.unique h hfails]
  · obtain ⟨c, hc, hrefused⟩ := h.exists_mem
    obtain ⟨admitted, hgives⟩ := hall c hc
    rw [hrefused] at hgives
    cases hgives

end Run

/-! ## What is kept -/

/-- Some candidate with a locator has a version that is not made of
numbers. -/
def HasUnreadable (candidates : List Candidate) : Prop :=
  ∃ c ∈ candidates, c.url ≠ "" ∧ ∃ fault, Version.read c.version = .error fault

/-- **What is kept of the accepted candidates.** -/
structure Kept (accepted : List Candidate) (endpoints : EndpointMap) : Prop where
  /-- There is an endpoint in a place if one was accepted for it. -/
  offered : ∀ service region, (endpoints.get? service region).isSome = true
    ↔ ∃ c ∈ accepted, IsAt (service, region) c
  /-- It is the best of the place: the earliest of the highest version. -/
  best : ∀ service region url, endpoints.get? service region = some url
    ↔ ∃ c, IsBest (service, region) accepted c ∧ c.url = url
  /-- Services stand in the order of their first candidates. -/
  services : endpoints.keys = (accepted.map Candidate.service).eraseDups
  /-- And so do the regions of each. -/
  regions : ∀ service, (endpoints.regionsOf service).keys
    = ((accepted.filter (·.service == service)).map Candidate.region).eraseDups

theorem Reflects.kept {done : List Candidate} {p : Progress} (h : Reflects done p) :
    Kept done p.result.endpoints where
  offered service region := by
    cases h.holds (service, region) with
    | free hnone _ hurl =>
      rw [hurl]
      exact iff_of_false Bool.false_ne_true fun ⟨c, hc, hat⟩ => hnone c hc hat
    | taken hbest _ hurl =>
      rw [hurl]
      exact iff_of_true rfl ⟨_, hbest.mem, hbest.isAt⟩
  best service region url := by
    cases h.holds (service, region) with
    | free hnone _ hurl =>
      rw [hurl]
      exact iff_of_false (Option.some_ne_none url).symm
        fun ⟨c, hbest, _⟩ => hnone c hbest.mem hbest.isAt
    | @taken b hbest _ hurl =>
      rw [hurl, Option.some_inj]
      constructor
      · intro hb
        exact ⟨b, hbest, hb⟩
      · rintro ⟨c, hbest', rfl⟩
        rw [hbest.unique hbest']
  services := h.services
  regions := h.regions

/-- Where versions are stated, locators can be read and regions are keys, a
version is all a candidate can be refused for. -/
theorem exists_badVersion_of_consider {rule : RegionRule} {c : Candidate} {failure : Failure}
    (hstated : c.version.isSome = true) (hlocated : ∃ l, Locator.read c.url = .ok l)
    (hkey : isKey c.region = true) (h : consider rule c = .error failure) :
    (c.url ≠ "" ∧ ∃ fault, Version.read c.version = .error fault)
      ∧ ∃ text cause, failure = .fault (.badVersion text cause) := by
  cases consider_eq_iff.1 h with
  | @undated f hurl hread =>
    obtain ⟨text, htext⟩ := Option.isSome_iff_exists.1 hstated
    have htext' : Version.readText text = .error f := by rwa [htext] at hread
    obtain ⟨cause, rfl⟩ := Version.readText_eq_error htext'
    exact ⟨⟨hurl, _, hread⟩, text, cause, rfl⟩
  | unsettled _ _ _ hsettle =>
    obtain ⟨l, hl⟩ := hlocated
    have hl' := (Region.infer_eq_error_iff.1 (RegionRule.settle_eq_error hsettle)).2
    rw [hl] at hl'
    cases hl'
  | keyless _ _ _ hsettle hno =>
    obtain ⟨-, hregion | ⟨name, hregion⟩⟩ := RegionRule.settle_eq_some hsettle
    · rw [hregion, hkey] at hno
      cases hno
    · rw [hregion] at hno
      cases hno

/-- **One endpoint per service and region: that of the earliest candidate of
the highest version.** A resolution of candidates with stated versions,
readable locators and regions that are keys fails if one with a locator has a
version that is not made of numbers, with an internal fault that quotes a
version, and in no other case. Else it has an endpoint exactly where a
candidate was accepted, that of the best one there; and services and regions
stand in the order in which candidates for them were first accepted, whatever
took their place later. -/
theorem best_version_kept (rule : RegionRule) (candidates : List Candidate)
    (hstated : ∀ c ∈ candidates, c.version.isSome = true)
    (hlocated : ∀ c ∈ candidates, ∃ l, Locator.read c.url = .ok l)
    (hkeys : ∀ c ∈ candidates, isKey c.region = true) :
    ((∃ text cause, resolve rule candidates = .error (.fault (.badVersion text cause)))
        ↔ HasUnreadable candidates)
      ∧ (¬ HasUnreadable candidates → ∃ resolution, resolve rule candidates = .ok resolution
          ∧ Kept (rule.accepted candidates) resolution.endpoints) := by
  obtain ⟨failure, hfails, hrun⟩ | ⟨hall, p, hrun, h⟩ := resolve_cases rule hstated
  · obtain ⟨c, hc, hrefused⟩ := hfails.exists_mem
    obtain ⟨hunreadable, text, cause, rfl⟩ :=
      exists_badVersion_of_consider (hstated c hc) (hlocated c hc) (hkeys c hc) hrefused
    have hsome : HasUnreadable candidates := ⟨c, hc, hunreadable⟩
    exact ⟨iff_of_true ⟨text, cause, hrun⟩ hsome, fun hnone => absurd hsome hnone⟩
  · have hnone : ¬ HasUnreadable candidates := by
      rintro ⟨c, hc, hurl, fault, hread⟩
      obtain ⟨admitted, hgives⟩ := hall c hc
      rw [consider_eq_iff.2 (.undated hurl hread)] at hgives
      cases hgives
    refine ⟨iff_of_false ?_ hnone, fun _ => ⟨p.result, hrun, h.kept⟩⟩
    rintro ⟨text, cause, hfails⟩
    rw [hrun] at hfails
    cases hfails

/-- Offers of two services: the second place of the map is taken before the
first is contested, and the highest version is stated twice, in different
words. -/
def offers : List Candidate :=
  [⟨"compute", Region.named "a", "http://one/v1.1", some "1.1"⟩,
   ⟨"image", Region.named "a", "http://two", some "1.0"⟩,
   ⟨"compute", none, "http://b.three.example/v1.0", some "1.0"⟩,
   ⟨"compute", Region.named "a", "http://four/v2", some " 2"⟩,
   ⟨"compute", Region.named "a", "http://five/v2", some "2.00"⟩,
   ⟨"compute", Region.named "a", "http://six/v3", some "3.0"⟩]

theorem best_version_kept_of_offers :
    ∃ resolution, resolve .usual offers = .ok resolution
      ∧ Kept (RegionRule.usual.accepted offers) resolution.endpoints
      ∧ resolution.endpoints.get? "compute" (Region.named "a") = some "http://four/v2"
      ∧ resolution.endpoints.keys = [RawText.ofString "compute", "image"] := by
  have hread : ∀ c ∈ offers, ∃ v, Version.read c.version = .ok v := by
    simp only [offers, List.forall_mem_cons]
    exact ⟨⟨_, rfl⟩, ⟨_, rfl⟩, ⟨_, rfl⟩, ⟨_, rfl⟩, ⟨_, rfl⟩, ⟨_, rfl⟩, nofun⟩
  have hnone : ¬ HasUnreadable offers := by
    rintro ⟨c, hc, -, fault, hfault⟩
    obtain ⟨v, hv⟩ := hread c hc
    rw [hv] at hfault
    cases hfault
  have hstated : ∀ c ∈ offers, c.version.isSome = true := by
    simp only [offers, List.forall_mem_cons]
    exact ⟨rfl, rfl, rfl, rfl, rfl, rfl, nofun⟩
  have hlocated : ∀ c ∈ offers, ∃ l, Locator.read c.url = .ok l := by
    simp only [offers, List.forall_mem_cons]
    exact ⟨⟨_, rfl⟩, ⟨_, rfl⟩, ⟨_, rfl⟩, ⟨_, rfl⟩, ⟨_, rfl⟩, ⟨_, rfl⟩, nofun⟩
  have hkeys : ∀ c ∈ offers, isKey c.region = true := by
    simp only [offers, List.forall_mem_cons]
    exact ⟨rfl, rfl, rfl, rfl, rfl, rfl, nofun⟩
  obtain ⟨resolution, hresolution, hkept⟩ :=
    (best_version_kept .usual offers hstated hlocated hkeys).2 hnone
  have hget : (resolve .usual offers).map (·.endpoints.get? "compute" (Region.named "a"))
    = .ok (some "http://four/v2") := rfl
  have hkeys' : (resolve .usual offers).map (·.endpoints.keys) = .ok ["compute", "image"] := rfl
  rw [hresolution] at hget hkeys'
  exact ⟨resolution, hresolution, hkept, Except.ok.inj hget, Except.ok.inj hkeys'⟩

end Resolution

end CloudClient
