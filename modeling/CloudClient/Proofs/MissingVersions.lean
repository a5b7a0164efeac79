import CloudClient.Proofs.BestVersion
import Mathlib.Data.List.Forall2

/-!
# Candidates without a version

A candidate may come without a version, and then it counts as one of `1.0`. So
it should make no difference if somebody wrote that down, and nearly always it
makes none. There are two places where the text itself is looked at, though. A
region is made for an entry of the very text `1.0` and for no other; and in the
loop a missing version marks a place that is free, so that an entry without one
is displaced by whatever comes next.

`Candidate.States` has the candidates with versions written in. `Seats` is what
a resolution keeps even so: services, regions and home are where they were first
met, and each place is taken by a candidate that was accepted for it. Where no
candidate without a version is displaced by one that is not above it
(`Undisplaced`), the best of each place is in it, as it is with stated versions.

So two resolutions of the same candidates, one with versions written in, differ
in locators at most, `Seats.sameButLocators`, and without displacements not at
all, `Seats.result_eq`.
-/

namespace CloudClient

/-! ## Maps of endpoints -/

/-- Maps with the same services, regions and endpoints are one. -/
theorem EndpointMap.ext_get? {m m' : EndpointMap} (hservices : m.keys = m'.keys)
    (hregions : ∀ service, (m.regionsOf service).keys = (m'.regionsOf service).keys)
    (h : ∀ service region, m.get? service region = m'.get? service region) : m = m' := by
  have hsame (service : RawText) : m.regionsOf service = m'.regionsOf service :=
    OrderedMap.ext_find? (hregions service) (h service)
  refine OrderedMap.ext_find? hservices fun service => ?_
  have hthere : (m.find? service).isSome = (m'.find? service).isSome := by
    rw [OrderedMap.isSome_find?, OrderedMap.isSome_find?, OrderedMap.has_eq_any_keys,
      OrderedMap.has_eq_any_keys, hservices]
  have hvalue := hsame service
  unfold EndpointMap.regionsOf at hvalue
  cases hfound : m.find? service <;> cases hfound' : m'.find? service <;>
    simp_all

/-! ## Versions that are written in -/

namespace Candidate

/-- **A candidate as somebody may write it down who states versions**: as it
is, or as one of `1.0` if it has no version. -/
inductive States : Candidate → Candidate → Prop where
  | same (c : Candidate) : States c c
  | stated {c : Candidate} (hnone : c.version = none) :
      States c { c with version := some (RawText.ofString Version.defaultText) }

/-- Candidates differ in nothing but the spelling of one version. -/
structure Alike (a b : Candidate) : Prop where
  service : b.service = a.service
  region : b.region = a.region
  url : b.url = a.url
  version : Version.read b.version = Version.read a.version

variable {a a' b b' : Candidate}

theorem States.alike (h : a.States b) : a.Alike b := by
  cases h with
  | same => exact ⟨rfl, rfl, rfl, rfl⟩
  | stated hnone => exact ⟨rfl, rfl, rfl, by rw [hnone]; rfl⟩

/-- What is without a version in the end was so before. -/
theorem States.version_eq_none (h : a.States b) (hb : b.version = none) : a.version = none := by
  cases h with
  | same => exact hb
  | stated => cases hb

theorem Alike.symm (h : a.Alike b) : b.Alike a :=
  ⟨h.service.symm, h.region.symm, h.url.symm, h.version.symm⟩

/-- The order of candidates does not depend on spellings. -/
theorem Alike.isBelow (ha : a.Alike a') (hb : b.Alike b') (h : a.IsBelow b) : a'.IsBelow b' := by
  obtain ⟨v, w, hv, hw, hlt⟩ := h
  exact ⟨v, w, ha.version.trans hv, hb.version.trans hw, hlt⟩

theorem Alike.place (h : a.Alike b) : Resolution.place b = Resolution.place a := by
  rw [Resolution.place, Resolution.place, h.service, h.region]

end Candidate

open Candidate (States Alike)

namespace Resolution

/-! ## The best among candidates that are alike -/

section Best

variable {R : Candidate → Candidate → Prop} (hR : ∀ a b, R a b → a.Alike b)
  {p : RawText × Region} {as bs before after : List Candidate} {a b : Candidate}

theorem exists_split (h : List.Forall₂ R (before ++ a :: after) bs) :
    ∃ before' b after', bs = before' ++ b :: after' ∧ List.Forall₂ R before before' ∧ R a b
      ∧ List.Forall₂ R after after' := by
  induction before generalizing bs with
  | nil =>
    obtain ⟨b, after', hb, hafter, rfl⟩ := List.forall₂_cons_left_iff.1 h
    exact ⟨[], b, after', rfl, .nil, hb, hafter⟩
  | cons c before ih =>
    obtain ⟨d, rest, hd, hrest, rfl⟩ := List.forall₂_cons_left_iff.1 h
    obtain ⟨before', b, after', rfl, hbefore, hb, hafter⟩ := ih hrest
    exact ⟨d :: before', b, after', rfl, .cons hd hbefore, hb, hafter⟩

theorem exists_mem_of_forall₂ (h : List.Forall₂ R as bs) (hb : b ∈ bs) : ∃ a ∈ as, R a b := by
  induction h with
  | nil => cases hb
  | cons hab _ ih =>
    obtain rfl | hb := List.mem_cons.1 hb
    · exact ⟨_, List.mem_cons_self, hab⟩
    · obtain ⟨a, ha, hab⟩ := ih hb
      exact ⟨a, List.mem_cons_of_mem _ ha, hab⟩

include hR

theorem isAt_of_alike (h : R a b) : IsAt p a ↔ IsAt p b := by
  rw [IsAt, IsAt, (hR a b h).place]

/-- **The best of a place has its counterpart** among candidates that are
alike. -/
theorem IsBest.exists_alike (hlist : List.Forall₂ R as bs) (h : IsBest p as a) :
    ∃ b, R a b ∧ IsBest p bs b := by
  obtain ⟨before, after, rfl, hat, hbefore, hafter⟩ := h
  obtain ⟨before', b, after', rfl, hfront, hab, hback⟩ := exists_split hlist
  refine ⟨b, hab, before', after', rfl, (isAt_of_alike hR hab).1 hat, ?_, ?_⟩
  · intro d' hd' hat'
    obtain ⟨d, hd, hdd'⟩ := exists_mem_of_forall₂ hfront hd'
    have hlower := hbefore d hd ((isAt_of_alike hR hdd').2 hat')
    exact (hR d d' hdd').isBelow (hR a b hab) hlower
  · intro d' hd' hat' hlower
    obtain ⟨d, hd, hdd'⟩ := exists_mem_of_forall₂ hback hd'
    refine hafter d hd ((isAt_of_alike hR hdd').2 hat') ?_
    exact (hR a b hab).symm.isBelow (hR d d' hdd').symm hlower

end Best

/-! ## What a resolution keeps in any case -/

/-- **No candidate without a version is displaced** by one that is not above
it: whoever comes to a place is above the best that is there, if that one has no
version. -/
def Undisplaced (accepted : List Candidate) : Prop :=
  ∀ before c after b, accepted = before ++ c :: after → IsBest (place c) before b →
    b.version = none → b.IsBelow c

/-- **What has been resolved of the accepted candidates so far**, with or
without versions. -/
structure Seats (done : List Candidate) (p : Progress) : Prop where
  /-- Every version can be compared. -/
  readable : ∀ c ∈ done, c.IsReadable
  /-- Both maps hold an accepted candidate, or nothing at all. -/
  held : ∀ q, (p.versions.find? q = none ∧ p.result.endpoints.get? q.1 q.2 = none)
    ∨ ∃ c ∈ done, p.versions.find? q = some c.version
      ∧ ∃ url, p.result.endpoints.get? q.1 q.2 = some url
  /-- Services stand where they were first met. -/
  services : p.result.endpoints.keys = (done.map Candidate.service).eraseDups
  /-- And so do the regions of each. -/
  regions : ∀ service, (p.result.endpoints.regionsOf service).keys
    = ((done.filter (·.service == service)).map Candidate.region).eraseDups
  /-- The first region that was met is kept. -/
  home : p.result.firstRegion = done.findSome? Candidate.region
  /-- Without displacements it is the best of each place that is held. -/
  best : Undisplaced done → ∀ q, Holds done p q

theorem seats_start : Seats [] Progress.start where
  readable _ h := absurd h List.not_mem_nil
  held _ := .inl ⟨rfl, rfl⟩
  services := rfl
  regions _ := rfl
  home := rfl
  best _ _ := .free (fun _ h => absurd h List.not_mem_nil) rfl rfl

theorem Undisplaced.of_concat {done : List Candidate} {c : Candidate}
    (h : Undisplaced (done ++ [c])) : Undisplaced done := by
  intro before d after b hsplit
  refine h before d (after ++ [c]) b ?_
  rw [hsplit, List.append_assoc, List.cons_append]

section Step

variable {done : List Candidate} {p : Progress} {c : Candidate}

theorem readable_concat (h : ∀ d ∈ done, d.IsReadable) (hc : c.IsReadable) :
    ∀ d ∈ done ++ [c], d.IsReadable := by
  intro d hd
  obtain hd | hd := List.mem_append.1 hd
  · exact h d hd
  · rwa [List.mem_singleton.1 hd]

/-- **A candidate that takes its place.** -/
theorem Seats.seat (h : Seats done p) (hc : c.IsReadable)
    (hbest : Undisplaced (done ++ [c]) → IsBest (place c) (done ++ [c]) c) :
    Seats (done ++ [c]) ((p.seat c).noteRegion c) where
  readable := readable_concat h.readable hc
  held q := by
    have hversion : ((p.seat c).noteRegion c).versions.find? q
        = if place c == q then some c.version else p.versions.find? q :=
      OrderedMap.find?_put p.versions (place c) c.version q
    have hurl : ((p.seat c).noteRegion c).result.endpoints.get? q.1 q.2
        = if place c == q then some c.url else p.result.endpoints.get? q.1 q.2 :=
      EndpointMap.get?_set p.result.endpoints c.service c.region c.url q
    rw [hversion, hurl]
    split
    · exact .inr ⟨c, List.mem_append_right _ List.mem_cons_self, rfl, c.url, rfl⟩
    · obtain hfree | ⟨d, hd, hheld⟩ := h.held q
      · exact .inl hfree
      · exact .inr ⟨d, List.mem_append_left _ hd, hheld⟩
  services := by
    rw [List.map_append]
    exact EndpointMap.keys_set_of_keys h.services c.service c.region c.url
  regions := regions_seat h.regions c
  home := home_concat h.home
  best hundisplaced q := (h.best hundisplaced.of_concat q).seat (hbest hundisplaced)

/-- **A candidate that is beaten.** -/
theorem Seats.pass (h : Seats done p) (hc : c.IsReadable) {url : String}
    (hurl : p.result.endpoints.get? c.service c.region = some url)
    (hbest : Undisplaced done → ∃ b, IsBest (place c) done b ∧ ¬ b.IsBelow c) :
    Seats (done ++ [c]) (p.noteRegion c) where
  readable := readable_concat h.readable hc
  held q := by
    obtain hfree | ⟨d, hd, hheld⟩ := h.held q
    · exact .inl hfree
    · exact .inr ⟨d, List.mem_append_left _ hd, hheld⟩
  services := by
    rw [List.map_append]
    exact OrderedMap.keys_of_keys_of_has h.services (EndpointMap.has_of_get? hurl).1
  regions := regions_pass h.regions hurl
  home := home_concat h.home
  best hundisplaced q := by
    obtain ⟨b, hb, hlower⟩ := hbest hundisplaced.of_concat
    exact (h.best hundisplaced.of_concat q).pass hb hlower

/-- The best of a place has the version that is kept for it. -/
theorem Seats.exists_best (h : Seats done p) (hundisplaced : Undisplaced done)
    {q : RawText × Region} {version : Option RawText}
    (hversion : p.versions.find? q = some version) :
    ∃ b, IsBest q done b ∧ b.version = version := by
  cases h.best hundisplaced q with
  | free _ hfree _ =>
    rw [hfree] at hversion
    cases hversion
  | taken hbest hheld _ =>
    exact ⟨_, hbest, Option.some.inj (hheld.symm.trans hversion)⟩

/-- Candidates of one version are below the same ones. -/
theorem isBelow_of_version_eq {a b : Candidate} (hversion : a.version = b.version)
    (h : a.IsBelow c) : b.IsBelow c := by
  rw [Candidate.IsBelow, hversion] at h
  exact h

/-- **One admitted candidate.** -/
theorem Seats.place (h : Seats done p) (hc : c.IsReadable) (hkey : isKey c.region = true) :
    ∃ p', p.place c = .ok p' ∧ Seats (done ++ [c]) p' := by
  have hsuperseded {b : Candidate} (hbest : IsBest (Resolution.place c) done b)
      (hlower : b.IsBelow c) : IsBest (Resolution.place c) (done ++ [c]) c :=
    hbest.superseded BEq.rfl hlower h.readable
  unfold Progress.place
  rw [if_pos hkey]
  obtain ⟨hversion, hurl⟩ | ⟨d, hd, hversion, url, hurl⟩ := h.held (Resolution.place c)
  · -- nobody was there, so the candidate is the first and the best for now
    rw [hversion]
    refine ⟨_, rfl, h.seat hc fun hundisplaced => ?_⟩
    cases h.best hundisplaced.of_concat (Resolution.place c) with
    | free hnone _ _ => exact isBest_of_first hnone BEq.rfl
    | taken _ hheld _ =>
      rw [hversion] at hheld
      cases hheld
  · rw [hversion, Option.join_some]
    cases hstated : d.version with
    | none =>
      -- a missing version marks the place as free
      refine ⟨_, rfl, h.seat hc fun hundisplaced => ?_⟩
      obtain ⟨b, hbest, hb⟩ := h.exists_best hundisplaced.of_concat hversion
      exact hsuperseded hbest (hundisplaced done c [] b rfl hbest (hb.trans hstated))
    | some text =>
      have hdated : d.IsDated := ⟨by rw [hstated]; rfl, h.readable d hd⟩
      rw [← hstated]
      obtain ⟨hlower, hbeats⟩ | ⟨hlower, hbeats⟩ := beats_iff hc hdated
      · rw [hbeats]
        refine ⟨_, rfl, h.seat hc fun hundisplaced => ?_⟩
        obtain ⟨b, hbest, hb⟩ := h.exists_best hundisplaced.of_concat hversion
        exact hsuperseded hbest (isBelow_of_version_eq hb.symm hlower)
      · rw [hbeats]
        refine ⟨_, rfl, h.pass hc hurl fun hundisplaced => ?_⟩
        obtain ⟨b, hbest, hb⟩ := h.exists_best hundisplaced hversion
        exact ⟨b, hbest, fun hbelow => hlower (isBelow_of_version_eq hb hbelow)⟩

end Step

section Run

variable {rule : RegionRule} {c : Candidate} {admitted : Option Candidate}

/-- **One candidate that is not refused.** -/
theorem Seats.take {done : List Candidate} {p : Progress} (h : Seats done p)
    (hgives : consider rule c = .ok admitted) :
    ∃ p', p.take rule c = .ok p' ∧ Seats (done ++ admitted.toList) p' := by
  rw [take_eq, hgives]
  cases admitted with
  | none =>
    refine ⟨p, rfl, ?_⟩
    rwa [Option.toList_none, List.append_nil]
  | some admitted =>
    cases consider_eq_iff.1 hgives with
    | admitted hurl hread hsupported hsettle hkey =>
      have hreadable : admitted.IsReadable := by
        rw [(RegionRule.settle_eq_some hsettle).1]
        exact ⟨_, hread⟩
      exact h.place hreadable hkey

/-- **A resolution of any candidates** fails as the first one that is refused,
or it keeps what is accepted. -/
theorem resolve_seats (rule : RegionRule) (candidates : List Candidate) :
    (∃ failure, FirstFailure (consider rule) failure candidates
        ∧ resolve rule candidates = .error failure)
      ∨ (∀ c ∈ candidates, Reads (consider rule) c)
        ∧ ∃ p, resolve rule candidates = .ok p.result ∧ Seats (rule.accepted candidates) p := by
  unfold resolve
  obtain ⟨failure, hfails, hrun⟩ | ⟨hall, p, hrun, h⟩ :=
    run_or_fails rule candidates (fun _ _ _ _ _ h => h.take) seats_start
  · exact .inl ⟨failure, hfails, by rw [hrun]; rfl⟩
  · exact .inr ⟨hall, p, by rw [hrun]; rfl, h⟩

end Run

/-! ## Candidates with versions written in -/

/-- **Versions are written in where no region is made for that**: the candidate
has one or counts for nothing, or the rule makes none. -/
inductive StatesUnder (rule : RegionRule) : Candidate → Candidate → Prop where
  | same (c : Candidate) : StatesUnder rule c c
  | stated {c : Candidate} (hnone : c.version = none)
      (hregion : c.url = "" ∨ c.region ≠ none ∨ rule.headerOnly = true) :
      StatesUnder rule c { c with version := some (RawText.ofString Version.defaultText) }

section Stated

variable {rule : RegionRule} {c c' : Candidate} {as bs : List Candidate}

/-- A rule that makes no region for a candidate keeps it as it is, or leaves it
out for its service. -/
theorem settle_of_keeps (h : c.region ≠ none ∨ rule.headerOnly = true) :
    rule.settle c = .ok (if c.region = none ∧ rule.ambiguous.contains c.service = true then none
      else some c) := by
  unfold RegionRule.settle
  cases hc : c.region with
  | some label => rfl
  | none =>
    have honly : rule.headerOnly = true := h.resolve_left fun hne => hne hc
    simp only [honly, Bool.true_eq_false, and_false, if_false, true_and]
    split <;> rfl

/-- **What a candidate of `1.0` comes to by itself**, if no region is made for
it. -/
theorem consider_of_keeps (hurl : c.url ≠ "") (hread : Version.read c.version = .ok ⟨1, 0⟩)
    (h : c.region ≠ none ∨ rule.headerOnly = true) :
    consider rule c =
      if c.region = none ∧ rule.ambiguous.contains c.service = true then .ok none
      else if isKey c.region then .ok (some c) else .error (.defect .regionNoKey) := by
  have hsupported : Version.isSupported ⟨1, 0⟩ = true := by decide
  unfold consider
  simp only [if_neg hurl, hread, hsupported, settle_of_keeps h, if_true]
  by_cases hout : c.region = none ∧ rule.ambiguous.contains c.service = true
  · simp only [if_pos hout]
  · simp only [if_neg hout]

/-- **What a candidate comes to by itself** does not depend on whether its
version is written in. -/
theorem consider_states (h : StatesUnder rule c c') :
    (∃ failure, consider rule c = .error failure ∧ consider rule c' = .error failure)
      ∨ ∃ a a', consider rule c = .ok a ∧ consider rule c' = .ok a' ∧ Option.Rel States a a' := by
  cases h with
  | same =>
    cases hgives : consider rule c with
    | error failure => exact .inl ⟨failure, rfl, rfl⟩
    | ok admitted =>
      refine .inr ⟨admitted, admitted, rfl, rfl, ?_⟩
      cases admitted with
      | none => exact .none
      | some admitted => exact .some (.same admitted)
  | stated hnone hregion =>
    by_cases hurl : c.url = ""
    · exact .inr ⟨none, none, consider_eq_iff.2 (.unlocated hurl),
        consider_eq_iff.2 (.unlocated hurl), .none⟩
    · have hkeeps := hregion.resolve_left hurl
      rw [consider_of_keeps hurl (by rw [hnone]; rfl) hkeeps]
      rw [consider_of_keeps (c := { c with version := some _ }) hurl rfl hkeeps]
      split
      · exact .inr ⟨none, none, rfl, rfl, .none⟩
      · split
        · exact .inr ⟨some c, _, rfl, rfl, .some (.stated hnone)⟩
        · exact .inl ⟨_, rfl, rfl⟩

/-- The accepted candidates are those with versions written in, if nothing is
refused. -/
theorem accepted_states (h : List.Forall₂ (StatesUnder rule) as bs)
    (hall : ∀ c ∈ as, Reads (consider rule) c) :
    List.Forall₂ States (rule.accepted as) (rule.accepted bs) := by
  induction h with
  | nil => exact .nil
  | cons hc _ ih =>
    obtain ⟨⟨admitted, hgives⟩, hrest⟩ := List.forall_mem_cons.1 hall
    obtain ⟨failure, hfails, -⟩ | ⟨a, a', ha, ha', hrel⟩ := consider_states hc
    · rw [hfails] at hgives
      cases hgives
    · rw [accepted_cons_of_consider ha, accepted_cons_of_consider ha']
      cases hrel with
      | none => exact ih hrest
      | some hstates => exact .cons hstates (ih hrest)

theorem reads_states (h : List.Forall₂ (StatesUnder rule) as bs)
    (hall : ∀ c ∈ as, Reads (consider rule) c) : ∀ c ∈ bs, Reads (consider rule) c := by
  intro c' hc'
  obtain ⟨c, hc, hstates⟩ := exists_mem_of_forall₂ h hc'
  obtain ⟨failure, hfails, -⟩ | ⟨a, a', -, ha', -⟩ := consider_states hstates
  · obtain ⟨admitted, hgives⟩ := hall c hc
    rw [hfails] at hgives
    cases hgives
  · exact ⟨a', ha'⟩

/-- The first one that is refused stays the first. -/
theorem firstFailure_states {failure : Failure} (h : List.Forall₂ (StatesUnder rule) as bs)
    (hfails : FirstFailure (consider rule) failure as) :
    FirstFailure (consider rule) failure bs := by
  induction h with
  | nil => cases hfails
  | cons hc _ ih =>
    obtain ⟨failure', hgives, hgives'⟩ | ⟨a, a', hgives, hgives', -⟩ := consider_states hc
    · obtain hfirst | ⟨⟨a, ha⟩, -⟩ := FirstAt.cons_iff.1 hfails
      · obtain rfl := Except.error.inj (hgives.symm.trans hfirst)
        exact .here hgives'
      · rw [hgives] at ha
        cases ha
    · obtain hfirst | ⟨-, hrest⟩ := FirstAt.cons_iff.1 hfails
      · rw [hgives] at hfirst
        cases hfirst
      · exact .later ⟨a', hgives'⟩ (ih hrest)

theorem map_eq_of_states {β : Type} {f : Candidate → β} (hf : ∀ {a b}, a.Alike b → f b = f a)
    (h : List.Forall₂ States as bs) : bs.map f = as.map f := by
  induction h with
  | nil => rfl
  | cons hc _ ih => rw [List.map_cons, List.map_cons, hf hc.alike, ih]

theorem filter_states (h : List.Forall₂ States as bs) (service : RawText) :
    List.Forall₂ States (as.filter (·.service == service)) (bs.filter (·.service == service)) :=
  List.rel_filter
    (fun _ _ hab => iff_of_eq (congrArg (fun s => (s == service) = true) hab.alike.service.symm)) h

/-- Nobody is displaced who was not before. -/
theorem Undisplaced.states (h : Undisplaced as) (hlist : List.Forall₂ States as bs) :
    Undisplaced bs := by
  rintro before c after b rfl hbest hnone
  obtain ⟨before', c', after', rfl, hfront, hc, -⟩ := exists_split hlist.flip
  obtain ⟨b', hb, hbest'⟩ := hbest.exists_alike (fun _ _ hab => (States.alike hab).symm) hfront
  have hplace : place c = place c' := (States.alike hc).place
  have hlower := h before' c' after' b' rfl (hplace ▸ hbest') (States.version_eq_none hb hnone)
  exact (States.alike hb).isBelow (States.alike hc) hlower

end Stated

/-! ## Outcomes -/

/-- Two resolutions have the same services and regions in the same order, and
the same home. -/
structure SameButLocators (r r' : Resolution) : Prop where
  services : r'.endpoints.keys = r.endpoints.keys
  regions : ∀ service,
    (r'.endpoints.regionsOf service).keys = (r.endpoints.regionsOf service).keys
  firstRegion : r'.firstRegion = r.firstRegion

theorem eq_of_parts {r r' : Resolution} (hendpoints : r'.endpoints = r.endpoints)
    (hregion : r'.firstRegion = r.firstRegion) : r' = r := by
  cases r
  cases r'
  cases hendpoints
  cases hregion
  rfl

section Outcomes

variable {as bs : List Candidate} {p p' : Progress}

theorem Seats.sameButLocators (h : Seats as p) (h' : Seats bs p')
    (hlist : List.Forall₂ States as bs) : SameButLocators p.result p'.result where
  services := by
    rw [h.services, h'.services, map_eq_of_states (f := Candidate.service) Alike.service hlist]
  regions service := by
    rw [h.regions, h'.regions,
      map_eq_of_states (f := Candidate.region) Alike.region (filter_states hlist service)]
  firstRegion := by
    have hregions := map_eq_of_states (f := Candidate.region) Alike.region hlist
    have hfirst (cs : List Candidate) :
        cs.findSome? Candidate.region = (cs.map Candidate.region).findSome? id := by
      rw [List.findSome?_map]
      rfl
    rw [h.home, h'.home, hfirst, hfirst, hregions]

/-- **Without displacements it is the same locators, too.** -/
theorem Seats.get?_eq (h : Seats as p) (h' : Seats bs p') (hlist : List.Forall₂ States as bs)
    (hundisplaced : Undisplaced as) (service : RawText) (region : Region) :
    p'.result.endpoints.get? service region = p.result.endpoints.get? service region := by
  have hback {q : RawText × Region} {b : Candidate} (hbest : IsBest q bs b) :
      ∃ a, a.States b ∧ IsBest q as a :=
    hbest.exists_alike (fun _ _ hab => (States.alike hab).symm) hlist.flip
  have hforth {q : RawText × Region} {a : Candidate} (hbest : IsBest q as a) :
      ∃ b, a.States b ∧ IsBest q bs b :=
    hbest.exists_alike (fun _ _ => States.alike) hlist
  cases h.best hundisplaced (service, region) with
  | free hnone _ hurl =>
    cases h'.best (hundisplaced.states hlist) (service, region) with
    | free _ _ hurl' => rw [hurl, hurl']
    | taken hbest' _ _ =>
      obtain ⟨a, -, hbest⟩ := hback hbest'
      exact absurd hbest.isAt (hnone a hbest.mem)
  | taken hbest _ hurl =>
    cases h'.best (hundisplaced.states hlist) (service, region) with
    | free hnone _ _ =>
      obtain ⟨b, -, hbest'⟩ := hforth hbest
      exact absurd hbest'.isAt (hnone b hbest'.mem)
    | taken hbest' _ hurl' =>
      obtain ⟨b, hstates, hbest''⟩ := hforth hbest
      rw [hurl, hurl', hbest'.unique hbest'', hstates.alike.url]

theorem Seats.result_eq (h : Seats as p) (h' : Seats bs p') (hlist : List.Forall₂ States as bs)
    (hundisplaced : Undisplaced as) : p'.result = p.result := by
  have hsame := h.sameButLocators h' hlist
  have hendpoints : p'.result.endpoints = p.result.endpoints :=
    EndpointMap.ext_get? hsame.services hsame.regions (h.get?_eq h' hlist hundisplaced)
  exact eq_of_parts hendpoints hsame.firstRegion

end Outcomes

/-- **What is resolved of candidates, with and without versions written in.** -/
inductive Compared (accepted : List Candidate) :
    Except Failure Resolution → Except Failure Resolution → Prop where
  | fails (failure : Failure) : Compared accepted (.error failure) (.error failure)
  | resolves {r r' : Resolution} (hsame : SameButLocators r r')
      (hequal : Undisplaced accepted → r' = r) : Compared accepted (.ok r) (.ok r')

theorem Compared.eq {accepted : List Candidate} {x y : Except Failure Resolution}
    (h : Compared accepted x y) (hundisplaced : Undisplaced accepted) : y = x := by
  cases h with
  | fails => rfl
  | resolves _ hequal => rw [hequal hundisplaced]

namespace Unstated

/-- A candidate with its version written in. -/
def stated (c : Candidate) : Candidate :=
  { c with version := some (c.version.getD (RawText.ofString "1.0")) }

theorem states_stated (cs : List Candidate) : List.Forall₂ States cs (cs.map stated) := by
  rw [List.forall₂_map_right_iff, List.forall₂_same]
  intro c _
  cases hc : c.version with
  | none =>
    rw [stated, hc]
    exact .stated hc
  | some version =>
    rw [stated, hc, Option.getD_some, ← hc]
    exact .same c

/-- An entry without version and region. -/
def regionless : List Candidate := [⟨"compute", none, "https://a.b.com", none⟩]

/-- An entry without a version in front of one of `1.0` in the same place. -/
def displaced : List Candidate :=
  [⟨"compute", Region.named "r1", "https://first.example", none⟩,
   ⟨"compute", Region.named "r1", "https://second.example", some "1.0"⟩]

/-- Entries of which the first has no version, and the second is above it. -/
def offers : List Candidate :=
  [⟨"compute", Region.named "r1", "https://first.example", none⟩,
   ⟨"compute", Region.named "r1", "https://second.example", some "1.1"⟩]

theorem undisplaced_offers : Undisplaced (RegionRule.usual.accepted offers) := by
  intro before c after b hsplit hbest _
  change offers = _ at hsplit
  match before, hsplit, hbest with
  | [], _, hbest => cases hbest.mem
  | [d], hsplit, hbest =>
    obtain ⟨rfl, hrest⟩ := List.cons.inj hsplit
    obtain ⟨rfl, -⟩ := List.cons.inj hrest
    rw [List.mem_singleton.1 hbest.mem]
    exact ⟨⟨1, 0⟩, ⟨1, 1⟩, rfl, rfl, .inr ⟨rfl, by decide⟩⟩
  | _ :: _ :: _, hsplit, _ => simp [offers] at hsplit

end Unstated

end Resolution

end CloudClient
