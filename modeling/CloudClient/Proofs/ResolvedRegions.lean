import CloudClient.Proofs.AccessDocument
import Mathlib.Data.List.Induction

/-!
# Which regions a resolution has

The home region of a session that chooses none is taken from the stream of
candidates, and the map of a resolution keeps only those that have won their
places. So the two might come apart: a home region without an entry would make
every later lookup fail, though nothing failed when the catalog was made.

They do not, because a place that has been given away once is never free
again. The regions of a service are those of its accepted candidates, in the
order in which they were first met, whichever candidate holds the place in the
end; and the first region of all is the first of some service.

That an accepted candidate has a region has one of two reasons (`Settled`): its
entry in the catalog names one, or it has none, and then the rule lets it be
inferred from the host, of an entry of the very version `1.0` at an operator
that does not speak through headers only. An ambiguous service is never
without a region. `RegionsResolved` gathers what follows for the map, and
`home_region_reached` says it of every resolution and of the catalog of every
document of access. How such a document becomes a catalog is taken apart once,
in `Identity.Becomes`.
-/

namespace CloudClient

/-! ## Keys in their order -/

section Keys

variable {κ : Type} [BEq κ]

/-- What is kept of a list has been in it. -/
theorem mem_of_mem_eraseDups {ks : List κ} {k : κ} (h : k ∈ ks.eraseDups) : k ∈ ks := by
  induction ks using List.reverseRecOn with
  | nil => exact absurd h List.not_mem_nil
  | append_singleton ks k' ih =>
    rw [OrderedMap.eraseDups_concat] at h
    split at h
    · exact List.mem_append_left _ (ih h)
    · exact List.mem_append.2 ((List.mem_append.1 h).imp_left ih)

/-- An element is kept if no equal one comes before it. -/
theorem mem_eraseDups_of_first {before : List κ} {k : κ} (h : ∀ k' ∈ before, (k == k') = false)
    (after : List κ) : k ∈ (before ++ k :: after).eraseDups := by
  induction after using List.reverseRecOn with
  | nil =>
    have hnew : ¬ before.eraseDups.any (k == ·) = true := by
      rw [Bool.not_eq_true, List.any_eq_false]
      intro k' hk'
      rw [h k' (mem_of_mem_eraseDups hk')]
      exact Bool.false_ne_true
    rw [OrderedMap.eraseDups_concat, if_neg hnew]
    exact List.mem_append_right _ List.mem_cons_self
  | append_singleton after k' ih =>
    rw [← List.cons_append, ← List.append_assoc, OrderedMap.eraseDups_concat]
    split
    · exact ih
    · exact List.mem_append_left _ ih

end Keys

/-! ## Regions of candidates -/

/-- A candidate has a version that can be read, a locator that can be taken
apart, and no region that cannot be a key. -/
structure Candidate.IsSound (c : Candidate) : Prop where
  dated : c.IsDated
  located : ∃ l, Locator.read c.url = .ok l
  keyed : Resolution.isKey c.region = true

namespace RegionRule

/-- **What settling makes of a candidate that it keeps**, and why. -/
inductive Settled (rule : RegionRule) (c : Candidate) : Candidate → Prop where
  | declared (hregion : c.region ≠ none) : Settled rule c c
  | inferred {name : String} (hregion : c.region = none)
      (hversion : c.version = some (RawText.ofString Version.defaultText))
      (hrule : rule.headerOnly = false) (hinfer : Region.infer c.url = .ok name) :
      Settled rule c { c with region := Region.named name }
  | without (hregion : c.region = none) (hambiguous : c.service ∉ rule.ambiguous) :
      Settled rule c c

variable {rule : RegionRule} {c settled : Candidate}

theorem settled_of_settle (h : rule.settle c = .ok (some settled)) : rule.Settled c settled := by
  unfold settle at h
  split at h
  · rename_i label hregion
    cases h
    refine .declared ?_
    rw [hregion]
    exact Option.some_ne_none label
  · rename_i hregion
    split at h
    · rename_i hold
      cases hinfer : Region.infer c.url with
      | error fault =>
        rw [hinfer] at h
        cases h
      | ok name =>
        rw [hinfer] at h
        cases h
        exact .inferred hregion hold.1 hold.2 hinfer
    · split at h
      · cases h
      · rename_i hambiguous
        cases h
        refine .without hregion fun hmem => hambiguous ?_
        rwa [List.contains_iff_mem]

/-- **An accepted candidate comes from one of the list**, with its region
settled. -/
theorem exists_settled_of_accepted {candidates : List Candidate}
    (h : settled ∈ rule.accepted candidates) : ∃ c ∈ candidates, rule.Settled c settled := by
  obtain ⟨c, hc, haccept⟩ := List.mem_filterMap.1 h
  refine ⟨c, hc, settled_of_settle ?_⟩
  unfold accept? at haccept
  split at haccept
  · cases hsettle : rule.settle c with
    | error fault =>
      rw [hsettle] at haccept
      cases haccept
    | ok settled? =>
      rw [hsettle] at haccept
      show Except.ok settled? = .ok (some settled)
      rw [show settled? = some settled from haccept]
  · cases haccept

/-- A candidate of an ambiguous service is not accepted without a region. -/
theorem Settled.region_ne_none (h : rule.Settled c settled)
    (hservice : settled.service ∈ rule.ambiguous) : settled.region ≠ none := by
  cases h with
  | declared hregion => exact hregion
  | inferred => exact Option.some_ne_none _
  | without _ hambiguous => exact absurd hservice hambiguous

end RegionRule

/-- **Where a region of a resolution comes from.** -/
inductive Region.Origin (rule : RegionRule) (candidates : List Candidate) : Region → Prop where
  /-- It is no region. -/
  | missing : Origin rule candidates none
  /-- A candidate is in it by its entry. -/
  | declared {c : Candidate} {label : Label} (hc : c ∈ candidates)
      (hregion : c.region = some label) : Origin rule candidates (some label)
  /-- It is inferred for a candidate of the very version `1.0` whose entry has
  none, where the operator does not speak through headers only. -/
  | inferred {c : Candidate} {name : String} (hc : c ∈ candidates) (hregion : c.region = none)
      (hversion : c.version = some (RawText.ofString "1.0")) (hrule : rule.headerOnly = false)
      (hinfer : Region.infer c.url = .ok name) : Origin rule candidates (Region.named name)

theorem RegionRule.Settled.origin {rule : RegionRule} {c settled : Candidate}
    {candidates : List Candidate} (h : rule.Settled c settled) (hc : c ∈ candidates) :
    Region.Origin rule candidates settled.region := by
  cases h with
  | declared hregion =>
    obtain ⟨label, hlabel⟩ := Option.ne_none_iff_exists'.1 hregion
    rw [hlabel]
    exact .declared hc hlabel
  | inferred hregion hversion hrule hinfer => exact .inferred hc hregion hversion hrule hinfer
  | without hregion =>
    rw [hregion]
    exact .missing

/-! ## Regions of a map -/

namespace EndpointMap

/-- No service of the map has a region. -/
def IsRegionless (m : EndpointMap) : Prop :=
  ∀ service, ∀ region ∈ (m.regionsOf service).keys, region = none

/-- A region of a service has an endpoint. -/
theorem exists_get?_of_mem_keys {m : EndpointMap} {service : RawText} {region : Region}
    (h : region ∈ (m.regionsOf service).keys) : ∃ url, m.get? service region = some url := by
  have hhas : (m.regionsOf service).has region = true := by
    rw [OrderedMap.has_eq_any_keys, List.any_eq_true]
    exact ⟨region, h, BEq.rfl⟩
  rw [← OrderedMap.isSome_find?] at hhas
  exact Option.isSome_iff_exists.1 hhas

end EndpointMap

namespace Resolution

/-- **The regions of a resolution.** -/
structure RegionsResolved (rule : RegionRule) (candidates : List Candidate)
    (resolution : Resolution) : Prop where
  /-- The first region is that of the first accepted candidate that has
  one. -/
  first : ∀ label, resolution.firstRegion = some label ↔ ∃ before c after,
    rule.accepted candidates = before ++ c :: after ∧ c.region = some label
      ∧ ∀ d ∈ before, d.region = none
  /-- There is none just if nothing in the map has a region. -/
  missing : resolution.firstRegion = none ↔ resolution.endpoints.IsRegionless
  /-- And otherwise it is a region of some service. -/
  present : resolution.firstRegion ≠ none →
    ∃ service, resolution.firstRegion ∈ (resolution.endpoints.regionsOf service).keys
  origin : ∀ service, ∀ region ∈ (resolution.endpoints.regionsOf service).keys,
    Region.Origin rule candidates region
  /-- An ambiguous service is in some region. -/
  unambiguous : ∀ service ∈ rule.ambiguous,
    none ∉ (resolution.endpoints.regionsOf service).keys

section Reflects

variable {done : List Candidate} {p : Progress}

/-- A region of a service is that of a candidate of the service. -/
theorem Reflects.exists_of_mem_keys (h : Reflects done p) {service : RawText} {region : Region}
    (hregion : region ∈ (p.result.endpoints.regionsOf service).keys) :
    ∃ c ∈ done, c.service = service ∧ c.region = region := by
  rw [h.regions] at hregion
  obtain ⟨c, hc, rfl⟩ := List.mem_map.1 (mem_of_mem_eraseDups hregion)
  obtain ⟨hc, hservice⟩ := List.mem_filter.1 hc
  exact ⟨c, hc, eq_of_beq hservice, rfl⟩

/-- **The first region is a region of the map.** Of the service of the first
candidate that has one, all earlier candidates have none, so nothing equal is
met before. -/
theorem Reflects.firstRegion_mem (h : Reflects done p) {label : Label}
    (hfirst : p.result.firstRegion = some label) :
    ∃ service, p.result.firstRegion ∈ (p.result.endpoints.regionsOf service).keys := by
  rw [h.home] at hfirst
  obtain ⟨before, c, after, hsplit, hregion, hbefore⟩ := List.findSome?_eq_some_iff.1 hfirst
  refine ⟨c.service, ?_⟩
  have hself : (c.service == c.service) = true := BEq.rfl
  rw [h.regions, h.home, hfirst, hsplit, List.filter_append, List.filter_cons, if_pos hself,
    List.map_append, List.map_cons, hregion]
  refine mem_eraseDups_of_first (fun region hmem => ?_) _
  obtain ⟨d, hd, rfl⟩ := List.mem_map.1 hmem
  rw [hbefore d (List.mem_filter.1 hd).1]
  rfl

end Reflects

/-- A resolution that has come to an end has its regions so. -/
theorem regionsResolved_of_resolve {rule : RegionRule} {candidates : List Candidate}
    {resolution : Resolution} (hstated : ∀ c ∈ candidates, c.version.isSome = true)
    (h : resolve rule candidates = .ok resolution) :
    RegionsResolved rule candidates resolution := by
  obtain ⟨failure, -, hfails⟩ | ⟨-, p, hrun, hreflects⟩ := resolve_cases rule hstated
  · rw [h] at hfails
    cases hfails
  · rw [h] at hrun
    obtain rfl := Except.ok.inj hrun
    have hpresent (hsome : p.result.firstRegion ≠ none) :
        ∃ service, p.result.firstRegion ∈ (p.result.endpoints.regionsOf service).keys := by
      obtain ⟨label, hlabel⟩ := Option.ne_none_iff_exists'.1 hsome
      exact hreflects.firstRegion_mem hlabel
    refine ⟨fun label => ?_, ⟨fun hnone service region hregion => ?_, fun hall => ?_⟩, hpresent,
      fun service region hregion => ?_, fun service hservice hnone => ?_⟩
    · rw [hreflects.home]
      exact List.findSome?_eq_some_iff
    · obtain ⟨c, hc, -, rfl⟩ := hreflects.exists_of_mem_keys hregion
      rw [hreflects.home] at hnone
      exact List.findSome?_eq_none_iff.1 hnone c hc
    · by_contra hsome
      obtain ⟨service, hmem⟩ := hpresent hsome
      exact hsome (hall service _ hmem)
    · obtain ⟨settled, hsettled, -, rfl⟩ := hreflects.exists_of_mem_keys hregion
      obtain ⟨c, hc, hsettles⟩ := RegionRule.exists_settled_of_accepted hsettled
      exact hsettles.origin hc
    · obtain ⟨settled, hsettled, rfl, hregion⟩ := hreflects.exists_of_mem_keys hnone
      obtain ⟨c, -, hsettles⟩ := RegionRule.exists_settled_of_accepted hsettled
      exact hsettles.region_ne_none hservice hregion

/-- Sound candidates are resolved. -/
theorem exists_resolve (rule : RegionRule) {candidates : List Candidate}
    (hsound : ∀ c ∈ candidates, c.IsSound) :
    ∃ resolution, resolve rule candidates = .ok resolution := by
  obtain ⟨failure, hfails, -⟩ | ⟨-, p, hrun, -⟩ :=
    resolve_cases rule fun c hc => (hsound c hc).dated.1
  · obtain ⟨c, hc, hrefused⟩ := hfails.exists_mem
    obtain ⟨⟨hstated, v, hread⟩, hlocated, hkeyed⟩ := hsound c hc
    obtain ⟨⟨-, fault, hunread⟩, -⟩ :=
      exists_badVersion_of_consider hstated hlocated hkeyed hrefused
    rw [hread] at hunread
    cases hunread
  · exact ⟨p.result, hrun⟩

end Resolution

/-! ## The home region of a catalog -/

namespace Catalog

/-- Some service is found under the home region itself. -/
def ReachesHome (c : Catalog) : Prop :=
  ∃ service url, c.endpoints.get? service c.homeRegion = some url
    ∧ c.serviceUrl service = .ok (some url)

/-- A catalog has the parts that it is made of. -/
theorem parts_of_make {token tenant : Json} {home : Region} {storage : Option Json}
    {endpoints : EndpointMap} {catalog : Catalog}
    (h : make token tenant home storage endpoints = .ok catalog) :
    catalog.authToken = token ∧ catalog.storageToken = storage.getD token
      ∧ catalog.tenant = tenant ∧ catalog.endpoints = endpoints ∧ catalog.homeRegion = home := by
  unfold make at h
  split at h
  · cases h
  · cases h
    exact ⟨rfl, rfl, rfl, rfl, rfl⟩

/-- A region of a service is found under itself. -/
theorem reachesHome_of_mem_keys {c : Catalog} {label : Label} {service : RawText}
    (hhome : c.homeRegion = some label)
    (h : c.homeRegion ∈ (c.endpoints.regionsOf service).keys) : c.ReachesHome := by
  obtain ⟨url, hurl⟩ := EndpointMap.exists_get?_of_mem_keys h
  refine ⟨service, url, hurl, ?_⟩
  have hfound : (c.regionsOf service).find? (some label) = some url := by
    rw [← hhome]
    exact hurl
  unfold serviceUrl lookup
  rw [hhome]
  simp only [hfound]

end Catalog

namespace Identity

/-- **How a document becomes a catalog**, part by part. -/
structure Becomes (s : Session) (answer : String) (catalog : Catalog)
    (token : List (RawText × Json)) (services : List Json) (candidates : List Candidate)
    (p : Resolution.Progress) : Prop where
  read : ∃ v access, Json.read answer = .ok v ∧ accessPart v = .ok access
    ∧ tokenPart access = .ok token ∧ servicesPart access = .ok services
  tenant : tenantPart s.account token = .ok catalog.tenant
  gathered : gather candidatesOf services = .ok candidates
  resolved : Resolution.resolve (regionRule s) candidates = .ok p.result
  reflects : Resolution.Reflects ((regionRule s).accepted candidates) p
  endpoints : catalog.endpoints = p.result.endpoints
  home : catalog.homeRegion = s.chosenRegion.or p.result.firstRegion
  authToken : catalog.authToken = field token "id"
  storageToken : catalog.storageToken = field token "id"

/-- Every catalog of a document becomes one so. -/
theorem exists_becomes {s : Session} {answer : String} {catalog : Catalog}
    (h : catalogOf s answer = .ok catalog) :
    ∃ token services candidates p,
      Becomes s answer catalog token services candidates p := by
  unfold catalogOf at h
  obtain ⟨-, hread⟩ | ⟨f, -, hread⟩ | ⟨services, hlisted⟩ := listed_or_failed s.account answer
  · rw [hread] at h
    cases h
  · rw [hread] at h
    cases h
  · cases hlisted with
    | @intro v tenant access token hread haccess htoken htenant hservices =>
      simp only [Grant.read, document, hread, haccess, Grant.ofAccess, htoken, htenant,
        hservices] at h
      cases hgathered : gather candidatesOf services with
      | error failure =>
        rw [hgathered] at h
        cases h
      | ok candidates =>
        rw [hgathered] at h
        change Grant.toCatalog s ⟨field token "id", tenant, candidates⟩ = .ok catalog at h
        unfold Grant.toCatalog at h
        obtain ⟨failure, -, hresolve⟩ | ⟨-, p, hresolve, hreflects⟩ :=
          Resolution.resolve_cases (regionRule s)
            (forall_of_gather (fun _ _ => isSome_of_served) hgathered)
        · rw [hresolve] at h
          cases h
        · rw [hresolve] at h
          simp only at h
          split at h
          · cases h
          · rename_i made hmake
            cases h
            obtain ⟨hauth, hstorage, rfl, hendpoints, hhome⟩ := Catalog.parts_of_make hmake
            exact ⟨token, services, candidates, p, ⟨v, access, hread, haccess, htoken, hservices⟩,
              htenant, hgathered, hresolve, hreflects, hendpoints, hhome, hauth, hstorage⟩

/-- The endpoints of the catalog of a document of access are those of a
resolution, and its home region is the first of that unless one is chosen. -/
theorem exists_resolve_of_catalogOf {s : Session} {answer : String} {catalog : Catalog}
    (h : catalogOf s answer = .ok catalog) :
    ∃ candidates resolution, (∀ c ∈ candidates, c.version.isSome = true)
      ∧ Resolution.resolve (regionRule s) candidates = .ok resolution
      ∧ catalog.endpoints = resolution.endpoints
      ∧ catalog.homeRegion = s.chosenRegion.or resolution.firstRegion := by
  obtain ⟨token, services, candidates, p, hbecomes⟩ := exists_becomes h
  exact ⟨candidates, p.result, forall_of_gather (fun _ _ => isSome_of_served) hbecomes.gathered,
    hbecomes.resolved, hbecomes.endpoints, hbecomes.home⟩

end Identity

/-! ## Altogether -/

/-- **A home region is one that is there.** Candidates whose versions can be
read, whose locators can be taken apart and whose regions are keys are
resolved, under any rule, and the regions are as described. A catalog that is
made of a document of access for a session that chooses no region has no home
region just if nothing in it has a region; and else some service is found
under the home region itself. -/
theorem home_region_reached :
    (∀ (rule : RegionRule) (candidates : List Candidate), (∀ c ∈ candidates, c.IsSound) →
        ∃ resolution, Resolution.resolve rule candidates = .ok resolution
          ∧ Resolution.RegionsResolved rule candidates resolution)
      ∧ ∀ (s : Session) (answer : String) (catalog : Catalog), s.chosenRegion = none →
        Identity.catalogOf s answer = .ok catalog →
          (catalog.homeRegion = none ↔ catalog.endpoints.IsRegionless)
            ∧ (catalog.homeRegion ≠ none → catalog.ReachesHome) := by
  constructor
  · intro rule candidates hsound
    obtain ⟨resolution, hresolve⟩ := Resolution.exists_resolve rule hsound
    exact ⟨resolution, hresolve,
      Resolution.regionsResolved_of_resolve (fun c hc => (hsound c hc).dated.1) hresolve⟩
  · intro s answer catalog hchosen hcatalog
    obtain ⟨candidates, resolution, hstated, hresolve, hendpoints, hhome⟩ :=
      Identity.exists_resolve_of_catalogOf hcatalog
    have hregions := Resolution.regionsResolved_of_resolve hstated hresolve
    rw [hchosen, Option.none_or] at hhome
    rw [hendpoints, hhome]
    refine ⟨hregions.missing, fun hsome => ?_⟩
    obtain ⟨service, hmem⟩ := hregions.present hsome
    obtain ⟨label, hlabel⟩ := Option.ne_none_iff_exists'.1 hsome
    rw [← hendpoints, ← hhome] at hmem
    exact Catalog.reachesHome_of_mem_keys (hhome.trans hlabel) hmem

namespace Regionless

/-- Offers most of which name no region: an image service keeps none, an entry
of compute is left out and another gets the region of its host, and an entry
that names that region takes its place. -/
def offers : List Candidate :=
  [⟨"image", none, "http://one", some "2.0"⟩,
   ⟨"compute", none, "http://two", some "2.0"⟩,
   ⟨"compute", none, "http://b.three.example/v1.0", some "1.0"⟩,
   ⟨"compute", Region.named "b", "http://four/v2", some "2.0"⟩]

/-- A session that chooses no region. -/
def session : Session where
  endpoint := "https://regions"
  account := "demo"
  endpoint_not_blank := by decide

/-- A document of access with two of these offers. -/
def answer : String :=
  "\x7b\"access\":\x7b\"token\":\x7b\"id\":\"t\"\x7d,\"serviceCatalog\":["
    ++ "\x7b\"type\":\"image\",\"endpoints\":[\x7b\"url\":\"http://one\",\"versionId\":\"2.0\"\x7d]\x7d,"
    ++ "\x7b\"type\":\"compute\",\"endpoints\":[\x7b\"url\":\"http://b.three.example/v1.0\"\x7d]\x7d]\x7d\x7d"

/-- The image service is met first and has no region, and the home region is
that of the next, though its entry does not stay. -/
theorem home_region_reached_regionless :
    (∃ resolution, Resolution.resolve .usual offers = .ok resolution
        ∧ Resolution.RegionsResolved .usual offers resolution
        ∧ resolution.firstRegion = Region.named "b"
        ∧ resolution.endpoints.get? "compute" (Region.named "b") = some "http://four/v2")
      ∧ ∃ catalog, session.chosenRegion = none ∧ Identity.catalogOf session answer = .ok catalog
        ∧ catalog.homeRegion ≠ none ∧ catalog.ReachesHome := by
  constructor
  · have hsound : ∀ c ∈ offers, c.IsSound := by
      simp only [offers, List.forall_mem_cons]
      exact ⟨⟨⟨rfl, _, rfl⟩, ⟨_, rfl⟩, rfl⟩, ⟨⟨rfl, _, rfl⟩, ⟨_, rfl⟩, rfl⟩,
        ⟨⟨rfl, _, rfl⟩, ⟨_, rfl⟩, rfl⟩, ⟨⟨rfl, _, rfl⟩, ⟨_, rfl⟩, rfl⟩, nofun⟩
    obtain ⟨resolution, hresolve, hregions⟩ := home_region_reached.1 .usual offers hsound
    have hfirst : (Resolution.resolve .usual offers).map Resolution.firstRegion
      = .ok (Region.named "b") := rfl
    have hurl : (Resolution.resolve .usual offers).map
        (·.endpoints.get? "compute" (Region.named "b")) = .ok (some "http://four/v2") := rfl
    rw [hresolve] at hfirst hurl
    exact ⟨resolution, hresolve, hregions, Except.ok.inj hfirst, Except.ok.inj hurl⟩
  · have hhome : ((Identity.catalogOf session answer).toOption.any fun catalog =>
        catalog.homeRegion.isSome) = true := by decide +kernel
    cases hcatalog : Identity.catalogOf session answer with
    | error failure =>
      rw [hcatalog] at hhome
      cases hhome
    | ok catalog =>
      rw [hcatalog] at hhome
      have hsome : catalog.homeRegion ≠ none := Option.isSome_iff_ne_none.1 hhome
      exact ⟨catalog, rfl, rfl, hsome,
        (home_region_reached.2 session answer catalog rfl hcatalog).2 hsome⟩

end Regionless

end CloudClient
