import CloudClient.Proofs.HomeRegion
import CloudClient.Proofs.ResolvedRegions

/-!
# The shapes of a catalog

The parts of a catalog come from a document in which a field may hold
anything, and each takes its own way. The type of a service and a locator have
to be texts, and so the document is refused if they are not. The token, the
tenant and the region of an endpoint only have to be present: whatever is there
goes into the catalog. It is then met far from the document, in a lookup that
has to compare regions, or where the token becomes a header.

A document that has such a value is a `Misfit`, and there is a constructor for
each of the three fields. A region counts only where the endpoint does: one of
a version that the library does not speak leaves no trace. This module proves
that the three are all there are. A catalog of a document is always *filled*,
and it is *well typed* just if the document is no misfit.

To say so of a document and not of what it has become, an endpoint is followed
on its way: `Offers` relates a service of the document with the candidates that
its endpoints are, and `mem_iff_offers` says that these are all.
-/

namespace CloudClient

namespace Json

/-- Whether a value is a text. -/
def isText : Json → Bool
  | .str _ => true
  | _ => false

/-- A value is a text, and there is something in it. -/
def IsPresentText (v : Json) : Prop := ∃ t : RawText, v = .str t ∧ t.isEmpty = false

theorem isPresentText_iff {v : Json} :
    v.IsPresentText ↔ v.truthy = true ∧ v.isText = true := by
  constructor
  · rintro ⟨t, rfl, ht⟩
    exact ⟨by rw [truthy, ht]; rfl, rfl⟩
  · rintro ⟨hthere, htext⟩
    cases v with
    | str t => exact ⟨t, rfl, (Bool.not_eq_true' _).mp hthere⟩
    | _ => cases htext

theorem truthy_orElse (a b : Json) : (a.orElse b).truthy = (a.truthy || b.truthy) := by
  unfold orElse
  cases h : a.truthy <;> simp [h]

end Json

namespace Catalog

/-- **A catalog without gaps**: nothing in it is empty, and a single token is
for all services. -/
structure IsFilled (c : Catalog) : Prop where
  token : c.authToken.truthy = true
  storage : c.storageToken = c.authToken
  tenant : c.tenant.truthy = true
  service : ∀ service ∈ c.endpoints.keys, service.isEmpty = false
  url : ∀ {service region url}, c.Stores service region url → url ≠ ""

/-- **A catalog all of whose parts are texts** where they are not missing, and
of which nothing is empty. -/
structure IsWellTyped (c : Catalog) : Prop where
  token : c.authToken.IsPresentText
  storage : c.storageToken.IsPresentText
  tenant : c.tenant.IsPresentText
  regions : c.HasPlainRegions
  service : ∀ service ∈ c.endpoints.keys, service.isEmpty = false
  url : ∀ {service region url}, c.Stores service region url → url ≠ ""

/-- A filled catalog is well typed just if its token, its tenant and its
regions are. -/
theorem IsFilled.isWellTyped_iff {c : Catalog} (h : c.IsFilled) :
    c.IsWellTyped
      ↔ c.authToken.isText = true ∧ c.tenant.isText = true ∧ c.HasPlainRegions := by
  constructor
  · intro htyped
    exact ⟨(Json.isPresentText_iff.1 htyped.token).2, (Json.isPresentText_iff.1 htyped.tenant).2,
      htyped.regions⟩
  · rintro ⟨htoken, htenant, hregions⟩
    have hpresent := Json.isPresentText_iff.2 ⟨h.token, htoken⟩
    exact ⟨hpresent, h.storage ▸ hpresent, Json.isPresentText_iff.2 ⟨h.tenant, htenant⟩, hregions,
      h.service, h.url⟩

/-- **What a well-typed catalog is good for**: every service can be looked up,
and what it is called with is a text. -/
theorem IsWellTyped.isUsable {c : Catalog} (h : c.IsWellTyped) (service : RawText) :
    (∃ url?, c.serviceUrl service = .ok url?) ∧ (c.tokenFor service).IsPresentText := by
  obtain ⟨url?, hurl, -⟩ := lookup_serviceUrl h.regions service
  refine ⟨⟨url?, hurl⟩, ?_⟩
  unfold tokenFor Json.orElse
  rw [if_pos (Json.isPresentText_iff.1 h.storage).1]
  split
  · exact h.storage
  · exact h.token

end Catalog

/-! ## Endpoints on their way -/

/-- Some text is left of a text with a repair. -/
theorem RawText.repaired_ne_empty {t : RawText} (h : t.isEmpty = false) : t.repaired ≠ "" := by
  intro hempty
  have hnil : t.points.map CodePoint.repaired = [] := String.ofList_eq_empty_iff.1 hempty
  rw [isEmpty, List.map_eq_nil_iff.1 hnil] at h
  cases h

namespace Identity

section Gather

variable {α β ε : Type} {f : α → Except ε (List β)} {as : List α}

/-- What is gathered is what the elements give, each by itself. -/
theorem mem_iff_of_gather {P : α → β → Prop}
    (hf : ∀ a found, f a = .ok found → ∀ b, b ∈ found ↔ P a b) {bs : List β}
    (h : gather f as = .ok bs) {b : β} : b ∈ bs ↔ ∃ a ∈ as, P a b := by
  induction as generalizing bs with
  | nil =>
    cases h
    simp
  | cons a more ih =>
    rw [gather] at h
    cases ha : f a with
    | error e => rw [ha] at h; cases h
    | ok found =>
      rw [ha] at h
      cases hmore : gather f more with
      | error e => rw [hmore] at h; cases h
      | ok rest =>
        rw [hmore] at h
        cases h
        rw [List.mem_append, ih hmore, hf a found ha b]
        simp

end Gather

/-- **An endpoint of a document is a candidate** of a service of the given
type. -/
inductive IsOffer (kind : RawText) : Json → Candidate → Prop where
  | intro {entry : List (RawText × Json)} {url version : RawText}
      (hurl : (field entry "publicURL").orElse (field entry "url") = .str url)
      (hlocated : url.isEmpty = false)
      (hversion : versionOf (field entry "versionId") url.repaired = .ok version) :
      IsOffer kind (.obj entry)
        ⟨kind, Label.ofJson? (field entry "region"), url.repaired, some version⟩

/-- **A service of a document offers a candidate**: it has a type, and one of
its endpoints is the candidate. -/
inductive Offers (service : Json) (c : Candidate) : Prop where
  | intro {members : List (RawText × Json)} {kind : RawText} {entries : List Json} {entry : Json}
      (hservice : service = .obj members) (hkind : field members "type" = .str kind)
      (hpresent : kind.isEmpty = false)
      (hentries : (field members "endpoints").orElse (.arr []) = .arr entries)
      (hentry : entry ∈ entries) (h : IsOffer kind entry c)

theorem mem_candidates_iff {kind : RawText} (entry : Json) (cs : List Candidate)
    (h : candidates kind entry = .ok cs) (c : Candidate) : c ∈ cs ↔ IsOffer kind entry c := by
  unfold candidates at h
  split at h
  · cases h
  · rename_i members hshape
    obtain rfl := eq_obj_of_object hshape
    simp only at h
    split at h
    · rename_i hthere
      split at h
      · cases h
      · rename_i url hshape
        have hurl := eq_str_of_text hshape
        rw [hurl] at hthere
        split at h
        · cases h
        · rename_i version hversion
          cases h
          rw [List.mem_singleton]
          constructor
          · rintro rfl
            exact .intro hurl ((Bool.not_eq_true' _).mp hthere) hversion
          · intro hoffer
            cases hoffer with
            | intro hurl' _ hversion' =>
              cases hurl.symm.trans hurl'
              cases hversion.symm.trans hversion'
              rfl
    · rename_i hmissing
      cases h
      refine iff_of_false List.not_mem_nil fun hoffer => ?_
      cases hoffer with
      | intro hurl hlocated =>
        rw [hurl, Json.truthy, hlocated] at hmissing
        exact hmissing rfl

/-- A service with a type is gone through endpoint by endpoint. -/
theorem mem_serviceCandidates_iff {members : List (RawText × Json)} {kind : RawText}
    {cs : List Candidate} (hkind : field members "type" = .str kind)
    (hpresent : kind.isEmpty = false) (h : serviceCandidates members kind = .ok cs)
    (c : Candidate) : c ∈ cs ↔ Offers (.obj members) c := by
  unfold serviceCandidates at h
  split at h
  · cases h
  · rename_i entries hshape
    have hentries := eq_arr_of_array hshape
    rw [mem_iff_of_gather mem_candidates_iff h]
    constructor
    · rintro ⟨entry, hentry, hoffer⟩
      exact .intro rfl hkind hpresent hentries hentry hoffer
    · intro hoffers
      cases hoffers with
      | intro hservice hkind' _ hentries' hentry hoffer =>
        cases hservice
        cases hkind.symm.trans hkind'
        cases hentries.symm.trans hentries'
        exact ⟨_, hentry, hoffer⟩

theorem mem_candidatesOf_iff (service : Json) (cs : List Candidate)
    (h : candidatesOf service = .ok cs) (c : Candidate) : c ∈ cs ↔ Offers service c := by
  unfold candidatesOf at h
  split at h
  · cases h
  · rename_i members hshape
    obtain rfl := eq_obj_of_object hshape
    simp only at h
    split at h
    · rename_i hthere
      split at h
      · cases h
      · rename_i kind hshape
        have hkind := eq_str_of_text hshape
        rw [hkind] at hthere
        exact mem_serviceCandidates_iff hkind ((Bool.not_eq_true' _).mp hthere) h c
    · rename_i hmissing
      cases h
      refine iff_of_false List.not_mem_nil fun hoffers => ?_
      cases hoffers with
      | intro hservice hkind hpresent =>
        cases hservice
        rw [hkind, Json.truthy, hpresent] at hmissing
        exact hmissing rfl

/-- **What is gathered from the services is what they offer.** -/
theorem mem_iff_offers {services : List Json} {cs : List Candidate}
    (h : gather candidatesOf services = .ok cs) {c : Candidate} :
    c ∈ cs ↔ ∃ service ∈ services, Offers service c :=
  mem_iff_of_gather mem_candidatesOf_iff h

theorem Offers.service_present {service : Json} {c : Candidate} (h : Offers service c) :
    c.service.isEmpty = false := by
  cases h with
  | intro _ _ hpresent _ _ hoffer =>
    cases hoffer
    exact hpresent

theorem Offers.url_ne_empty {service : Json} {c : Candidate} (h : Offers service c) :
    c.url ≠ "" := by
  cases h with
  | intro _ _ _ _ _ hoffer =>
    cases hoffer with
    | intro _ hlocated => exact RawText.repaired_ne_empty hlocated

end Identity

/-! ## The regions of a resolution -/

/-- A candidate counts if the library speaks its version. -/
def Candidate.Counts (c : Candidate) : Prop :=
  ∃ version, Version.read c.version = .ok version ∧ version.isSupported = true

namespace RegionRule

variable {rule : RegionRule} {candidates : List Candidate}

theorem accept?_eq_some_iff {c settled : Candidate} :
    rule.accept? c = some settled
      ↔ c.url ≠ "" ∧ c.Counts ∧ rule.settle c = .ok (some settled) := by
  have hcounts : (Version.read c.version).toOption.any Version.isSupported = true ↔ c.Counts := by
    unfold Candidate.Counts
    cases Version.read c.version <;> simp [Except.toOption]
  have hsettle : (rule.settle c).toOption.join = some settled
      ↔ rule.settle c = .ok (some settled) := by
    cases rule.settle c <;> simp [Except.toOption]
  unfold accept?
  split
  · rename_i h
    rw [hsettle]
    exact ⟨fun hs => ⟨h.1, hcounts.1 h.2, hs⟩, fun hs => hs.2.2⟩
  · rename_i h
    exact iff_of_false (Option.some_ne_none settled).symm fun hs => h ⟨hs.1, hcounts.2 hs.2.1⟩

/-- **A region that is neither a text nor missing comes from a candidate that
counts**, and from there it is accepted as it is. -/
theorem exists_accepted_iff (hlocated : ∀ c ∈ candidates, c.url ≠ "") :
    (∃ c ∈ rule.accepted candidates, c.region.isPlain = false)
      ↔ ∃ c ∈ candidates, c.Counts ∧ c.region.isPlain = false := by
  constructor
  · rintro ⟨settled, hmem, hregion⟩
    obtain ⟨c, hc, haccept⟩ := List.mem_filterMap.1 hmem
    obtain ⟨-, hcounts, hsettle⟩ := accept?_eq_some_iff.1 haccept
    cases settled_of_settle hsettle with
    | declared => exact ⟨_, hc, hcounts, hregion⟩
    | inferred => cases hregion
    | without hnone => rw [hnone] at hregion; cases hregion
  · rintro ⟨c, hc, hcounts, hregion⟩
    refine ⟨c, List.mem_filterMap.2 ⟨c, hc, ?_⟩, hregion⟩
    refine accept?_eq_some_iff.2 ⟨hlocated c hc, hcounts, ?_⟩
    unfold settle
    split
    · rfl
    · rename_i hnone
      rw [hnone] at hregion
      cases hregion

end RegionRule

/-- The regions of a map are plain just if those of the candidates are that
have been accepted for it: of equal ones only the first is kept, but a text
is equal to nothing else. -/
theorem Resolution.Reflects.isPlain_iff {done : List Candidate} {p : Progress}
    (h : Reflects done p) :
    (∀ service, ∀ region ∈ (p.result.endpoints.regionsOf service).keys, region.isPlain = true)
      ↔ ∀ c ∈ done, c.region.isPlain = true := by
  constructor
  · intro hplain c hc
    cases h.holds (Resolution.place c) with
    | free hnone => exact absurd BEq.rfl (hnone c hc)
    | taken _ _ hurl =>
      obtain ⟨region, hmem, hsame⟩ := (Entries.find?_eq_some_iff
        (p.result.endpoints.regionsOf c.service).distinct).1 hurl
      have hregion := hplain c.service region (List.mem_map_of_mem hmem)
      rw [show c.region = region from Region.eq_of_isPlain_of_beq hregion hsame]
      exact hregion
  · intro hplain service region hregion
    obtain ⟨c, hc, -, rfl⟩ := h.exists_of_mem_keys hregion
    exact hplain c hc

theorem Session.isPlain_chosenRegion (s : Session) : s.chosenRegion.isPlain = true := by
  unfold chosenRegion
  split
  · rfl
  · split <;> rfl

namespace Identity

/-! ## Misfits -/

/-- **A document with a value that is no text where nothing else will do.** -/
inductive Misfit (s : Session) (answer : String) : Prop where
  /-- It is the token, -/
  | token {v : Json} {access token : List (RawText × Json)} (hread : Json.read answer = .ok v)
      (haccess : accessPart v = .ok access) (htoken : tokenPart access = .ok token)
      (h : (field token "id").isText = false)
  /-- or what names the tenant, -/
  | tenant {v tenant : Json} {access token : List (RawText × Json)}
      (hread : Json.read answer = .ok v) (haccess : accessPart v = .ok access)
      (htoken : tokenPart access = .ok token) (htenant : tenantPart s.account token = .ok tenant)
      (h : tenant.isText = false)
  /-- or the region of an endpoint that counts. -/
  | region {services : List Json} {service : Json} {c : Candidate}
      (hlisted : Listed s.account answer services) (hservice : service ∈ services)
      (hoffers : Offers service c) (hcounts : c.Counts)
      (h : c.region.isPlain = false)

section Becomes

variable {s : Session} {answer : String} {catalog : Catalog} {token : List (RawText × Json)}
  {services : List Json} {candidates : List Candidate} {p : Resolution.Progress}

theorem truthy_of_tokenPart {access : List (RawText × Json)} (h : tokenPart access = .ok token) :
    (field token "id").truthy = true := by
  unfold tokenPart at h
  split at h
  · cases h
  · split at h
    · rename_i hthere
      cases h
      exact hthere
    · cases h

/-- Who acts for an account acts for some tenant. -/
theorem truthy_of_tenantPart {account : String} {tenant : Json} (haccount : account ≠ "")
    (h : tenantPart account token = .ok tenant) : tenant.truthy = true := by
  have hthere : (Json.str (RawText.ofString account)).truthy = true := by
    simp [Json.truthy, haccount]
  unfold tenantPart at h
  split at h
  · cases h
  · cases h
    rw [Json.truthy_orElse, Json.truthy_orElse, hthere, Bool.or_true, Bool.or_true]

theorem Becomes.listed (h : Becomes s answer catalog token services candidates p) :
    Listed s.account answer services := by
  obtain ⟨v, access, hread, haccess, htoken, hservices⟩ := h.read
  exact .intro hread haccess htoken h.tenant hservices

theorem Listed.unique {account : String} {services' : List Json}
    (h : Listed account answer services) (h' : Listed account answer services') :
    services = services' := by
  cases h with
  | intro hread haccess htoken htenant hservices =>
    cases h' with
    | intro hread' haccess' htoken' htenant' hservices' =>
      cases hread.symm.trans hread'
      cases haccess.symm.trans haccess'
      exact Except.ok.inj (hservices.symm.trans hservices')

/-- An accepted candidate is of the service that it has been offered for. -/
theorem Becomes.service_present (h : Becomes s answer catalog token services candidates p) :
    ∀ service ∈ catalog.endpoints.keys, service.isEmpty = false := by
  intro service hservice
  rw [h.endpoints, h.reflects.services] at hservice
  obtain ⟨settled, hsettled, rfl⟩ := List.mem_map.1 (mem_of_mem_eraseDups hservice)
  obtain ⟨c, hc, haccept⟩ := List.mem_filterMap.1 hsettled
  obtain ⟨hsame, -⟩ :=
    RegionRule.settle_eq_some (RegionRule.accept?_eq_some_iff.1 haccept).2.2
  obtain ⟨_, -, hoffers⟩ := (mem_iff_offers h.gathered).1 hc
  rw [hsame]
  exact hoffers.service_present

theorem Becomes.isFilled (h : Becomes s answer catalog token services candidates p)
    (haccount : s.account ≠ "") : catalog.IsFilled where
  token := by
    obtain ⟨_, _, -, -, htoken, -⟩ := h.read
    rw [h.authToken]
    exact truthy_of_tokenPart htoken
  storage := h.storageToken.trans h.authToken.symm
  tenant := truthy_of_tenantPart haccount h.tenant
  service := h.service_present
  url := Catalog.Stores.ne_empty

/-- The regions of the catalog are plain unless an endpoint that counts is in
one that is not. -/
theorem Becomes.hasPlainRegions_iff (h : Becomes s answer catalog token services candidates p) :
    catalog.HasPlainRegions
      ↔ ∀ c ∈ (regionRule s).accepted candidates, c.region.isPlain = true := by
  have hstored (service : RawText) (region : Region) :
      region ∈ (p.result.endpoints.regionsOf service).keys
        ↔ ∃ url, catalog.Stores service region url := by
    simp only [Catalog.stores_iff, Catalog.regionsOf, h.endpoints, OrderedMap.keys, List.mem_map,
      Prod.exists, exists_and_right, exists_eq_right]
  rw [← h.reflects.isPlain_iff]
  constructor
  · intro hplain service region hregion
    obtain ⟨url, hurl⟩ := (hstored service region).1 hregion
    exact hplain.stored hurl
  · intro hplain
    refine ⟨?_, fun {service region url} hurl =>
      hplain service region ((hstored service region).2 ⟨url, hurl⟩)⟩
    -- the home region is chosen, and then it is a text, or it is one of the map
    rw [h.home]
    cases hchosen : s.chosenRegion with
    | some label =>
      have hlabel := s.isPlain_chosenRegion
      rw [hchosen] at hlabel
      exact hlabel
    | none =>
      cases hfirst : p.result.firstRegion with
      | none => rfl
      | some label =>
        obtain ⟨service, hmem⟩ := h.reflects.firstRegion_mem hfirst
        rw [hfirst] at hmem
        exact hplain service _ hmem

/-- **A document is a misfit** just if its token, its tenant or a region of its
catalog is no text. -/
theorem Becomes.misfit_iff (h : Becomes s answer catalog token services candidates p) :
    Misfit s answer
      ↔ catalog.authToken.isText = false ∨ catalog.tenant.isText = false
        ∨ ¬ catalog.HasPlainRegions := by
  have hurls : ∀ c ∈ candidates, c.url ≠ "" := fun c hc =>
    let ⟨_, _, hoffers⟩ := (mem_iff_offers h.gathered).1 hc
    hoffers.url_ne_empty
  have hregions : ¬ catalog.HasPlainRegions
      ↔ ∃ c ∈ candidates, c.Counts ∧ c.region.isPlain = false := by
    rw [h.hasPlainRegions_iff, ← (regionRule s).exists_accepted_iff hurls]
    simp
  obtain ⟨v, access, hread, haccess, htoken, hservices⟩ := h.read
  rw [hregions, h.authToken]
  constructor
  · -- a document is read in one way only, so what a misfit names is a part of the catalog
    intro hmisfit
    cases hmisfit with
    | token hread' haccess' htoken' hid =>
      cases hread.symm.trans hread'
      cases haccess.symm.trans haccess'
      cases htoken.symm.trans htoken'
      exact .inl hid
    | tenant hread' haccess' htoken' htenant' hid =>
      cases hread.symm.trans hread'
      cases haccess.symm.trans haccess'
      cases htoken.symm.trans htoken'
      rw [← Except.ok.inj (h.tenant.symm.trans htenant')] at hid
      exact .inr (.inl hid)
    | @region services' service c hlisted hservice hoffers hcounts hregion =>
      cases h.listed.unique hlisted
      exact .inr (.inr ⟨c, (mem_iff_offers h.gathered).2 ⟨service, hservice, hoffers⟩, hcounts,
        hregion⟩)
  · rintro (hid | hid | ⟨c, hc, hcounts, hregion⟩)
    · exact .token hread haccess htoken hid
    · exact .tenant hread haccess htoken h.tenant hid
    · obtain ⟨service, hservice, hoffers⟩ := (mem_iff_offers h.gathered).1 hc
      exact .region h.listed hservice hoffers hcounts hregion

end Becomes

/-- **The catalog of a document is well typed unless the document is a misfit.**
Whoever has an account and whatever the identity service answers: a catalog
that comes of it has a token, which is that of the object store too, a tenant,
and types and locators of services, none of them empty. That the token, the
tenant and the regions are texts is not checked, and it is all that may be
amiss. If they are, every service can be looked up and is called with a
text. -/
theorem well_typed_unless_misfit (s : Session) (haccount : s.account ≠ "") (answer : String)
    (catalog : Catalog) (h : catalogOf s answer = .ok catalog) :
    catalog.IsFilled ∧
    (catalog.IsWellTyped ↔ ¬ Misfit s answer) ∧
    (catalog.IsWellTyped → ∀ service, (∃ url?, catalog.serviceUrl service = .ok url?)
      ∧ (catalog.tokenFor service).IsPresentText) := by
  obtain ⟨token, services, candidates, p, hbecomes⟩ := exists_becomes h
  have hfilled := hbecomes.isFilled haccount
  refine ⟨hfilled, ?_, Catalog.IsWellTyped.isUsable⟩
  rw [hfilled.isWellTyped_iff, hbecomes.misfit_iff]
  simp

end Identity

/-! ## Three misfits -/

namespace Unshapely

open Identity

/-- A session that chooses a region. -/
def session : Session where
  region := some "east"
  endpoint := "https://identity.example/v2.0"
  account := "demo"
  endpoint_not_blank := by decide

/-- A document of access whose token has the given members, with the given
services. -/
def document (token services : String) : String :=
  "\x7b\"access\":\x7b\"token\":\x7b" ++ token ++ "\x7d,\"serviceCatalog\":[" ++ services
    ++ "]\x7d\x7d"

/-- The token is a number, -/
def numberedToken : String := document "\"id\":5" ""

/-- or the tenant is an array, -/
def listedTenant : String := document "\"id\":\"t\",\"tenant\":\x7b\"id\":[\"a\"]\x7d" ""

/-- or the region of an endpoint is a number. -/
def numberedRegion : String :=
  document "\"id\":\"t\"" ("\x7b\"type\":\"compute\",\"endpoints\":[\x7b\"region\":5,"
    ++ "\"publicURL\":\"https://compute.example/v2\"\x7d]\x7d")

theorem exists_of_any {s : Session} {answer : String} {p : Catalog → Bool}
    (h : (catalogOf s answer).toOption.any p = true) :
    ∃ catalog, catalogOf s answer = .ok catalog ∧ p catalog = true := by
  cases hcatalog : catalogOf s answer with
  | error failure =>
    rw [hcatalog] at h
    cases h
  | ok catalog =>
    rw [hcatalog] at h
    exact ⟨catalog, rfl, h⟩

/-- Whether a lookup ends in the defect that a region is no text. -/
def stumbles (c : Catalog) (service : RawText) : Bool :=
  match c.serviceUrl service with
  | .error .regionNoText => true
  | _ => false

theorem any_numberedToken :
    ((catalogOf session numberedToken).toOption.any fun c => !c.authToken.isText) = true := by
  decide +kernel

theorem any_listedTenant :
    ((catalogOf session listedTenant).toOption.any fun c => !c.tenant.isText) = true := by
  decide +kernel

theorem any_numberedRegion :
    ((catalogOf session numberedRegion).toOption.any fun c => stumbles c "compute") = true := by
  decide +kernel

/-- **Three misfits become catalogs**: with a token that cannot be a header,
with a tenant that is an array, and with a region that a lookup stumbles
over. -/
theorem misfits_become_catalogs :
    session.account ≠ "" ∧
    (∃ catalog, catalogOf session numberedToken = .ok catalog
      ∧ ¬ catalog.authToken.IsPresentText) ∧
    (∃ catalog, catalogOf session listedTenant = .ok catalog ∧ ¬ catalog.tenant.IsPresentText) ∧
    ∃ catalog, catalogOf session numberedRegion = .ok catalog
      ∧ catalog.serviceUrl "compute" = .error .regionNoText := by
  have hno {v : Json} (h : (!v.isText) = true) : ¬ v.IsPresentText := fun htext => by
    rw [(Json.isPresentText_iff.1 htext).2] at h
    cases h
  obtain ⟨numbered, hnumbered, htoken⟩ := exists_of_any any_numberedToken
  obtain ⟨listed, hlisted, htenant⟩ := exists_of_any any_listedTenant
  obtain ⟨placed, hplaced, hstumbles⟩ := exists_of_any any_numberedRegion
  refine ⟨by decide, ⟨numbered, hnumbered, hno htoken⟩, ⟨listed, hlisted, hno htenant⟩, placed,
    hplaced, ?_⟩
  unfold stumbles at hstumbles
  split at hstumbles
  · assumption
  · cases hstumbles

/-- A catalog with such a token is filled all the same. -/
theorem well_typed_unless_misfit_numbered :
    session.account ≠ "" ∧
    ∃ catalog, catalogOf session numberedToken = .ok catalog ∧ catalog.IsFilled
      ∧ Misfit session numberedToken := by
  have haccount : session.account ≠ "" := by decide
  obtain ⟨catalog, hcatalog, htoken⟩ := exists_of_any any_numberedToken
  obtain ⟨hfilled, htyped, -⟩ :=
    well_typed_unless_misfit session haccount numberedToken catalog hcatalog
  refine ⟨haccount, catalog, hcatalog, hfilled, ?_⟩
  by_contra hmisfit
  have htext := (htyped.2 hmisfit).token
  rw [(Json.isPresentText_iff.1 htext).2] at htoken
  cases htoken

end Unshapely

end CloudClient
