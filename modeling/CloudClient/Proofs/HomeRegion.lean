import CloudClient.Catalog

/-!
# Looking up a service for the home region

A catalog has a locator for a service in each of some regions, in the order in
which they came, and a lookup takes one of them. Which one is said here by a
relation between the home region and the regions that it falls under
(`Region.Serves`): itself, every ending of it, and where there is no region; if
the home region is not known, any region serves. Endings overlap, and the empty
text is an ending of all, so more than one region may serve.

Of those the home region itself is taken, if it is there, wherever it stands;
otherwise the first that serves. A home region that is not known is not there,
also where an entry has no region. `Catalog.Lookup` has a rule for each of the
two and one for a lookup in vain, and `lookup_serviceUrl` says that lookups
follow the rules.

So the order of the entries matters only where several regions serve and none
of them is the home region: two catalogs with the same entries
(`Catalog.SameEntries`) then may differ, and in all other cases give the same.

All of this is about plain regions, which are texts or missing. With others a
lookup may end in a defect.
-/

namespace CloudClient

/-- **A region serves a home region.** -/
inductive Region.Serves (home : Region) : Region → Prop where
  /-- Any region does if the home region is not known. -/
  | unknown (h : home = none) (region : Region) : Serves home region
  /-- The home region itself does, -/
  | home : Serves home home
  /-- and so does an entry without a region, -/
  | regionless : Serves home none
  /-- and every ending of the home region. -/
  | ending {label ending : RawText} (hhome : home = some (.text label))
      (h : ending.points <:+ label.points) : Serves home (some (.text ending))

namespace Catalog

/-- **A catalog stores a locator** of a service in a region. -/
def Stores (c : Catalog) (service : RawText) (region : Region) (url : String) : Prop :=
  ∃ regions, (service, regions) ∈ c.endpoints.entries ∧ (region, url) ∈ regions.entries

/-- **The regions of a catalog are texts or missing**, its home region and those
of its services. -/
structure HasPlainRegions (c : Catalog) : Prop where
  home : c.homeRegion.isPlain = true
  stored : ∀ {service region url}, c.Stores service region url → region.isPlain = true

/-- The home region is known, and it is one of the regions of a service. -/
def HomeIsStored (c : Catalog) (service : RawText) : Prop :=
  c.homeRegion ≠ none ∧ ∃ url, c.Stores service c.homeRegion url

/-- At most one region of a service serves the home region. -/
def ServedOnce (c : Catalog) (service : RawText) : Prop :=
  ∀ region url region' url', c.Stores service region url → c.Stores service region' url' →
    c.homeRegion.Serves region → c.homeRegion.Serves region' → region = region'

/-- **Two catalogs have the same entries**, in whatever order, and the same home
region. -/
structure SameEntries (c c' : Catalog) : Prop where
  home : c'.homeRegion = c.homeRegion
  stored : ∀ service region url, c'.Stores service region url ↔ c.Stores service region url

/-- **The rules of a lookup.** -/
inductive Lookup (c : Catalog) (service : RawText) : Option String → Prop where
  /-- The home region itself is taken wherever it stands. -/
  | home {url : String} (hknown : c.homeRegion ≠ none) (h : c.Stores service c.homeRegion url) :
      Lookup c service (some url)
  /-- Otherwise the first region is that serves. -/
  | first {region : Region} {url : String} (hhome : ¬ c.HomeIsStored service)
      (before after : List (Region × String))
      (hentries : (c.regionsOf service).entries = before ++ (region, url) :: after)
      (hbefore : ∀ e ∈ before, ¬ c.homeRegion.Serves e.1) (h : c.homeRegion.Serves region) :
      Lookup c service (some url)
  /-- Without one the lookup is in vain. -/
  | missing (h : ∀ region url, c.Stores service region url → ¬ c.homeRegion.Serves region) :
      Lookup c service none

/-! ## What is stored -/

section Stored

variable {c c' : Catalog} {service : RawText} {region : Region} {url : String}

/-- What is stored for a service are the entries of its regions. -/
theorem stores_iff :
    c.Stores service region url ↔ (region, url) ∈ (c.regionsOf service).entries := by
  have hservice (regions : OrderedMap Region String) :
      (service, regions) ∈ c.endpoints.entries ↔ c.endpoints.find? service = some regions := by
    rw [OrderedMap.find?, Entries.find?_eq_some_iff c.endpoints.distinct]
    constructor
    · exact fun h => ⟨service, h, BEq.rfl⟩
    · rintro ⟨service', h, hsame⟩
      rwa [eq_of_beq hsame] at h
  unfold Stores regionsOf EndpointMap.regionsOf
  simp only [hservice]
  cases c.endpoints.find? service with
  | none => exact iff_of_false (fun ⟨_, hnone, _⟩ => nomatch hnone) List.not_mem_nil
  | some regions =>
    constructor
    · rintro ⟨_, hsome, hmem⟩
      exact Option.some.inj hsome ▸ hmem
    · exact fun hmem => ⟨regions, rfl, hmem⟩

theorem Stores.ne_empty (h : c.Stores service region url) : url ≠ "" := by
  obtain ⟨regions, hregions, hurl⟩ := h
  exact c.locators_nonempty _ hregions _ hurl

/-- A plain region is looked up among the regions of a service. -/
theorem find?_eq_some_iff (hregion : region.isPlain = true) :
    (c.regionsOf service).find? region = some url ↔ c.Stores service region url := by
  rw [stores_iff, OrderedMap.find?, Entries.find?_eq_some_iff (c.regionsOf service).distinct]
  constructor
  · rintro ⟨region', hmem, hsame⟩
    rwa [Region.eq_of_isPlain_of_beq hregion (BEq.symm hsame)] at hmem
  · exact fun hmem => ⟨region, hmem, BEq.rfl⟩

/-- There is one locator of a service in a region. -/
theorem Stores.unique (hregion : region.isPlain = true) {url' : String}
    (h : c.Stores service region url) (h' : c.Stores service region url') : url = url' := by
  rw [← find?_eq_some_iff hregion] at h h'
  exact Option.some.inj (h.symm.trans h')

theorem SameEntries.hasPlainRegions (h : c.SameEntries c') (hplain : c.HasPlainRegions) :
    c'.HasPlainRegions where
  home := h.home ▸ hplain.home
  stored hstored := hplain.stored ((h.stored _ _ _).1 hstored)

theorem SameEntries.homeIsStored_iff (h : c.SameEntries c') :
    c'.HomeIsStored service ↔ c.HomeIsStored service := by
  unfold HomeIsStored
  simp only [h.home, h.stored]

end Stored

/-! ## Lookups follow the rules -/

section Rules

variable {c : Catalog} {service : RawText}

/-- A text falls under a plain region exactly if the region serves it. -/
theorem fallsUnder_eq (label : RawText) {region : Region} (hregion : region.isPlain = true) :
    ∃ falls, fallsUnder (.text label) region = .ok falls
      ∧ (falls = true ↔ Region.Serves (some (.text label)) region) := by
  match region, hregion with
  | none, _ => exact ⟨true, rfl, iff_of_true rfl .regionless⟩
  | some (.text ending), _ =>
    refine ⟨RawText.endsWith ending label, rfl, ?_⟩
    rw [RawText.endsWith, List.isSuffixOf_iff_suffix]
    constructor
    · exact .ending rfl
    · intro h
      cases h with
      | unknown hnone => cases hnone
      | home => exact List.suffix_refl _
      | ending hhome hsuffix =>
        cases hhome
        exact hsuffix

/-- **The first region that serves is found**, or none does. -/
theorem firstUnder_cases (label : RawText) {entries : List (Region × String)}
    (hplain : ∀ e ∈ entries, e.1.isPlain = true) :
    (firstUnder (.text label) entries = .ok none
        ∧ ∀ e ∈ entries, ¬ Region.Serves (some (.text label)) e.1)
      ∨ ∃ before region url after, entries = before ++ (region, url) :: after
        ∧ (∀ e ∈ before, ¬ Region.Serves (some (.text label)) e.1)
        ∧ Region.Serves (some (.text label)) region
        ∧ firstUnder (.text label) entries = .ok (some url) := by
  induction entries with
  | nil => exact .inl ⟨rfl, List.forall_mem_nil _⟩
  | cons e more ih =>
    obtain ⟨region, url⟩ := e
    obtain ⟨hregion, hmore⟩ := List.forall_mem_cons.1 hplain
    obtain ⟨falls, hfalls, hserves⟩ := fallsUnder_eq label hregion
    rw [firstUnder, hfalls]
    cases falls with
    | true => exact .inr ⟨[], region, url, more, rfl, List.forall_mem_nil _, hserves.1 rfl, rfl⟩
    | false =>
      have hnot : ¬ Region.Serves (some (.text label)) region := fun h => nomatch hserves.2 h
      obtain ⟨hnone, hall⟩ | ⟨before, region', url', after, rfl, hbefore, hfirst, hfound⟩ :=
        ih hmore
      · exact .inl ⟨hnone, List.forall_mem_cons.2 ⟨hnot, hall⟩⟩
      · exact .inr ⟨(region, url) :: before, region', url', after, rfl,
          List.forall_mem_cons.2 ⟨hnot, hbefore⟩, hfirst, hfound⟩

/-- **A lookup follows the rules**, and is never a defect. -/
theorem lookup_serviceUrl (hplain : c.HasPlainRegions) (service : RawText) :
    ∃ answer, c.serviceUrl service = .ok answer ∧ Lookup c service answer := by
  have hregions : ∀ e ∈ (c.regionsOf service).entries, e.1.isPlain = true :=
    fun e he => hplain.stored (stores_iff.2 he)
  have hhome := hplain.home
  unfold serviceUrl lookup
  match hlabel : c.homeRegion, hhome with
  | none, _ =>
    have hunknown : ¬ c.HomeIsStored service := fun h => h.1 hlabel
    refine ⟨_, rfl, ?_⟩
    unfold OrderedMap.values
    cases hentries : (c.regionsOf service).entries with
    | nil =>
      refine .missing fun region url hstored => ?_
      rw [stores_iff, hentries] at hstored
      cases hstored
    | cons e more =>
      exact .first hunknown [] more hentries (List.forall_mem_nil _) (.unknown hlabel e.1)
  | some (.text label), _ =>
    have hknown : c.homeRegion ≠ none := by rw [hlabel]; nofun
    cases hfound : (c.regionsOf service).find? (some (.text label)) with
    | some url =>
      rw [← hlabel, find?_eq_some_iff hplain.home] at hfound
      exact ⟨some url, rfl, .home hknown hfound⟩
    | none =>
      have hno : ¬ c.HomeIsStored service := by
        rintro ⟨-, url, hurl⟩
        rw [← find?_eq_some_iff hplain.home, hlabel, hfound] at hurl
        cases hurl
      simp only
      obtain ⟨hnone, hall⟩ | ⟨before, region, url, after, hentries, hbefore, hfirst, hurl⟩ :=
        firstUnder_cases label hregions
      · refine ⟨none, hnone, .missing fun region url hstored => ?_⟩
        rw [hlabel]
        exact hall _ (stores_iff.1 hstored)
      · rw [← hlabel] at hbefore hfirst
        exact ⟨some url, hurl, .first hno before after hentries hbefore hfirst⟩

/-- What is found is stored under a region that serves, the home region if that
is stored. -/
theorem Lookup.sound {url : String} (h : Lookup c service (some url)) :
    ∃ region, c.Stores service region url ∧ c.homeRegion.Serves region
      ∧ (c.HomeIsStored service → region = c.homeRegion) := by
  cases h with
  | home hknown h => exact ⟨_, h, .home, fun _ => rfl⟩
  | @first region _ hhome before after hentries hbefore h =>
    refine ⟨region, stores_iff.2 ?_, h, fun hstored => absurd hstored hhome⟩
    rw [hentries]
    exact List.mem_append_right _ List.mem_cons_self

theorem Lookup.missing_iff {answer : Option String} (h : Lookup c service answer) :
    answer = none
      ↔ ∀ region url, c.Stores service region url → ¬ c.homeRegion.Serves region := by
  cases answer with
  | none =>
    cases h with
    | missing h => exact iff_of_true rfl h
  | some url =>
    obtain ⟨region, hstored, hserves, -⟩ := h.sound
    exact iff_of_false nofun fun hnone => hnone region url hstored hserves

/-- The first region that serves is one. -/
theorem eq_of_first_serves {home : Region}
    {entries before before' after after' : List (Region × String)} {e e' : Region × String}
    (h : entries = before ++ e :: after)
    (h' : entries = before' ++ e' :: after') (hbefore : ∀ d ∈ before, ¬ home.Serves d.1)
    (hbefore' : ∀ d ∈ before', ¬ home.Serves d.1) (he : home.Serves e.1) (he' : home.Serves e'.1) :
    e = e' := by
  classical
  have hfind {before after : List (Region × String)} {e : Region × String}
      (h : entries = before ++ e :: after) (hbefore : ∀ d ∈ before, ¬ home.Serves d.1)
      (he : home.Serves e.1) : entries.find? (fun d => decide (home.Serves d.1)) = some e := by
    rw [List.find?_eq_some_iff_append]
    exact ⟨decide_eq_true he, before, after, h, fun d hd => by simpa using hbefore d hd⟩
  exact Option.some.inj ((hfind h hbefore he).symm.trans (hfind h' hbefore' he'))

/-- **The rules leave no choice.** -/
theorem Lookup.unique (hplain : c.HasPlainRegions) {answer answer' : Option String}
    (h : Lookup c service answer) (h' : Lookup c service answer') : answer = answer' := by
  cases h with
  | home hknown hstored =>
    cases h' with
    | home _ hstored' => rw [hstored.unique hplain.home hstored']
    | first hhome => exact absurd ⟨hknown, _, hstored⟩ hhome
    | missing hnone => exact absurd .home (hnone _ _ hstored)
  | first hhome before after hentries hbefore hserves =>
    cases h' with
    | home hknown hstored => exact absurd ⟨hknown, _, hstored⟩ hhome
    | first _ before' after' hentries' hbefore' hserves' =>
      cases eq_of_first_serves hentries hentries' hbefore hbefore' hserves hserves'
      rfl
    | missing hnone =>
      have hstored := stores_iff.2 (hentries ▸ List.mem_append_right _ List.mem_cons_self)
      exact absurd hserves (hnone _ _ hstored)
  | missing hnone => exact (h'.missing_iff.2 hnone).symm

/-- **Lookups are what the rules say.** -/
theorem serviceUrl_eq_ok_iff (hplain : c.HasPlainRegions) {answer : Option String} :
    c.serviceUrl service = .ok answer ↔ Lookup c service answer := by
  obtain ⟨found, hfound, hlookup⟩ := lookup_serviceUrl hplain service
  rw [hfound]
  refine ⟨fun h => Except.ok.inj h ▸ hlookup, fun h => ?_⟩
  rw [hlookup.unique hplain h]

end Rules

/-! ## The order of the entries -/

/-- What is found does not depend on the order of the entries, if the home
region is stored or only one region serves it. -/
theorem Lookup.eq_of_sameEntries {c c' : Catalog} {service : RawText}
    {answer answer' : Option String} (hplain : c.HasPlainRegions) (hsame : c.SameEntries c')
    (honce : c.HomeIsStored service ∨ c.ServedOnce service) (h : Lookup c service answer)
    (h' : Lookup c' service answer') : answer' = answer := by
  have hmissing : answer' = none ↔ answer = none := by
    rw [h.missing_iff, h'.missing_iff]
    simp only [hsame.home, hsame.stored]
  cases answer with
  | none => exact hmissing.2 rfl
  | some url =>
    obtain ⟨url', rfl⟩ := Option.ne_none_iff_exists'.1 fun hnone => nomatch hmissing.1 hnone
    obtain ⟨region, hstored, hserves, hhome⟩ := h.sound
    obtain ⟨region', hstored', hserves', hhome'⟩ := h'.sound
    rw [hsame.stored] at hstored'
    rw [hsame.home] at hserves' hhome'
    rw [hsame.homeIsStored_iff] at hhome'
    have hregion : region' = region := by
      obtain hhere | honce := honce
      · rw [hhome hhere, hhome' hhere]
      · exact honce _ _ _ _ hstored' hstored hserves' hserves
    subst hregion
    rw [hstored'.unique (hplain.stored hstored) hstored]

/-- **Looking up a service for the home region.** Where all regions are texts or
missing, a lookup is in vain exactly if the service has no region, or the home
region is known and no region of the service is equal to it, is missing, or is
an ending of it. Otherwise it gives a locator that is stored under a region that
serves: that of the home region if that is known and stored, and of the first
region that serves if not. If the home region is stored, or at most one region
serves, every catalog with the same entries gives the same, in whatever order
they came. -/
theorem home_region_lookup (c : Catalog) (hplain : c.HasPlainRegions) (service : RawText) :
    (c.serviceUrl service = .ok none ↔
      (∀ region url, ¬ c.Stores service region url) ∨
      c.homeRegion ≠ none ∧ ∀ region url, c.Stores service region url →
        ¬ c.homeRegion.Serves region) ∧
    (c.serviceUrl service ≠ .ok none → ∃ url region, c.serviceUrl service = .ok (some url) ∧
      url ≠ "" ∧ c.Stores service region url ∧ c.homeRegion.Serves region) ∧
    (∀ url, c.homeRegion ≠ none → c.Stores service c.homeRegion url →
      c.serviceUrl service = .ok (some url)) ∧
    (∀ before region url after, ¬ c.HomeIsStored service →
      (c.regionsOf service).entries = before ++ (region, url) :: after →
      (∀ e ∈ before, ¬ c.homeRegion.Serves e.1) → c.homeRegion.Serves region →
      c.serviceUrl service = .ok (some url)) ∧
    (∀ c', c.SameEntries c' → c.HomeIsStored service ∨ c.ServedOnce service →
      c'.serviceUrl service = c.serviceUrl service) := by
  obtain ⟨answer, hanswer, hlookup⟩ := lookup_serviceUrl hplain service
  refine ⟨?_, fun hfound => ?_, fun url hknown hstored => ?_,
    fun before region url after hhome hentries hbefore hserves => ?_, fun c' hsame honce => ?_⟩
  · have hnone : c.serviceUrl service = .ok none ↔ answer = none := by
      rw [hanswer]
      exact ⟨Except.ok.inj, congrArg _⟩
    rw [hnone, hlookup.missing_iff]
    constructor
    · intro h
      by_cases hknown : c.homeRegion = none
      · exact .inl fun region url hstored => h region url hstored (.unknown hknown region)
      · exact .inr ⟨hknown, h⟩
    · rintro (h | ⟨-, h⟩) region url hstored
      · exact absurd hstored (h region url)
      · exact h region url hstored
  · rw [hanswer] at hfound ⊢
    obtain ⟨url, rfl⟩ := Option.ne_none_iff_exists'.1 fun hnone => hfound (congrArg _ hnone)
    obtain ⟨region, hstored, hserves, -⟩ := hlookup.sound
    exact ⟨url, region, rfl, hstored.ne_empty, hstored, hserves⟩
  · exact (serviceUrl_eq_ok_iff hplain).2 (.home hknown hstored)
  · exact (serviceUrl_eq_ok_iff hplain).2 (.first hhome before after hentries hbefore hserves)
  · obtain ⟨answer', hanswer', hlookup'⟩ :=
      lookup_serviceUrl (hsame.hasPlainRegions hplain) service
    rw [hanswer, hanswer', hlookup.eq_of_sameEntries hplain hsame honce hlookup']

/-! ## Regions in two orders -/

namespace Overlapping

/-- The compute service in some regions, for a home region. -/
def inRegions (home : Region) (regions : OrderedMap Region String)
    (h : ∀ r ∈ regions.entries, r.2 ≠ "") : Catalog where
  authToken := .str "token"
  tenant := .null
  homeRegion := home
  storageToken := .null
  endpoints := OrderedMap.empty.put "compute" regions
  locators_nonempty := List.forall_mem_singleton.2 h

section InRegions

variable {home : Region} {regions regions' : OrderedMap Region String}
  (h : ∀ r ∈ regions.entries, r.2 ≠ "") (h' : ∀ r ∈ regions'.entries, r.2 ≠ "")

theorem stores_inRegions {service : RawText} {region : Region} {url : String} :
    (inRegions home regions h).Stores service region url
      ↔ service = "compute" ∧ (region, url) ∈ regions.entries := by
  constructor
  · rintro ⟨_, hservice, hregion⟩
    cases List.mem_singleton.1 hservice
    exact ⟨rfl, hregion⟩
  · rintro ⟨rfl, hregion⟩
    exact ⟨regions, List.mem_singleton.2 rfl, hregion⟩

theorem hasPlainRegions_inRegions (hhome : home.isPlain = true)
    (hplain : ∀ r ∈ regions.entries, r.1.isPlain = true) :
    (inRegions home regions h).HasPlainRegions where
  home := hhome
  stored hstored := hplain _ ((stores_inRegions h).1 hstored).2

/-- The order of the regions is no part of the entries. -/
theorem sameEntries_inRegions (hperm : regions'.entries.Perm regions.entries) :
    (inRegions home regions h).SameEntries (inRegions home regions' h') where
  home := rfl
  stored service region url := by
    rw [stores_inRegions, stores_inRegions]
    exact and_congr_right fun _ => hperm.mem_iff

end InRegions

/-- Each region is an ending of the next, and the last is the home region. -/
def rising : Catalog :=
  inRegions (.named "a.geo") (.ofList [(.named "", "http://all"), (.named "geo", "http://geo"),
    (.named "a.geo", "http://home")]) (by decide)

/-- The same in the opposite order. -/
def falling : Catalog :=
  inRegions (.named "a.geo") (.ofList [(.named "a.geo", "http://home"),
    (.named "geo", "http://geo"), (.named "", "http://all")]) (by decide)

/-- All three regions serve, and the home region is taken from either catalog. -/
theorem home_region_lookup_overlapping :
    rising.HasPlainRegions ∧ rising.SameEntries falling ∧ rising.HomeIsStored "compute" ∧
    rising.serviceUrl "compute" = .ok (some "http://home") ∧
    falling.serviceUrl "compute" = .ok (some "http://home") := by
  have hplain : rising.HasPlainRegions := hasPlainRegions_inRegions _ rfl (by decide)
  have hsame : rising.SameEntries falling :=
    sameEntries_inRegions _ _ (List.reverse_perm (rising.regionsOf "compute").entries)
  have hstored : rising.Stores "compute" rising.homeRegion "http://home" :=
    (stores_inRegions _).2 ⟨rfl, List.mem_cons_of_mem _ (List.mem_cons_of_mem _ List.mem_cons_self)⟩
  have hknown : rising.homeRegion ≠ none := nofun
  obtain ⟨-, -, hhome, -, horder⟩ := home_region_lookup rising hplain "compute"
  have hurl := hhome _ hknown hstored
  exact ⟨hplain, hsame, ⟨hknown, _, hstored⟩, hurl,
    (horder falling hsame (.inl ⟨hknown, _, hstored⟩)).trans hurl⟩

/-- An entry without a region stands behind another, and the home region is not
known. -/
def regionlessLast : Catalog :=
  inRegions none (.ofList [(.named "a", "http://a"), (none, "http://regionless")]) (by decide)

/-- The same in the opposite order. -/
def regionlessFirst : Catalog :=
  inRegions none (.ofList [(none, "http://regionless"), (.named "a", "http://a")]) (by decide)

/-- **An unknown home region is not there**, also where an entry has no region:
the entry does not go before the others, and the order of the entries counts. -/
theorem unknown_home_is_not_stored :
    regionlessLast.HasPlainRegions ∧ regionlessLast.SameEntries regionlessFirst ∧
    regionlessLast.Stores "compute" regionlessLast.homeRegion "http://regionless" ∧
    regionlessLast.serviceUrl "compute" = .ok (some "http://a") ∧
    regionlessFirst.serviceUrl "compute" = .ok (some "http://regionless") :=
  ⟨hasPlainRegions_inRegions _ rfl (by decide),
    sameEntries_inRegions _ _ (List.reverse_perm (regionlessLast.regionsOf "compute").entries),
    (stores_inRegions _).2 ⟨rfl, List.mem_cons_of_mem _ List.mem_cons_self⟩, rfl, rfl⟩

end Overlapping

end Catalog

end CloudClient
