import CloudClient.Authentication.Headers.Regional

/-!
# The services learnt from answers

An attempt that goes from endpoint to endpoint puts the locators of every
answer into one map, each under the region of the endpoint, and an endpoint
that wants a version ending completes the locator of the compute service in
its region. So a locator that a catalog has in the end may have come from any
of the answers, and need not be the header as it was.

Which answer it is, is said here by number: `regionAt? urls i` is the region of
an endpoint and `answerAt? replies i` what it answers, and neither knows of the
map. What one answer does to one place of the map is `get?_learn`; the last
answer with a locator for a place counts (`IsFrom`), and what the endpoints do
to it afterwards is a matter of whether one of them wants the ending, since a
locator is completed at most once (`adjusted_settled`).

Locators are never empty, since blank headers count as missing, and so a map
that is learnt always makes a catalog (`Catalog.make_of_noneEmpty`).
-/

namespace CloudClient

/-! ## Maps without empty locators -/

theorem Entries.forall_mem_put {κ ν : Type} [BEq κ] {P : ν → Prop} {entries : List (κ × ν)}
    {v : ν} (h : ∀ e ∈ entries, P e.2) (hv : P v) (k : κ) : ∀ e ∈ put entries k v, P e.2 := by
  intro e he
  unfold put at he
  split at he
  · obtain ⟨e', he', rfl⟩ := List.mem_map.1 he
    split
    · exact hv
    · exact h e' he'
  · obtain he | he := List.mem_append.1 he
    · exact h e he
    · rw [List.mem_singleton.1 he]
      exact hv

namespace EndpointMap

/-- No locator is empty. -/
def NoneEmpty (m : EndpointMap) : Prop := ∀ s ∈ m.entries, ∀ r ∈ s.2.entries, r.2 ≠ ""

theorem noneEmpty_empty : NoneEmpty .empty := nofun

theorem NoneEmpty.regionsOf {m : EndpointMap} (h : m.NoneEmpty) (service : RawText) :
    ∀ r ∈ (m.regionsOf service).entries, r.2 ≠ "" := by
  unfold EndpointMap.regionsOf
  cases hfound : m.find? service with
  | none => exact nofun
  | some regions =>
    obtain ⟨e, hfind, rfl⟩ := Option.map_eq_some_iff.1 hfound
    exact h e (List.mem_of_find?_eq_some hfind)

theorem NoneEmpty.set {m : EndpointMap} (h : m.NoneEmpty) (service : RawText) (region : Region)
    {url : String} (hurl : url ≠ "") : (m.set service region url).NoneEmpty := by
  have hregions := Entries.forall_mem_put (P := (· ≠ "")) (h.regionsOf service) hurl region
  exact Entries.forall_mem_put (P := fun regions : OrderedMap Region String =>
    ∀ r ∈ regions.entries, r.2 ≠ "") h hregions service

end EndpointMap

/-- A map without empty locators makes a catalog. -/
theorem Catalog.make_of_noneEmpty (authToken tenant : Json) (home : Region)
    (storageToken : Option Json) {endpoints : EndpointMap} (h : endpoints.NoneEmpty) :
    ∃ c, make authToken tenant home storageToken endpoints = .ok c
      ∧ c.authToken = authToken ∧ c.tenant = tenant ∧ c.homeRegion = home
      ∧ c.storageToken = storageToken.getD authToken ∧ c.endpoints = endpoints := by
  have hnone : emptyPlace? endpoints = none := by
    refine List.findSome?_eq_none_iff.2 fun s hs => ?_
    rw [emptyRegion?, Option.map_eq_none_iff, Option.map_eq_none_iff, List.find?_eq_none]
    exact fun r hr he => h s hs r hr (eq_of_beq he)
  unfold make
  split
  · rename_i place hplace
    rw [hnone] at hplace
    cases hplace
  · exact ⟨_, rfl, rfl, rfl, rfl, rfl, rfl⟩

theorem Region.named_injective {name other : String} (h : named name = named other) :
    name = other :=
  RawText.ofString_injective (Label.text.inj (Option.some.inj h))

/-- A region with a name is the key of no other region. -/
theorem Region.eq_of_named_beq {name : String} {r : Region} (h : (named name == r) = true) :
    named name = r :=
  (eq_of_isPlain_of_beq rfl h).symm

namespace ServiceHeaders

/-! ## One answer -/

/-- The locator of a service in an answer. -/
def located? (answer : Response) (service : RawText) : Option String :=
  (locators.find? fun l => RawText.ofString l.2 == service).bind fun l => answer.header? l.1

theorem header?_ne_empty {answer : Response} {name value : String}
    (h : answer.header? name = some value) : value ≠ "" := by
  obtain ⟨_, _, hvalue⟩ := Option.bind_eq_some_iff.1 h
  unfold Text.nonBlank? at hvalue
  split at hvalue
  · cases hvalue
  · cases hvalue
    assumption

theorem noneEmpty_collect (answer : Response) (region : Region) {m : EndpointMap}
    (h : m.NoneEmpty) : (collect answer region m).NoneEmpty := by
  unfold collect
  generalize locators = listed
  induction listed generalizing m with
  | nil => exact h
  | cons locator more ih =>
    refine ih ?_
    unfold collectOne
    split
    · exact h
    · rename_i url hurl
      exact h.set _ _ (header?_ne_empty hurl)

theorem get?_collectOne (answer : Response) (region : Region) (m : EndpointMap)
    (locator : String × String) (service : RawText) (r : Region) :
    (collectOne answer region m locator).get? service r
      = if RawText.ofString locator.2 == service && region == r
        then (answer.header? locator.1).or (m.get? service r) else m.get? service r := by
  unfold collectOne
  cases answer.header? locator.1 with
  | none => exact (ite_self _).symm
  | some url => exact m.get?_set locator.2 region url (service, r)

/-- Locators for different services are put into the map one after the other,
and each has its own place. -/
theorem get?_collectAll (answer : Response) (region : Region) (service : RawText) (r : Region)
    {listed : List (String × String)} (h : (listed.map Prod.snd).Nodup) (m : EndpointMap) :
    (listed.foldl (collectOne answer region) m).get? service r
      = if region == r
        then ((listed.find? fun l => RawText.ofString l.2 == service).bind
          fun l => answer.header? l.1).or (m.get? service r)
        else m.get? service r := by
  induction listed generalizing m with
  | nil => exact (ite_self _).symm
  | cons locator more ih =>
    obtain ⟨hfresh, hmore⟩ := List.nodup_cons.1 h
    rw [List.foldl_cons, ih hmore, get?_collectOne, List.find?_cons]
    cases hservice : RawText.ofString locator.2 == service with
    | false => rw [Bool.false_and, if_neg Bool.false_ne_true]
    | true =>
      -- no other locator has this service
      have hnone : (more.find? fun l => RawText.ofString l.2 == service) = none := by
        refine List.find?_eq_none.2 fun l hl hsame => hfresh ?_
        have heq : RawText.ofString l.2 = RawText.ofString locator.2 :=
          (eq_of_beq hsame).trans (eq_of_beq hservice).symm
        exact List.mem_map.2 ⟨l, hl, RawText.ofString_injective heq⟩
      rw [hnone, Bool.true_and]
      cases region == r <;> rfl

theorem get?_collect (answer : Response) (region : Region) (m : EndpointMap) (service : RawText)
    (r : Region) :
    (collect answer region m).get? service r
      = if region == r then (located? answer service).or (m.get? service r)
        else m.get? service r :=
  get?_collectAll answer region service r (by decide) m

end ServiceHeaders

namespace RegionalHeaders

/-- A locator as an endpoint leaves it: that of the compute service is
completed. -/
def adjusted (endpoint : String) (service : RawText) (locator : String) : String :=
  if service = Catalog.computeService then completed endpoint locator else locator

theorem get?_complete (endpoint region : String) (m : EndpointMap) (service : RawText)
    (r : Region) :
    (complete endpoint (Region.named region) m).get? service r
      = if Region.named region == r then (m.get? service r).map (adjusted endpoint service)
        else m.get? service r := by
  by_cases hplace : (Catalog.computeService, Region.named region) = (service, r)
  · obtain ⟨rfl, rfl⟩ := hplace
    rw [if_pos BEq.rfl]
    unfold complete
    cases hget : m.get? Catalog.computeService (Region.named region) with
    | none => exact hget
    | some url =>
      show (m.set _ _ _).get? (Catalog.computeService, Region.named region).1 _ = _
      rw [EndpointMap.get?_set, if_pos BEq.rfl, Option.map_some, adjusted, if_pos rfl]
  · have hsame : (complete endpoint (Region.named region) m).get? service r = m.get? service r := by
      unfold complete
      split
      · rfl
      · refine (m.get?_set _ _ _ (service, r)).trans (if_neg fun h => hplace ?_)
        obtain ⟨hservice, hregion⟩ := Bool.and_eq_true_iff.1 h
        rw [eq_of_beq hservice, Region.eq_of_named_beq hregion]
    rw [hsame]
    split
    · rename_i hregion
      have hother : service ≠ Catalog.computeService := fun h =>
        hplace (by rw [h, Region.eq_of_named_beq hregion])
      have hid : adjusted endpoint service = id := funext fun _ => if_neg hother
      rw [hid, Option.map_id_fun, id]
    · rfl

/-- **What one answer does to one place.** -/
theorem get?_learn (url region : String) (answer : Response) (m : EndpointMap) (service : RawText)
    (r : Region) :
    (learn url region answer m).get? service r
      = if Region.named region == r
        then ((ServiceHeaders.located? answer service).or (m.get? service r)).map
          (adjusted url service)
        else m.get? service r := by
  unfold learn
  rw [get?_complete, ServiceHeaders.get?_collect]
  cases Region.named region == r <;> rfl

/-! ## Endpoints and answers by number -/

section Numbered

variable (urls : List String) (replies : List Reply)

/-- The region of the endpoint with the given number. -/
def regionAt? (i : Nat) : Option String := urls[i]?.bind fun url => (Region.infer url).toOption

/-- What the endpoint with the given number answers, if it answers at all. -/
def answerAt? (i : Nat) : Option Response :=
  replies[i]?.bind fun reply =>
    match reply with
    | .response answer => some answer
    | .failure _ => none

/-- The locator of a service in the answer with the given number. -/
def offerAt? (service : RawText) (i : Nat) : Option String :=
  (answerAt? replies i).bind fun answer => ServiceHeaders.located? answer service

/-- The answer with the given number is a success. -/
def Succeeds (i : Nat) : Prop :=
  ∃ answer, answerAt? replies i = some answer ∧ (answer.status = 200 ∨ answer.status = 204)

/-- Whether an endpoint of a region wants the version ending, among those from
the number `j` up to the number `i`. -/
def wants (region : String) (j i : Nat) : Bool :=
  (List.range i).any fun n =>
    decide (j ≤ n) && regionAt? urls n == some region && urls[n]?.any hasVersionEnding

/-- A locator with the version ending if it lacks one that is wanted; no
locator but that of the compute service ever gets one. -/
def settled (service : RawText) (wanted : Bool) (value : String) : String :=
  if service = Catalog.computeService ∧ wanted = true ∧ hasVersionEnding value = false then
    Text.withoutTrailing '/' value ++ "/v1.0"
  else value

/-- **Where a locator comes from**: of the first `i` answers, the one with the
number `j` is the last for its region that has a locator of the service. -/
structure IsFrom (service : RawText) (region locator : String) (i j : Nat) : Prop where
  lt : j < i
  region_eq : regionAt? urls j = some region
  last : ∀ n, j < n → n < i → regionAt? urls n = some region → offerAt? replies service n = none
  offer : ∃ value, offerAt? replies service j = some value
    ∧ locator = settled service (wants urls region j i) value

/-- The map after the first answers. -/
def learnt : Nat → EndpointMap
  | 0 => .empty
  | i + 1 =>
    match urls[i]?, regionAt? urls i, answerAt? replies i with
    | some url, some region, some answer => learn url region answer (learnt i)
    | _, _, _ => learnt i

end Numbered

/-! ## The map after some answers -/

variable {urls : List String} {replies : List Reply} {service : RawText} {region : String}

theorem hasVersionEnding_append (s : String) : hasVersionEnding (s ++ "/v1.0") = true := by
  refine Text.endsWith_iff.2 ⟨s ++ "/", String.toList_inj.1 ?_⟩
  rw [Text.toList_withoutTrailing, String.toList_append, String.toList_append, String.toList_append,
    Text.dropEndWhile, List.reverse_append]
  show (['0', '.', '1', 'v', '/'] ++ s.toList.reverse).reverse
    = s.toList ++ ['/'] ++ ['v', '1', '.', '0']
  rw [List.reverse_append, List.reverse_reverse, List.append_assoc]
  rfl

theorem settled_unwanted (value : String) : settled service false value = value :=
  if_neg fun h => Bool.false_ne_true h.2.1

/-- Completed once, a locator stays as it is. -/
theorem adjusted_settled (url : String) (wanted : Bool) (value : String) :
    adjusted url service (settled service wanted value)
      = settled service (wanted || hasVersionEnding url) value := by
  by_cases hservice : service = Catalog.computeService
  · unfold adjusted
    rw [if_pos hservice]
    unfold completed settled
    cases hvalue : hasVersionEnding value with
    | true => simp [hvalue]
    | false =>
      cases wanted with
      | true => simp [hservice, hasVersionEnding_append]
      | false => simp [hservice, hvalue, versionEnding, String.append_assoc]
  · unfold adjusted settled
    rw [if_neg hservice, if_neg fun h => hservice h.1, if_neg fun h => hservice h.1]

theorem adjusted_eq_settled (url value : String) :
    adjusted url service value = settled service (hasVersionEnding url) value := by
  rw [← Bool.false_or (hasVersionEnding url), ← adjusted_settled, settled_unwanted]

theorem wants_succ {url : String} {i : Nat} (hurl : urls[i]? = some url)
    (hregion : regionAt? urls i = some region) {j : Nat} (hj : j ≤ i) :
    wants urls region j (i + 1) = (wants urls region j i || hasVersionEnding url) := by
  unfold wants
  rw [List.range_succ, List.any_append, List.any_cons, List.any_nil, Bool.or_false, hurl, hregion,
    decide_eq_true hj, Bool.true_and, BEq.rfl, Bool.true_and]
  rfl

theorem wants_self (region : String) (i : Nat) : wants urls region i i = false := by
  refine List.any_eq_false.2 fun n hn => ?_
  rw [decide_eq_false (Nat.not_le.2 (List.mem_range.1 hn)), Bool.false_and, Bool.false_and]
  exact Bool.false_ne_true

theorem wants_succ_of_ne {i : Nat} (hregion : regionAt? urls i ≠ some region) (j : Nat) :
    wants urls region j (i + 1) = wants urls region j i := by
  unfold wants
  rw [List.range_succ, List.any_append, List.any_cons, List.any_nil, Bool.or_false,
    beq_false_of_ne hregion, Bool.and_false, Bool.false_and, Bool.or_false]

/-- An answer for another region changes nothing. -/
theorem isFrom_succ_of_ne {i : Nat} (hregion : regionAt? urls i ≠ some region) {locator : String}
    {j : Nat} :
    IsFrom urls replies service region locator (i + 1) j
      ↔ IsFrom urls replies service region locator i j := by
  constructor
  · intro h
    have hne : j ≠ i := fun hji => hregion (hji ▸ h.region_eq)
    obtain ⟨value, hvalue, hlocator⟩ := h.offer
    exact ⟨by have := h.lt; omega, h.region_eq, fun n hn hni => h.last n hn (by omega),
      value, hvalue, by rw [hlocator, wants_succ_of_ne hregion]⟩
  · intro h
    obtain ⟨value, hvalue, hlocator⟩ := h.offer
    refine ⟨by have := h.lt; omega, h.region_eq, fun n hn hni hnregion => ?_,
      value, hvalue, by rw [hlocator, wants_succ_of_ne hregion]⟩
    have hne : n ≠ i := fun hni => hregion (hni ▸ hnregion)
    exact h.last n hn (by omega) hnregion

section Step

variable {i : Nat} {url : String} (hurl : urls[i]? = some url)
  (hregion : regionAt? urls i = some region)

include hurl hregion

/-- An answer with a locator of the service has the last word. -/
theorem isFrom_succ_of_offer {value : String} (hvalue : offerAt? replies service i = some value)
    {locator : String} :
    (∃ j, IsFrom urls replies service region locator (i + 1) j)
      ↔ locator = adjusted url service value := by
  have hadjusted : adjusted url service value
      = settled service (wants urls region i (i + 1)) value := by
    rw [wants_succ hurl hregion (Nat.le_refl i), wants_self, Bool.false_or, adjusted_eq_settled]
  rw [hadjusted]
  constructor
  · rintro ⟨j, h⟩
    obtain ⟨hlt, hji⟩ | rfl : j < i ∧ j ≠ i ∨ j = i := by
      have := h.lt
      omega
    · rw [h.last i hlt (Nat.lt_succ_self i) hregion] at hvalue
      cases hvalue
    · obtain ⟨value', hvalue', hlocator⟩ := h.offer
      rw [hvalue] at hvalue'
      cases hvalue'
      exact hlocator
  · rintro rfl
    exact ⟨i, Nat.lt_succ_self i, hregion, fun n hn hni => by omega, value, hvalue, rfl⟩

/-- One without leaves it to the answers before, whose locator is completed. -/
theorem isFrom_succ_of_none (hnone : offerAt? replies service i = none) {locator : String} :
    (∃ j, IsFrom urls replies service region locator (i + 1) j)
      ↔ ∃ former, (∃ j, IsFrom urls replies service region former i j)
        ∧ adjusted url service former = locator := by
  constructor
  · rintro ⟨j, h⟩
    obtain ⟨value, hvalue, hlocator⟩ := h.offer
    have hne : j ≠ i := by
      rintro rfl
      rw [hnone] at hvalue
      cases hvalue
    have hlt : j < i := by
      have := h.lt
      omega
    refine ⟨_, ⟨j, hlt, h.region_eq, fun n hn hni => h.last n hn (by omega), value, hvalue, rfl⟩,
      ?_⟩
    rw [adjusted_settled, hlocator, wants_succ hurl hregion (Nat.le_of_lt hlt)]
  · rintro ⟨former, ⟨j, h⟩, rfl⟩
    obtain ⟨value, hvalue, rfl⟩ := h.offer
    refine ⟨j, Nat.lt_succ_of_lt h.lt, h.region_eq, fun n hn hni hnregion => ?_, value, hvalue, ?_⟩
    · obtain hlt | rfl : n < i ∨ n = i := by omega
      · exact h.last n hn hlt hnregion
      · exact hnone
    · rw [adjusted_settled, wants_succ hurl hregion (Nat.le_of_lt h.lt)]

end Step

theorem learnt_succ {i : Nat} {answer : Response} (hlt : i < urls.length)
    (hregion : regionAt? urls i = some region) (hanswer : answerAt? replies i = some answer) :
    learnt urls replies (i + 1) = learn urls[i] region answer (learnt urls replies i) := by
  rw [learnt, List.getElem?_eq_getElem hlt, hregion, hanswer]

/-- The map after one more answer. -/
theorem get?_learnt_succ {i : Nat} (hlt : i < urls.length)
    (hregion : regionAt? urls i = some region) (hsucceeds : Succeeds replies i) (service : RawText) (r : Region) :
    (learnt urls replies (i + 1)).get? service r
      = if Region.named region == r
        then ((offerAt? replies service i).or ((learnt urls replies i).get? service r)).map
          (adjusted urls[i] service)
        else (learnt urls replies i).get? service r := by
  obtain ⟨answer, hanswer, -⟩ := hsucceeds
  rw [learnt_succ hlt hregion hanswer, get?_learn, offerAt?, hanswer, Option.bind_some]

section Learnt

variable {i : Nat} (hpassed : ∀ j < i, j < urls.length ∧ Succeeds replies j)
  (hregions : ∀ j < urls.length, ∃ region, regionAt? urls j = some region)

include hpassed hregions

/-- **The locators after some answers.** Each place of the map has the locator
of the last answer with one for it. -/
theorem get?_learnt_iff {locator : String} :
    (learnt urls replies i).get? service (Region.named region) = some locator
      ↔ ∃ j, IsFrom urls replies service region locator i j := by
  induction i generalizing locator with
  | zero => exact iff_of_false nofun fun ⟨j, h⟩ => absurd h.lt (Nat.not_lt_zero j)
  | succ i ih =>
    obtain ⟨hlt, hsucceeds⟩ := hpassed i (Nat.lt_succ_self i)
    obtain ⟨asked, hasked⟩ := hregions i hlt
    have ih := @ih fun j hj => hpassed j (Nat.lt_succ_of_lt hj)
    have hurl : urls[i]? = some urls[i] := List.getElem?_eq_getElem hlt
    rw [get?_learnt_succ hlt hasked hsucceeds]
    by_cases hhere : asked = region
    · subst hhere
      rw [if_pos BEq.rfl]
      cases hoffer : offerAt? replies service i with
      | some value =>
        rw [isFrom_succ_of_offer hurl hasked hoffer]
        exact ⟨fun h => (Option.some.inj h).symm, fun h => congrArg some h.symm⟩
      | none =>
        rw [isFrom_succ_of_none hurl hasked hoffer, Option.none_or, Option.map_eq_some_iff]
        exact exists_congr fun former => and_congr_left' ih
    · have hne : regionAt? urls i ≠ some region := fun h =>
        hhere (Option.some.inj (hasked.symm.trans h))
      have hname : ¬ (Region.named asked == Region.named region) = true := fun h =>
        hhere (Region.named_injective (Region.eq_of_named_beq h))
      rw [if_neg hname, ih]
      exact exists_congr fun j => (isFrom_succ_of_ne hne).symm

/-- No region without a name has a service. -/
theorem get?_learnt_of_nameless {r : Region} (hr : ∀ region, r ≠ Region.named region) :
    (learnt urls replies i).get? service r = none := by
  induction i with
  | zero => rfl
  | succ i ih =>
    obtain ⟨hlt, hsucceeds⟩ := hpassed i (Nat.lt_succ_self i)
    obtain ⟨asked, hasked⟩ := hregions i hlt
    rw [get?_learnt_succ hlt hasked hsucceeds,
      if_neg fun h => hr asked (Region.eq_of_named_beq h).symm]
    exact ih fun j hj => hpassed j (Nat.lt_succ_of_lt hj)

end Learnt

theorem completed_ne_empty (endpoint : String) {url : String} (h : url ≠ "") :
    completed endpoint url ≠ "" := by
  unfold completed
  split
  · intro hempty
    have hlength := congrArg String.length hempty
    rw [String.length_append, String.length_append] at hlength
    exact absurd hlength (by rw [show versionEnding.length = 4 from rfl]; simp)
  · exact h

theorem noneEmpty_learn (url region : String) (answer : Response) {m : EndpointMap}
    (h : m.NoneEmpty) : (learn url region answer m).NoneEmpty := by
  have hcollect := ServiceHeaders.noneEmpty_collect answer (Region.named region) h
  unfold learn complete
  split
  · exact hcollect
  · rename_i locator hlocator
    obtain ⟨e, hfind, rfl⟩ := Option.map_eq_some_iff.1 hlocator
    exact hcollect.set _ _ (completed_ne_empty url
      (hcollect.regionsOf _ e (List.mem_of_find?_eq_some hfind)))

theorem noneEmpty_learnt (urls : List String) (replies : List Reply) (i : Nat) :
    (learnt urls replies i).NoneEmpty := by
  induction i with
  | zero => exact EndpointMap.noneEmpty_empty
  | succ i ih =>
    unfold learnt
    split
    · exact noneEmpty_learn _ _ _ ih
    · exact ih

end RegionalHeaders

end CloudClient
