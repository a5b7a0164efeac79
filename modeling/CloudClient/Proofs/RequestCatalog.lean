import Mathlib.Data.List.Chain
import CloudClient.Proofs.CallRecovery

/-!
# One catalog for each request

A token is good for the locators of its own catalog. A call that authenticates
anew halfway has held two catalogs, and a probe has been made with one of them,
perhaps at another service; so there are many ways to send the token of one
catalog to a locator of another. This module proves that it never happens:
every request for a resource, and every probe, is made from a single catalog
(`MadeFrom`), whatever the caller has put into its headers, whatever the cache
holds, and whatever others store there meanwhile.

## What changes between trials, and what does not

Within a call the catalog is handed from trial to trial (`Handover`). After a
throttling it is kept, and after a rejection it is the one that a search in
place of the rejected catalog has ended with; nothing else lies between two
trials. All the rest of a request is the same in each of them: the method, the
octets of the body, and every header but the one with the token.
-/

namespace CloudClient.RequestCatalog

/-- **The token that a service is called with.** The object store has one of
its own, which may be missing. -/
inductive TokenFor (catalog : Catalog) (service : RawText) : Json → Prop where
  | storage (h : service = "object-store") (hthere : catalog.storageToken.truthy = true) :
      TokenFor catalog service catalog.storageToken
  | noStorageToken (h : service = "object-store")
      (hmissing : catalog.storageToken.truthy = false) :
      TokenFor catalog service catalog.authToken
  | other (h : service ≠ "object-store") : TokenFor catalog service catalog.authToken

/-- **A request that is made from one catalog**, for a service whose locator is
built into a target in the given way. -/
structure MadeFrom (catalog : Catalog) (service : RawText)
    (target : String → Except Defect String) (request : Request) : Prop where
  /-- The target is built from the locator that the catalog has, -/
  located : ∃ base, catalog.serviceUrl service = .ok (some base) ∧ target base = .ok request.url
  /-- and the token is of the same catalog. -/
  token : ∃ token, request.headers.find? "X-Auth-Token" = some token
    ∧ TokenFor catalog service token

/-- **What a request owes to its call alone**, and to no catalog. -/
structure SameCall (call : Call) (request : Request) : Prop where
  method : request.method = Text.upper call.method
  body : call.body.encode = .ok request.body
  headers : request.headers.erase "X-Auth-Token" = call.ownHeaders.erase "X-Auth-Token"

/-- **How the catalog is handed from one trial to the next.** -/
inductive Handover (c : Caller) (t t' : Trial) : Prop where
  /-- After a throttling it is kept. -/
  | kept (h : t.reply.isThrottling = true) (hsame : t'.held = t.held)
  /-- After a rejection there is one in its place. -/
  | renewed (h : t.reply.isRejection = true)
      (hother : ((c.replace t.held).run t.after).1 = .ok t'.held)

/-! ## Requests for the resource -/

theorem tokenFor_tokenFor (catalog : Catalog) (service : RawText) :
    TokenFor catalog service (catalog.tokenFor service) := by
  unfold Catalog.tokenFor Json.orElse
  by_cases hservice : service = Catalog.storageService
  · rw [if_pos hservice]
    cases hthere : catalog.storageToken.truthy with
    | true => exact .storage hservice hthere
    | false => exact .noStorageToken hservice hthere
  · rw [if_neg hservice]
    exact .other hservice

section Requests

variable {c : Caller} {call : Call} {payload : Option Octets} {catalog : Catalog}
  {request : Request}

/-- A request has been built for the target of a locator of its catalog. -/
theorem exists_of_request (h : call.request payload catalog = .ok request) :
    ∃ base url, catalog.serviceUrl call.service = .ok (some base)
      ∧ Target.build base call.path call.resource = .ok url
      ∧ request = call.requestTo payload catalog url := by
  obtain ⟨_, -, hway⟩ | ⟨-, hway⟩ | ⟨_, _, -, -, hway⟩ | ⟨base, url, hurl, htarget, hway⟩ :=
    call.request_cases payload catalog
  all_goals
    rw [hway] at h
    cases h
  exact ⟨base, url, hurl, htarget, rfl⟩

/-- **A request is made from the catalog it is built with.** The token goes
into the headers last, so that no header of the caller takes its place. -/
theorem madeFrom_request (h : call.request payload catalog = .ok request) :
    MadeFrom catalog call.service (fun base => Target.build base call.path call.resource)
      request := by
  obtain ⟨base, url, hbase, htarget, rfl⟩ := exists_of_request h
  refine ⟨⟨base, hbase, htarget⟩, catalog.tokenFor call.service, ?_, tokenFor_tokenFor _ _⟩
  exact (OrderedMap.find?_put _ _ _ _).trans (if_pos (beq_self_eq_true _))

/-- The rest of it does not depend on the catalog. -/
theorem sameCall_request (hbody : call.body.encode = .ok payload)
    (h : call.request payload catalog = .ok request) : SameCall call request := by
  obtain ⟨base, url, -, -, rfl⟩ := exists_of_request h
  exact ⟨rfl, hbody, OrderedMap.erase_put _ _ _⟩

end Requests

/-! ## Trials -/

section Trials

variable {c : Caller} {call : Call} {payload : Option Octets} {held other : Issued}
  {renewals pauses : Nat} {w : Surroundings} {tried : List Trial} {moments : List Moment}
  {result : Except Failure CallResult}

/-- **Trials that hand on their catalog**, beginning with the given one, and
each ask with the request of their own. -/
structure HandedOn (c : Caller) (call : Call) (payload : Option Octets) (held : Issued)
    (tried : List Trial) : Prop where
  begins : ∀ t ∈ tried.head?, t.held = held
  sent : ∀ t ∈ tried, call.request payload t.held.catalog = .ok t.request
  handed : tried.IsChain (Handover c)

theorem HandedOn.nil : HandedOn c call payload held [] where
  begins := fun _ ht => by cases ht
  sent := List.forall_mem_nil _
  handed := .nil

/-- A trial that nothing follows hands on nothing. -/
theorem HandedOn.single {t : Trial} (hheld : t.held = held)
    (hsent : call.request payload t.held.catalog = .ok t.request) :
    HandedOn c call payload held [t] where
  begins := fun _ hs => Option.some.inj hs ▸ hheld
  sent := List.forall_mem_singleton.2 hsent
  handed := List.isChain_singleton t

/-- A trial hands on what the next one begins with. -/
theorem HandedOn.cons {t : Trial} (hheld : t.held = held)
    (hsent : call.request payload t.held.catalog = .ok t.request)
    (hnext : ∀ t', t'.held = other → Handover c t t')
    (h : HandedOn c call payload other tried) : HandedOn c call payload held (t :: tried) where
  begins := fun _ hs => Option.some.inj hs ▸ hheld
  sent := List.forall_mem_cons.2 ⟨hsent, h.sent⟩
  handed := List.isChain_cons.2 ⟨fun t' ht' => hnext t' (h.begins t' ht'), h.handed⟩

/-- **A pursuit hands on its catalog.** -/
theorem handedOn_of_pursuit (h : Pursuit c call payload held renewals pauses w moments result) :
    HandedOn c call payload held (trials moments) := by
  induction h with
  | unsent hunsent => exact .nil
  | settled hasked h =>
    rw [trials_asking hasked.answered]
    exact .single rfl hasked.sent
  | rejected hasked h hr =>
    rw [trials_asking hasked.answered]
    exact .single rfl hasked.sent
  | lost hasked h hlost =>
    rw [trials_asking hasked.answered, Course.trials_of_confined (c.replace_isSearching _)]
    exact .single rfl hasked.sent
  | renewed hasked h hother hrest ih =>
    rw [trials_asking hasked.answered, trials_append,
      Course.trials_of_confined (c.replace_isSearching _), List.nil_append]
    exact .cons rfl hasked.sent (fun t' ht' => .renewed h (ht' ▸ hother)) ih
  | throttled hasked h hr ht =>
    rw [trials_asking hasked.answered]
    exact .single rfl hasked.sent
  | endless hasked h hr ht hdelay =>
    rw [trials_asking hasked.answered]
    exact .single rfl hasked.sent
  | paused hasked h hrest ih =>
    rw [trials_asking hasked.answered, trials_pause]
    exact .cons rfl hasked.sent (fun t' ht' => .kept h ht') ih

end Trials

/-! ## Probes -/

/-- **A probe that is made from one catalog**, which is the one found in the
cache. It asks the first of the services it may ask that the catalog has. -/
structure Probes (c : Caller) (found : Option Issued) (held : Issued) (request : Request) :
    Prop where
  cached : found = some held
  asks : ∃ front service back,
    (c.probe.service : RawText) :: held.catalog.endpoints.keys = front ++ service :: back
      ∧ (∀ other ∈ front, held.catalog.serviceUrl other = .ok none)
      ∧ MadeFrom held.catalog service (fun base => Target.build base c.probe.path none) request

/-- If a moment is a probe, it is made from the catalog found in the cache. -/
def ProbesFrom (c : Caller) (found : Option Issued) (m : Moment) : Prop :=
  ∀ held request, m.act = .send (.probe held) request → Probes c found held request

/-- Only a request with the purpose of one is a probe. -/
theorem probesFrom_of_isRenewing {c : Caller} {found : Option Issued} {m : Moment}
    (h : m.act.isRenewing = true) : ProbesFrom c found m := by
  intro held request hact
  rw [hact] at h
  cases h

theorem probesFrom_asking {c : Caller} {found : Option Issued} (held : Issued)
    (request : Request) (w : Surroundings) : ProbesFrom c found (.asking held request w) := by
  intro used probe hact
  cases hact

theorem probesFrom_pause {c : Caller} {found : Option Issued} (w : Surroundings)
    (delay : Binary64) : ProbesFrom c found ⟨w, .pause delay⟩ := by
  intro used probe hact
  cases hact

/-- The first service that is located comes after some that are not. -/
theorem split_of_firstLocated {catalog : Catalog} {services : List RawText} {service : RawText}
    {base : String} (h : Caller.firstLocated catalog services = .ok (some (service, base))) :
    ∃ front back, services = front ++ service :: back
      ∧ (∀ other ∈ front, catalog.serviceUrl other = .ok none)
      ∧ catalog.serviceUrl service = .ok (some base) := by
  induction services with
  | nil => cases h
  | cons first more ih =>
    rw [Caller.firstLocated] at h
    cases hurl : catalog.serviceUrl first with
    | error defect => rw [hurl] at h; cases h
    | ok base? =>
      rw [hurl] at h
      cases base? with
      | some base' =>
        cases h
        exact ⟨[], more, rfl, List.forall_mem_nil _, hurl⟩
      | none =>
        obtain ⟨front, back, rfl, hfront, hservice⟩ := ih h
        exact ⟨first :: front, back, rfl, List.forall_mem_cons.2 ⟨hurl, hfront⟩, hservice⟩

section Searches

variable {c : Caller} {found : Option Issued} {held : Issued} {w : Surroundings}

/-- Getting another catalog takes no probe. -/
theorem probesFrom_of_confined {α : Type} {p : Course α} (h : p.Confined (·.isRenewing = true)) :
    ∀ m ∈ p.history w, ProbesFrom c found m :=
  fun _ hm => probesFrom_of_isRenewing (h.of_mem_history hm)

/-- **A probe takes locator and token from the catalog that is put to the
test.** -/
theorem probesFrom_accepts (hfound : found = some held) :
    ∀ m ∈ (c.accepts held).history w, ProbesFrom c found m := by
  unfold Caller.accepts
  split
  · exact List.forall_mem_nil _
  · exact List.forall_mem_nil _
  · rename_i service base hprobed
    obtain ⟨front, back, hservices, hfront, hbase⟩ := split_of_firstLocated hprobed
    refine List.forall_mem_singleton.2 fun used request hact => ?_
    cases hact
    refine ⟨hfound, front, service, back, hservices, hfront, ⟨base, hbase, rfl⟩, ?_⟩
    refine ⟨held.catalog.tokenFor service, ?_, tokenFor_tokenFor _ _⟩
    exact (OrderedMap.find?_put _ _ _ _).trans (if_pos (beq_self_eq_true _))

theorem probesFrom_recheck (hfound : found = some held) :
    ∀ m ∈ (c.recheck held).history w, ProbesFrom c found m := by
  unfold Caller.recheck
  rw [Course.history_andThen]
  refine List.forall_mem_append.2 ⟨probesFrom_of_confined c.wantsProbe_isRenewing, ?_⟩
  cases (c.wantsProbe.run w).1 with
  | false => exact List.forall_mem_nil _
  | true =>
    rw [Course.history_andThen]
    refine List.forall_mem_append.2 ⟨probesFrom_accepts hfound, ?_⟩
    rcases ((c.accepts held).run (c.wantsProbe.run w).2).1 with failure | (_ | _)
    · exact List.forall_mem_nil _
    · rw [Course.history_does]
      exact List.forall_mem_cons.2 ⟨probesFrom_of_isRenewing rfl,
        probesFrom_of_confined c.authenticateOnce_isRenewing⟩
    · exact List.forall_mem_nil _

/-- **At the beginning of a call** a probe puts to the test what has been found
in the cache. -/
theorem probesFrom_resolve :
    ∀ m ∈ c.resolve.history w, ProbesFrom c (w.lookup c.key).1 m := by
  cases hfound : (w.lookup c.key).1 with
  | some held =>
    rw [(Caller.resolve_of_found hfound).1]
    exact List.forall_mem_cons.2 ⟨probesFrom_of_isRenewing rfl, probesFrom_recheck rfl⟩
  | none =>
    rw [(Caller.resolve_of_missing hfound).1]
    exact List.forall_mem_cons.2 ⟨probesFrom_of_isRenewing rfl,
      probesFrom_of_confined c.authenticateOnce_isRenewing⟩

/-- A pursuit takes no probe. -/
theorem probesFrom_of_pursuit {call : Call} {payload : Option Octets} {renewals pauses : Nat}
    {moments : List Moment} {result : Except Failure CallResult}
    (h : Pursuit c call payload held renewals pauses w moments result) :
    ∀ m ∈ moments, ProbesFrom c found m := by
  induction h with
  | unsent => exact List.forall_mem_nil _
  | settled => exact List.forall_mem_singleton.2 (probesFrom_asking _ _ _)
  | rejected => exact List.forall_mem_singleton.2 (probesFrom_asking _ _ _)
  | lost =>
    exact List.forall_mem_cons.2 ⟨probesFrom_asking _ _ _,
      probesFrom_of_confined (c.replace_isRenewing _)⟩
  | renewed hasked h hother hrest ih =>
    refine List.forall_mem_cons.2 ⟨probesFrom_asking _ _ _, List.forall_mem_append.2 ⟨?_, ih⟩⟩
    exact probesFrom_of_confined (c.replace_isRenewing _)
  | throttled => exact List.forall_mem_singleton.2 (probesFrom_asking _ _ _)
  | endless => exact List.forall_mem_singleton.2 (probesFrom_asking _ _ _)
  | paused hasked h hrest ih =>
    exact List.forall_mem_cons.2 ⟨probesFrom_asking _ _ _,
      List.forall_mem_cons.2 ⟨probesFrom_pause _ _, ih⟩⟩

end Searches

/-! ## The whole call -/

section WholeCall

variable (c : Caller) (call : Call) (w : Surroundings)

/-- The trials of a call hand on the catalog that the search at the beginning
has ended with. -/
theorem handedOn_of_perform :
    trials ((c.perform call).history w) = []
      ∨ ∃ payload held, call.body.encode = .ok payload ∧ (c.catalog w).1 = .ok held
        ∧ HandedOn c call payload held (trials ((c.perform call).history w)) := by
  cases hbody : call.body.encode with
  | error defect =>
    unfold Caller.perform
    rw [hbody]
    exact .inl rfl
  | ok payload =>
    rw [c.perform_of_encode hbody]
    have hsearch := Course.trials_of_confined c.resolve_isSearching w
    rcases performWith_cases c call payload w with
      ⟨failure, -, hhistory, -⟩ | ⟨held, rest, hobtained, hhistory, hpursuit⟩
    · rw [hhistory]
      exact .inl hsearch
    · rw [hhistory, trials_append, hsearch, List.nil_append]
      exact .inr ⟨payload, held, rfl, hobtained, handedOn_of_pursuit hpursuit⟩

/-- A probe of a call puts to the test what has been found in the cache. -/
theorem probesFrom_perform :
    ∀ m ∈ (c.perform call).history w, ProbesFrom c (w.lookup c.key).1 m := by
  cases hbody : call.body.encode with
  | error defect =>
    unfold Caller.perform
    rw [hbody]
    exact List.forall_mem_nil _
  | ok payload =>
    rw [c.perform_of_encode hbody]
    rcases performWith_cases c call payload w with
      ⟨failure, -, hhistory, -⟩ | ⟨held, rest, -, hhistory, hpursuit⟩
    · rw [hhistory]
      exact probesFrom_resolve
    · rw [hhistory]
      exact List.forall_mem_append.2 ⟨probesFrom_resolve, probesFrom_of_pursuit hpursuit⟩

end WholeCall

/-- **Token and locator never come from two catalogs.** Whatever the cache
holds, whatever others store there, whatever the caller puts into its headers
and however the other side replies: each trial asks for the target that its
catalog gives for the service, with the token of that catalog. The first trial
has the catalog that the search at the beginning has ended with, and each trial
hands it on to the next as `Handover` says. Method, body and all other headers
are the same throughout. And a probe is made from the catalog that the cache
had at the beginning, for the first service that this catalog has. -/
theorem one_catalog_per_request (c : Caller) (call : Call) (w : Surroundings) :
    let moments := (c.perform call).history w
    let tried := trials moments
    (c.execute call w).2.events = w.events ++ moments.filterMap Moment.event? ∧
    (∀ t ∈ tried, MadeFrom t.held.catalog call.service
      (fun base => Target.build base call.path call.resource) t.request) ∧
    (∀ t ∈ tried.head?, (c.catalog w).1 = .ok t.held) ∧
    tried.IsChain (Handover c) ∧
    (∀ t ∈ tried, SameCall call t.request) ∧
    (∀ m ∈ moments, ∀ held request, m.act = .send (.probe held) request →
      Probes c (w.lookup c.key).1 held request) := by
  intro moments tried
  have hevents : (c.execute call w).2.events
      = w.events ++ moments.filterMap Moment.event? := Course.events_run _ w
  have hprobes := probesFrom_perform c call w
  rcases handedOn_of_perform c call w with htried | ⟨payload, held, hbody, hobtained, hhanded⟩
  · have hnone : tried = [] := htried
    rw [hnone]
    exact ⟨hevents, List.forall_mem_nil _, fun _ ht => absurd ht (Option.not_mem_none _), .nil,
      List.forall_mem_nil _, hprobes⟩
  · refine ⟨hevents, fun t ht => madeFrom_request (hhanded.sent t ht), fun t ht => ?_,
      hhanded.handed, fun t ht => sameCall_request hbody (hhanded.sent t ht), hprobes⟩
    rw [hhanded.begins t ht]
    exact hobtained

end CloudClient.RequestCatalog
