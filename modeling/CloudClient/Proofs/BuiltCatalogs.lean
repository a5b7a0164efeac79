import CloudClient.Proofs.MissingVersions
import CloudClient.Proofs.RegionalAuthentication

/-!
# Catalogs are built

A catalog has no empty locator, and `Catalog.make` refuses a map that has one.
The refusal is a safeguard against mistakes of this library and nothing that a
cloud should be able to bring about: it would turn credentials that have just
been accepted into a failed login. Maps are filled on three ways, each of which
sets blank locators aside in its own fashion. A resolution passes over
candidates without one (`noneEmpty_resolve`); blank headers count as missing;
and a locator that is completed has its ending at least
(`RegionalHeaders.noneEmpty_learn`).

`Dialect.Makes` says with which map an attempt comes to make a catalog, if it
does, and `Builds` that it succeeds then, and in no other case, and that no
attempt fails for an empty locator. For the last a fault has to be followed from
where it arises. What is wrong with an answer is a fault of the cloud
(`Fault.IsCloud`), and the one matter of the library itself that an answer can
bring up is a version.
-/

namespace CloudClient

/-! ## Resolutions -/

namespace Resolution

variable {rule : RegionRule} {p p' : Progress} {c : Candidate}

theorem noneEmpty_place (h : p.result.endpoints.NoneEmpty) (hurl : c.url ≠ "")
    (hplace : p.place c = .ok p') : p'.result.endpoints.NoneEmpty := by
  unfold Progress.place at hplace
  split at hplace
  · split at hplace
    · cases hplace
    · cases hplace
      exact h.set c.service c.region hurl
    · cases hplace
      exact h
  · cases hplace

/-- **One candidate** puts no empty locator into the map. -/
theorem noneEmpty_take (h : p.result.endpoints.NoneEmpty) (htake : p.take rule c = .ok p') :
    p'.result.endpoints.NoneEmpty := by
  rw [take_eq] at htake
  have hconsidered := considered rule c
  generalize consider rule c = result at hconsidered htake
  cases hconsidered with
  | unlocated | unsupported | leftOut =>
    cases htake
    exact h
  | undated | unsettled | keyless => cases htake
  | admitted hurl _ _ hsettle =>
    refine noneEmpty_place h ?_ htake
    rw [(RegionRule.settle_eq_some hsettle).1]
    exact hurl

/-- A run puts none into it either. -/
theorem noneEmpty_foldlM {candidates : List Candidate} (h : p.result.endpoints.NoneEmpty)
    (hrun : candidates.foldlM (Progress.take rule) p = .ok p') :
    p'.result.endpoints.NoneEmpty := by
  induction candidates generalizing p with
  | nil =>
    cases hrun
    exact h
  | cons c more ih =>
    rw [List.foldlM_cons] at hrun
    cases htake : p.take rule c with
    | error failure =>
      rw [htake] at hrun
      cases hrun
    | ok taken =>
      rw [htake] at hrun
      exact ih (noneEmpty_take h htake) hrun

/-- **No resolution has an empty locator.** -/
theorem noneEmpty_resolve {candidates : List Candidate} {resolution : Resolution}
    (h : resolve rule candidates = .ok resolution) : resolution.endpoints.NoneEmpty := by
  unfold resolve at h
  cases hrun : candidates.foldlM (Progress.take rule) Progress.start with
  | error failure =>
    rw [hrun] at h
    cases h
  | ok p =>
    rw [hrun] at h
    cases h
    exact noneEmpty_foldlM EndpointMap.noneEmpty_empty hrun

/-- The one fault of a resolution is a version that cannot be read. -/
theorem exists_badVersion_of_resolve {candidates : List Candidate} {f : Fault}
    (h : resolve rule candidates = .error (.fault f)) :
    ∃ text cause, f = .badVersion text cause := by
  obtain ⟨failure, hfails, hrun⟩ | ⟨-, p, hrun, -⟩ := resolve_seats rule candidates
  · rw [hrun] at h
    cases h
    obtain ⟨c, -, hc⟩ := hfails.exists_mem
    cases consider_eq_iff.1 hc with
    | undated _ hread => exact ⟨_, Version.readText_eq_error hread⟩
  · rw [hrun] at h
    cases h

end Resolution

/-! ## Where faults come from -/

/-- **A fault of the cloud**, or of the way to it. -/
inductive Fault.IsCloud : Fault → Prop where
  | intro (role : CloudRole) (code : Int) (kind : FaultKind) (message explanation : String)
      (cause : Option Cause) : IsCloud (.cloud role code kind message explanation cause)

/-- **The fault of a catalog with an empty locator.** -/
inductive Fault.IsEmptyLocator : Fault → Prop where
  | intro (service : RawText) (region : Region) (details : List (String × Json))
      (cause : Option Cause) : IsEmptyLocator (.internal (.emptyLocator service region) details cause)

theorem Fault.IsCommunication.isCloud {f : Fault} (h : f.IsCommunication) : f.IsCloud := by
  cases h
  exact .intro ..

theorem Fault.IsCloud.not_isEmptyLocator {f : Fault} (h : f.IsCloud) : ¬ f.IsEmptyLocator := by
  intro hempty
  cases h
  cases hempty

theorem Outcome.isCloud_faultOf (place : String) (report : Option ErrorReport) :
    (faultOf place report).IsCloud := by
  cases report <;> exact .intro ..

namespace Identity

variable {f : Fault} {v : Json}

theorem isCommunication_of_candidates {kind : RawText} (h : candidates kind v = .error (.fault f)) :
    f.IsCommunication := by
  unfold candidates at h
  split at h
  · rename_i hshape
    cases h
    exact isCommunication_of_object hshape
  · simp only at h
    split at h
    · split at h
      · rename_i hshape
        cases h
        exact isCommunication_of_text hshape
      · split at h <;> cases h
    · cases h

theorem isCommunication_of_serviceCandidates {service : List (RawText × Json)} {kind : RawText}
    (h : serviceCandidates service kind = .error (.fault f)) : f.IsCommunication := by
  unfold serviceCandidates at h
  split at h
  · rename_i hshape
    cases h
    exact isCommunication_of_array hshape
  · obtain ⟨entry, -, hentry⟩ := (gather_eq_error_iff.1 h).exists_mem
    exact isCommunication_of_candidates hentry

theorem isCommunication_of_candidatesOf (h : candidatesOf v = .error (.fault f)) : f.IsCommunication := by
  unfold candidatesOf at h
  split at h
  · rename_i hshape
    cases h
    exact isCommunication_of_object hshape
  · simp only at h
    split at h
    · split at h
      · rename_i hshape
        cases h
        exact isCommunication_of_text hshape
      · exact isCommunication_of_serviceCandidates h
    · cases h

/-- **What is wrong with a document of access** before it is resolved is its
own fault. -/
theorem isCommunication_of_read {account answer : String}
    (h : Grant.read account answer = .error (.fault f)) : f.IsCommunication := by
  obtain ⟨-, hread⟩ | ⟨f', hf', hread⟩ | ⟨services, hlisted⟩ := listed_or_failed account answer
  · rw [hread] at h
    cases h
  · rw [hread] at h
    cases h
    exact hf'
  · obtain ⟨token, tenant, hread⟩ := read_of_listed hlisted
    rw [hread] at h
    cases hgathered : gather candidatesOf services with
    | error failure =>
      rw [hgathered] at h
      cases h
      obtain ⟨service, -, hservice⟩ := (gather_eq_error_iff.1 hgathered).exists_mem
      exact isCommunication_of_candidatesOf hservice
    | ok candidates =>
      rw [hgathered] at h
      cases h

end Identity

/-! ## Where catalogs are made -/

/-- **A catalog is made whenever it comes to that**: of a map in which no
locator is empty, and there is no catalog otherwise. -/
structure Builds (makes : EndpointMap → Prop) (gives : Catalog → Prop) (fails : Fault → Prop) :
    Prop where
  /-- The maps that are passed on have no empty locators. -/
  filled : ∀ m, makes m → m.NoneEmpty
  /-- They become catalogs. -/
  built : ∀ m, makes m → ∃ c, gives c ∧ c.endpoints = m
  /-- And every catalog is one that was made so. -/
  made : ∀ c, gives c → makes c.endpoints
  /-- Nothing fails for an empty locator. -/
  spared : ∀ f, fails f → ¬ f.IsEmptyLocator

namespace Builds

variable {makes makes' : EndpointMap → Prop} {gives gives' : Catalog → Prop}
  {fails fails' : Fault → Prop}

theorem of_catalog {c : Catalog} (hmakes : ∀ m, makes m ↔ c.endpoints = m)
    (hgives : ∀ c', gives c' ↔ c = c') (hfails : ∀ f, ¬ fails f) : Builds makes gives fails where
  filled m h := (hmakes m).1 h ▸ c.locators_nonempty
  built m h := ⟨c, (hgives c).2 rfl, (hmakes m).1 h⟩
  made c' h := (hmakes c'.endpoints).2 (congrArg Catalog.endpoints ((hgives c').1 h))
  spared f h := absurd h (hfails f)

theorem of_none (hmakes : ∀ m, ¬ makes m) (hgives : ∀ c, ¬ gives c)
    (hspared : ∀ f, fails f → ¬ f.IsEmptyLocator) : Builds makes gives fails where
  filled m h := absurd h (hmakes m)
  built m h := absurd h (hmakes m)
  made c h := absurd h (hgives c)
  spared := hspared

theorem congr (h : Builds makes gives fails) (hmakes : ∀ m, makes' m ↔ makes m)
    (hgives : ∀ c, gives' c ↔ gives c) (hfails : ∀ f, fails' f → fails f) :
    Builds makes' gives' fails' where
  filled m hm := h.filled m ((hmakes m).1 hm)
  built m hm := by
    obtain ⟨c, hc, hendpoints⟩ := h.built m ((hmakes m).1 hm)
    exact ⟨c, (hgives c).2 hc, hendpoints⟩
  made c hc := (hmakes c.endpoints).2 (h.made c ((hgives c).1 hc))
  spared f hf := h.spared f (hfails f hf)

/-! One lemma for each way in which an attempt ends. -/

section Outcomes

variable {outcome : Except Defect Outcome}

theorem of_defect {defect : Defect} (h : outcome = .error defect) (hmakes : ∀ m, ¬ makes m) :
    Builds makes (fun c => outcome = .ok (.authenticated c))
      fun f => outcome = .ok (.failed f) := by
  subst h
  refine .of_none hmakes (fun c hc => ?_) fun f hf => ?_
  · cases hc
  · cases hf

theorem of_failed {f : Fault} (h : outcome = .ok (.failed f)) (hf : f.IsCloud)
    (hmakes : ∀ m, ¬ makes m) :
    Builds makes (fun c => outcome = .ok (.authenticated c))
      fun f => outcome = .ok (.failed f) := by
  subst h
  refine .of_none hmakes (fun c hc => ?_) fun f' hf' => ?_
  · cases hc
  · cases hf'
    exact hf.not_isEmptyLocator

theorem of_authenticated {c : Catalog} (h : outcome = .ok (.authenticated c))
    (hmakes : ∀ m, makes m ↔ c.endpoints = m) :
    Builds makes (fun c => outcome = .ok (.authenticated c))
      fun f => outcome = .ok (.failed f) := by
  subst h
  refine .of_catalog hmakes (fun c' => ?_) fun f hf => ?_
  · simp
  · cases hf

end Outcomes

end Builds

namespace Identity

/-- **The map that a document comes to**: the grant can be read, and its
candidates are resolved. -/
inductive Makes (s : Session) (answer : String) : EndpointMap → Prop where
  | intro {grant : Grant} {resolution : Resolution} (hread : Grant.read s.account answer = .ok grant)
      (hresolve : Resolution.resolve (regionRule s) grant.candidates = .ok resolution) :
      Makes s answer resolution.endpoints

/-- **A document of access** that comes to a map becomes a catalog. -/
theorem builds_catalogOf (s : Session) (answer : String) :
    Builds (Makes s answer) (fun c => catalogOf s answer = .ok c)
      (fun f => catalogOf s answer = .error (.fault f)) := by
  unfold catalogOf
  cases hread : Grant.read s.account answer with
  | error failure =>
    refine .of_none (fun m h => ?_) nofun fun f hf => ?_
    · cases h with
      | intro hgrant =>
        rw [hread] at hgrant
        cases hgrant
    · cases hf
      exact (isCommunication_of_read hread).isCloud.not_isEmptyLocator
  | ok grant =>
    have hmakes (m : EndpointMap) : Makes s answer m ↔ ∃ resolution,
        Resolution.resolve (regionRule s) grant.candidates = .ok resolution
          ∧ resolution.endpoints = m := by
      constructor
      · rintro ⟨hgrant, hresolve⟩
        obtain rfl := Except.ok.inj (hread.symm.trans hgrant)
        exact ⟨_, hresolve, rfl⟩
      · rintro ⟨resolution, hresolve, rfl⟩
        exact .intro hread hresolve
    simp only [Grant.toCatalog]
    cases hresolve : Resolution.resolve (regionRule s) grant.candidates with
    | error failure =>
      refine .of_none (fun m h => ?_) nofun fun f hf => ?_
      · obtain ⟨resolution, hresolve', -⟩ := (hmakes m).1 h
        rw [hresolve] at hresolve'
        cases hresolve'
      · cases hf
        obtain ⟨text, cause, rfl⟩ := Resolution.exists_badVersion_of_resolve hresolve
        exact nofun
    | ok resolution =>
      obtain ⟨c, hmake, -, -, -, -, hendpoints⟩ := Catalog.make_of_noneEmpty grant.token
        grant.tenant (homeRegion s resolution) none (Resolution.noneEmpty_resolve hresolve)
      simp only [hmake]
      refine .of_catalog (c := c) (fun m => ?_) (fun c' => ?_) nofun
      · rw [hmakes, hresolve, hendpoints]
        simp
      · simp

end Identity

/-! ## Attempts -/

open RegionalHeaders (IsHome Succeeds Passes answerAt? learnt homeOf)

/-- **The map with which an attempt comes to make a catalog.** -/
inductive Dialect.Makes (s : Session) (endpoint : String) (replies : List Reply) :
    Dialect → EndpointMap → Prop where
  /-- The answer is a document of access that comes to the map. -/
  | identity {credentials : Json} {answer : Response} {m : EndpointMap}
      (hcredentials : Identity.credentials s = .ok credentials)
      (hanswer : replies.head? = some (.response answer))
      (hcode : answer.status = Identity.successCode) (h : Identity.Makes s answer.text m) :
      Makes s endpoint replies .identity m
  /-- The first endpoint in the home region is reached with successes, and gives
  a token. The map is what has been learnt up to there. -/
  | regional {k : RegionalHeaders.Keys} {i : Nat} {answer : Response}
      (hkeys : RegionalHeaders.keys s = .ok k)
      (hhome : IsHome (EndpointList.all endpoint) (homeOf (EndpointList.all endpoint) s) i)
      (hsucceed : ∀ j ≤ i, Succeeds replies j) (hanswer : answerAt? replies i = some answer)
      (htoken : (answer.header? ServiceHeaders.tokenHeader).isSome = true) :
      Makes s endpoint replies .regional (learnt (EndpointList.all endpoint) replies (i + 1))
  /-- The answer is a success with a token. The map is what its headers say. -/
  | storage {userName privateKey region : String} {answer : Response}
      (huser : StorageHeaders.user s = .ok userName) (hkey : s.privateText = .ok privateKey)
      (hanswer : replies.head? = some (.response answer))
      (hcode : ServiceHeaders.successCodes.contains answer.status = true)
      (htoken : (answer.header? ServiceHeaders.tokenHeader).isSome = true)
      (hregion : Region.infer (EndpointList.first endpoint) = .ok region) :
      Makes s endpoint replies .storage
        (ServiceHeaders.collect answer (Region.named region) .empty)

/-- An attempt makes a catalog when it comes to that. -/
abbrev Dialect.Builds (s : Session) (endpoint : String) (replies : List Reply) (d : Dialect) :
    Prop :=
  CloudClient.Builds (d.Makes s endpoint replies)
    (fun c => ((d.attempt s endpoint).hold replies).outcome = .ok (.authenticated c))
    (fun f => ((d.attempt s endpoint).hold replies).outcome = .ok (.failed f))

/-- What a single exchange comes to. -/
theorem Conversation.exchange_cases {α : Type} (request : Request) (onFault : Fault → α)
    (onResponse : Response → α) (replies : List Reply) :
    (∃ answer, replies.head? = some (.response answer)
        ∧ ((exchange request (fun fault => .ended (onFault fault))
          fun answer => .ended (onResponse answer)).hold replies).outcome = onResponse answer)
      ∨ (∀ answer, replies.head? ≠ some (.response answer))
        ∧ ∃ failure, ((exchange request (fun fault => .ended (onFault fault))
          fun answer => .ended (onResponse answer)).hold replies).outcome
            = onFault (.network request.method request.url failure) := by
  cases replies with
  | nil => exact .inr ⟨nofun, _, rfl⟩
  | cons reply more =>
    cases reply with
    | response answer => exact .inl ⟨answer, rfl, rfl⟩
    | failure failure => exact .inr ⟨nofun, failure, rfl⟩

section Attempts

variable {s : Session} {endpoint : String} {replies : List Reply}

/-- An attempt that is not even begun comes to no catalog. -/
theorem Dialect.Builds.of_error {d : Dialect} (defect : Defect)
    (hattempt : d.attempt s endpoint = .ended (.error defect))
    (hmakes : ∀ m, ¬ d.Makes s endpoint replies m) : d.Builds s endpoint replies := by
  unfold Dialect.Builds
  rw [hattempt]
  exact .of_defect rfl hmakes

/-- **An attempt of one exchange** makes a catalog when it comes to that, if each
answer by itself does. -/
theorem Dialect.Builds.of_exchange {d : Dialect} {request : Request}
    {judge : Response → Except Defect Outcome}
    (hattempt : d.attempt s endpoint
      = .exchange request (fun fault => .ended (.ok (.failed fault)))
        fun answer => .ended (judge answer))
    (hmakes : ∀ m, d.Makes s endpoint replies m →
      ∃ answer, replies.head? = some (.response answer))
    (h : ∀ answer, replies.head? = some (.response answer) →
      CloudClient.Builds (d.Makes s endpoint replies)
        (fun c => judge answer = .ok (.authenticated c))
        fun f => judge answer = .ok (.failed f)) : d.Builds s endpoint replies := by
  unfold Dialect.Builds
  rw [hattempt]
  obtain ⟨answer, hanswer, houtcome⟩ | ⟨hnone, failure, houtcome⟩ :=
    Conversation.exchange_cases request (fun fault => .ok (.failed fault)) judge replies
  · rw [houtcome]
    exact h answer hanswer
  · refine .of_failed houtcome (.intro ..) fun m hm => ?_
    obtain ⟨answer, hanswer⟩ := hmakes m hm
    exact hnone answer hanswer

/-! ### At an identity service -/

theorem Identity.builds_attempt : Dialect.identity.Builds s endpoint replies := by
  cases hcredentials : credentials s with
  | error defect =>
    refine .of_error defect ?_ fun m h => ?_
    · show attempt s endpoint = _
      rw [attempt, hcredentials]
    · cases h with
      | identity hcredentials' =>
        rw [hcredentials] at hcredentials'
        cases hcredentials'
  | ok credentials =>
    have hattempt : Dialect.identity.attempt s endpoint
        = .exchange (request endpoint credentials) (fun fault => .ended (.ok (.failed fault)))
          fun answer => .ended (judge s answer) := by
      show attempt s endpoint = _
      rw [attempt, hcredentials]
    refine .of_exchange hattempt (fun m h => ?_) fun answer hanswer => ?_
    · cases h with
      | identity _ hanswer => exact ⟨_, hanswer⟩
    by_cases hcode : answer.status = successCode
    · -- the document decides
      unfold judge
      rw [if_pos hcode]
      refine (builds_catalogOf s answer.text).congr (fun m => ⟨fun h => ?_, fun h => ?_⟩)
        (fun c => ?_) fun f hf => ?_
      · cases h with
        | identity _ hanswer' _ h =>
          rw [hanswer] at hanswer'
          cases hanswer'
          exact h
      · exact .identity hcredentials hanswer hcode h
      · rcases catalogOf s answer.text with (fault | defect) | catalog <;>
          simp [Except.map, Outcome.settle]
      · revert hf
        rcases catalogOf s answer.text with (fault | defect) | catalog <;>
          simp [Except.map, Outcome.settle]
    · unfold judge
      rw [if_neg hcode]
      have hrefused := refused answer
      generalize refuse answer = outcome at hrefused ⊢
      refine .of_none (fun m h => ?_) (fun c hc => ?_) fun f hf => ?_
      · cases h with
        | identity _ hanswer' hcode' =>
          rw [hanswer] at hanswer'
          cases hanswer'
          exact hcode hcode'
      · rw [hc] at hrefused
        cases hrefused
      · rw [hf] at hrefused
        cases hrefused with
        | failed report => exact (Outcome.isCloud_faultOf tokensPath report).not_isEmptyLocator

/-! ### At an object store -/

theorem ServiceHeaders.isCloud_of_refusal? {answer : Response} {url : String} {f : Fault}
    (h : refusal? answer url = .ok (some (.failed f))) : f.IsCloud := by
  have hrefused := refused answer url
  rw [h] at hrefused
  cases hrefused with
  | failed report => exact Outcome.isCloud_faultOf url report

/-- The answer of an object store by itself. -/
theorem StorageHeaders.builds_judge (account url : String) (answer : Response) :
    Builds
      (fun m => ServiceHeaders.successCodes.contains answer.status = true
        ∧ (answer.header? ServiceHeaders.tokenHeader).isSome = true
        ∧ ∃ region, Region.infer url = .ok region
          ∧ ServiceHeaders.collect answer (Region.named region) .empty = m)
      (fun c => Outcome.settle (judge account url answer) = .ok (.authenticated c))
      fun f => Outcome.settle (judge account url answer) = .ok (.failed f) := by
  unfold judge
  cases hrefusal : ServiceHeaders.refusal? answer url with
  | error defect =>
    have hcode := ServiceHeaders.successCodes_eq_false hrefusal (by simp)
    exact .of_defect rfl fun m h => Bool.false_ne_true (hcode.symm.trans h.1)
  | ok refusal =>
    cases refusal with
    | some outcome =>
      have hcode := ServiceHeaders.successCodes_eq_false hrefusal (by simp)
      refine .of_none (fun m h => ?_) (fun c hc => ?_) fun f hf => ?_
      · exact Bool.false_ne_true (hcode.symm.trans h.1)
      · obtain rfl : outcome = .authenticated c := Except.ok.inj hc
        have hrefused := ServiceHeaders.refused answer url
        rw [hrefusal] at hrefused
        cases hrefused
      · obtain rfl : outcome = .failed f := Except.ok.inj hf
        exact (ServiceHeaders.isCloud_of_refusal? hrefusal).not_isEmptyLocator
    | none =>
      have hcode := ServiceHeaders.successCodes_of_refusal? hrefusal
      simp only [finish]
      cases htoken : answer.header? ServiceHeaders.tokenHeader with
      | none =>
        refine .of_failed rfl (.intro ..) fun m h => ?_
        cases h.2.1
      | some token =>
        cases hregion : Region.infer url with
        | error fault =>
          refine .of_defect rfl fun m h => ?_
          obtain ⟨-, -, region, hregion', -⟩ := h
          cases hregion'
        | ok region =>
          obtain ⟨c, hmake, -, -, -, -, hendpoints⟩ := Catalog.make_of_noneEmpty (.str token)
            (.str account) (Region.named region)
            ((answer.header? ServiceHeaders.storageTokenHeader).map fun token => .str token)
            (ServiceHeaders.noneEmpty_collect answer (Region.named region)
              EndpointMap.noneEmpty_empty)
          simp only [ServiceHeaders.catalogOf, hmake]
          refine .of_authenticated rfl fun m => ?_
          rw [hendpoints]
          constructor
          · rintro ⟨-, -, region', hregion', rfl⟩
            cases hregion'
            rfl
          · rintro rfl
            exact ⟨hcode, rfl, region, rfl, rfl⟩

theorem StorageHeaders.builds_attempt : Dialect.storage.Builds s endpoint replies := by
  cases huser : user s with
  | error defect =>
    refine .of_error defect ?_ fun m h => ?_
    · show attempt s endpoint = _
      simp only [attempt, huser]
    · cases h with
      | storage huser' =>
        rw [huser] at huser'
        cases huser'
  | ok userName =>
    cases hkey : s.privateText with
    | error defect =>
      refine .of_error defect ?_ fun m h => ?_
      · show attempt s endpoint = _
        simp only [attempt, huser, hkey]
      · cases h with
        | storage _ hkey' =>
          rw [hkey] at hkey'
          cases hkey'
    | ok privateKey =>
      have hattempt : Dialect.storage.attempt s endpoint
          = .exchange (request (EndpointList.first endpoint) userName privateKey)
            (fun fault => .ended (.ok (.failed fault)))
            fun answer => .ended
              (Outcome.settle (judge s.account (EndpointList.first endpoint) answer)) := by
        show attempt s endpoint = _
        simp only [attempt, huser, hkey]
        rfl
      refine .of_exchange hattempt (fun m h => ?_) fun answer hanswer => ?_
      · cases h with
        | storage _ _ hanswer => exact ⟨_, hanswer⟩
      refine (builds_judge s.account (EndpointList.first endpoint) answer).congr
        (fun m => ⟨fun h => ?_, ?_⟩) (fun _ => Iff.rfl) fun _ => id
      · cases h with
        | storage _ _ hanswer' hcode htoken hregion =>
          rw [hanswer] at hanswer'
          cases hanswer'
          exact ⟨hcode, htoken, _, hregion, rfl⟩
      · rintro ⟨hcode, htoken, region, hregion, rfl⟩
        exact .storage huser hkey hanswer hcode htoken hregion

/-! ### Region by region -/

namespace RegionalHeaders

/-- No round fails for an empty locator, since none is ever in the map. -/
theorem spared_ask (account : String) (k : Keys) (urls : List String) :
    ∀ (home : Option String) {endpoints : EndpointMap} (last : Option (Request × Reply)),
      endpoints.NoneEmpty → (ask account k home endpoints urls).Ends
        (fun _ outcome => ∀ f, outcome = .ok (.failed f) → ¬ f.IsEmptyLocator) last := by
  induction urls with
  | nil =>
    intro _ _ _ _
    refine .ended fun f hf => ?_
    cases hf
    exact Fault.IsCloud.not_isEmptyLocator (.intro ..)
  | cons url more ih =>
    intro home endpoints last hfilled
    refine .exchange (fun failure => .ended fun f hf => ?_) fun answer => ?_
    · cases hf
      exact Fault.IsCloud.not_isEmptyLocator (.intro ..)
    · split
      · exact .ended nofun
      · rename_i outcome hrefusal
        refine .ended fun f hf => ?_
        obtain rfl : outcome = .failed f := Except.ok.inj hf
        exact (ServiceHeaders.isCloud_of_refusal? hrefusal).not_isEmptyLocator
      · split
        · exact .ended nofun
        · rename_i region _
          have hlearnt := noneEmpty_learn url region answer hfilled
          simp only
          split
          · refine .ended fun f hf => ?_
            obtain ⟨-, hfinish⟩ | ⟨token, c, -, hfinish, -⟩ :=
              finish_cases account (home.getD region) hlearnt answer
            · rw [hfinish] at hf
              cases hf
              exact Fault.IsCloud.not_isEmptyLocator (.intro ..)
            · rw [hfinish] at hf
              cases hf
          · exact ih _ _ hlearnt

/-- The round by itself. -/
theorem builds_of_course {account : String} {k : Keys} {urls : List String} {home : String}
    {requests : List Request} {outcome : Except Defect Outcome}
    (h : Course account k urls replies home requests outcome)
    (hspared : ∀ f, outcome = .ok (.failed f) → ¬ f.IsEmptyLocator) :
    Builds
      (fun m => ∃ i answer, IsHome urls (some home) i ∧ (∀ j ≤ i, Succeeds replies j)
        ∧ answerAt? replies i = some answer
        ∧ (answer.header? ServiceHeaders.tokenHeader).isSome = true
        ∧ learnt urls replies (i + 1) = m)
      (fun c => outcome = .ok (.authenticated c)) fun f => outcome = .ok (.failed f) := by
  cases h with
  | through hpasses =>
    refine .of_none (fun m ⟨i, _, hhome, _⟩ => ?_) nofun hspared
    exact (hpasses i hhome.lt).away hhome.at_home
  | @refused i hi hpasses hfails outcome hrefused =>
    refine .of_none (fun m ⟨n, _, hhome, hsucceed, _⟩ => ?_) hrefused hspared
    have hlt : n < i := Nat.lt_of_not_le fun hle => hfails (hsucceed i hle)
    exact (hpasses n hlt).away hhome.at_home
  | @home i hi hpasses hsucceeds hregion answer hanswer =>
    have hhome : IsHome urls (some home) i := ⟨hi, hregion, fun j hj => (hpasses j hj).away⟩
    have hsucceed : ∀ j ≤ i, Succeeds replies j := fun j hj => by
      obtain hlt | rfl := Nat.lt_or_eq_of_le hj
      · exact (hpasses j hlt).succeeds
      · exact hsucceeds
    obtain ⟨hnone, hfinish⟩ | ⟨token, c, htoken, hfinish, -, -, -, -, hendpoints⟩ :=
      finish_cases account home (noneEmpty_learnt urls replies (i + 1)) answer
    · refine .of_failed hfinish (.intro ..) fun m ⟨n, answer', hhome', _, hanswer', htoken, _⟩ => ?_
      obtain rfl := hhome.unique hhome'
      rw [hanswer] at hanswer'
      cases hanswer'
      exact Bool.false_ne_true (hnone.symm.trans htoken)
    · refine .of_authenticated hfinish fun m => ?_
      rw [hendpoints]
      constructor
      · rintro ⟨n, answer', hhome', -, -, -, rfl⟩
        rw [hhome.unique hhome']
      · rintro rfl
        exact ⟨i, answer, hhome, hsucceed, hanswer, Option.isSome_of_eq_some htoken, rfl⟩

/-- When a round comes to a map. -/
theorem makes_iff (m : EndpointMap) :
    Dialect.Makes s endpoint replies .regional m ↔ (∃ k, keys s = .ok k)
      ∧ ∃ i answer, IsHome (EndpointList.all endpoint) (homeOf (EndpointList.all endpoint) s) i
        ∧ (∀ j ≤ i, Succeeds replies j) ∧ answerAt? replies i = some answer
        ∧ (answer.header? ServiceHeaders.tokenHeader).isSome = true
        ∧ learnt (EndpointList.all endpoint) replies (i + 1) = m := by
  constructor
  · rintro ⟨⟩
    rename_i hkeys hhome hsucceed hanswer htoken
    exact ⟨⟨_, hkeys⟩, _, _, hhome, hsucceed, hanswer, htoken, rfl⟩
  · rintro ⟨⟨k, hkeys⟩, i, answer, hhome, hsucceed, hanswer, htoken, rfl⟩
    exact .regional hkeys hhome hsucceed hanswer htoken

theorem builds_attempt
    (hregions : ∀ url ∈ EndpointList.all endpoint, ∃ region, Region.infer url = .ok region) :
    Dialect.regional.Builds s endpoint replies := by
  have hattempt : Dialect.regional.attempt s endpoint = attempt s endpoint := rfl
  unfold Dialect.Builds
  rw [hattempt]
  cases hkeys : keys s with
  | error defect =>
    have hnone (m : EndpointMap) : ¬ Dialect.Makes s endpoint replies .regional m := fun h => by
      obtain ⟨⟨k, hk⟩, -⟩ := (makes_iff m).1 h
      rw [hkeys] at hk
      cases hk
    unfold attempt
    rw [hkeys]
    split
    · exact .of_failed rfl (.intro ..) hnone
    · exact .of_defect rfl hnone
  | ok k =>
    refine Builds.congr ?_ makes_iff (fun _ => Iff.rfl) fun _ => id
    unfold attempt
    generalize EndpointList.all endpoint = urls at hregions ⊢
    rw [hkeys]
    cases urls with
    | nil =>
      refine .of_failed rfl (.intro ..) fun m h => ?_
      obtain ⟨-, i, -, hhome, -⟩ := h
      exact absurd hhome.lt (Nat.not_lt_zero i)
    | cons url more =>
      have hregions (j : Nat) (hj : j < (url :: more).length) :
          ∃ region, regionAt? (url :: more) j = some region := by
        obtain ⟨region, hinfer⟩ := hregions _ (List.getElem_mem hj)
        refine ⟨region, ?_⟩
        rw [regionAt?, List.getElem?_eq_getElem hj, Option.bind_some, hinfer]
        rfl
      obtain ⟨first, hfirst⟩ := hregions 0 (Nat.succ_pos _)
      have hhome : homeOf (url :: more) s = some (s.region.getD first) := by
        rw [homeOf, hfirst]
        cases s.region <;> rfl
      have hcourse : Course s.account k (url :: more) replies (s.region.getD first) _ _ :=
        course_ask s.account k hregions 0 s.region rfl
          (fun region h => by rw [Option.some.inj (hfirst.symm.trans h)])
          fun j hj => absurd hj (Nat.not_lt_zero j)
      have hspared := (spared_ask s.account k (url :: more) s.region none
        EndpointMap.noneEmpty_empty).hold replies
      rw [hhome]
      refine (builds_of_course hcourse hspared).congr (fun m => ?_) (fun _ => Iff.rfl) fun _ => id
      exact and_iff_right ⟨k, rfl⟩

end RegionalHeaders

end Attempts

/-- **No login fails for an empty locator.** Whatever an answer says, a document
of access and an attempt in any dialect build a catalog of every map that they
come to, the map has no empty locator, and nothing they end in is the refusal of
one. Of a round through regions it is required that its endpoints have some. -/
theorem catalogs_are_built :
    (∀ (s : Session) (answer : String),
        Builds (Identity.Makes s answer) (fun c => Identity.catalogOf s answer = .ok c)
          fun f => Identity.catalogOf s answer = .error (.fault f))
      ∧ ∀ (d : Dialect) (s : Session) (endpoint : String) (replies : List Reply),
        (d = .regional → ∀ url ∈ EndpointList.all endpoint,
          ∃ region, Region.infer url = .ok region) →
        Builds (d.Makes s endpoint replies)
          (fun c => ((d.attempt s endpoint).hold replies).outcome = .ok (.authenticated c))
          fun f => ((d.attempt s endpoint).hold replies).outcome = .ok (.failed f) := by
  refine ⟨Identity.builds_catalogOf, fun d s endpoint replies hregions => ?_⟩
  cases d with
  | identity => exact Identity.builds_attempt
  | regional => exact RegionalHeaders.builds_attempt (hregions rfl)
  | storage => exact StorageHeaders.builds_attempt

namespace Sparse

/-- A session without a choice of region. -/
def session : Session where
  publicKey := .text "user"
  privateKey := .text "secret"
  endpoint := "https://early.example/v1.0"
  account := "demo"
  endpoint_not_blank := by decide

/-- A success with a token, a locator that is a slash and another that is
blank. -/
def answer : Response :=
  ⟨204, .ofList [("X-Auth-Token", "t"), ("X-Server-Management-Url", " / "), ("X-Storage-Url", " ")],
    [], "No Content"⟩

/-- The slash goes where the ending comes, and the blank one is nowhere. -/
theorem catalogs_are_built_sparse :
    ∃ c, ((Dialect.regional.attempt session session.endpoint).hold [.response answer]).outcome
        = .ok (.authenticated c)
      ∧ c.endpoints.NoneEmpty
      ∧ c.endpoints.get? "compute" (Region.named "early.example") = some "/v1.0"
      ∧ c.endpoints.get? "object-store" (Region.named "early.example") = none := by
  have hall : EndpointList.all session.endpoint = ["https://early.example/v1.0"] := by
    decide +kernel
  have hregions : ∀ url ∈ EndpointList.all session.endpoint,
      ∃ region, Region.infer url = .ok region := by
    rw [hall]
    intro url hurl
    exact ⟨"early.example", by rw [List.mem_singleton.1 hurl]; decide +kernel⟩
  have hmakes : Dialect.regional.Makes session session.endpoint [.response answer] _ :=
    .regional (i := 0) (k := ⟨"user", "secret"⟩) rfl
      ⟨by rw [hall]; decide, by decide +kernel, nofun⟩
      (fun j hj => ⟨answer, by rw [Nat.le_zero.1 hj]; rfl, .inr rfl⟩) rfl (by decide +kernel)
  have hbuilds := catalogs_are_built.2 .regional session session.endpoint [.response answer]
    fun _ => hregions
  obtain ⟨c, hc, hendpoints⟩ := hbuilds.built _ hmakes
  refine ⟨c, hc, ?_, ?_, ?_⟩
  · rw [hendpoints]
    exact hbuilds.filled _ hmakes
  · rw [hendpoints]
    decide +kernel
  · rw [hendpoints]
    decide +kernel

end Sparse

end CloudClient
