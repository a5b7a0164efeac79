import CloudClient.Authentication.Identity
import CloudClient.Proofs.BestVersion

/-!
# What is wrong with a document of access

A document of access comes from outside, and a field of it may hold anything.
It is read in one order: the access part, its token, the tenant, the list of
services, service by service and endpoint by endpoint; and then the
candidates are resolved in the same order. The first thing that is wrong is
what comes of the whole.

Nearly all of it is a fault of the document (`Fault.IsOfDocument`): a value of
the wrong kind, no token, a version that is not made of numbers. This module
is about what is not, and `Identity.Granted` lists it. A document that is
nested too deep is one case. An endpoint with a locator that cannot be taken
apart is another, if the document states no version and it is looked for in
the locator (`Identity.Unlocatable`), or no region and it is looked for in the
host. The last is a region that cannot be a key. Each counts only if
everything in front of it has been read, which `FirstAt` says of lists and
`Identity.Listed` of the rest.
-/

namespace CloudClient

theorem Version.ofPath_eq_error_iff {url : String} {fault : LocatorFault} :
    Version.ofPath url = .error fault
      ↔ Text.hasWithin "://" url = true ∧ Locator.read url = .error fault := by
  unfold Version.ofPath Version.pathOf
  split
  · rename_i hlocator
    cases Locator.read url <;> simp [Except.map, hlocator]
  · rename_i hlocator
    simp [Except.map, hlocator]

/-- **A fault of a document**: the document is not what it should be, or what
it says makes no catalog. -/
inductive Fault.IsOfDocument : Fault → Prop where
  | communication (code : Int) (message explanation : String) (cause : Option Cause) :
      IsOfDocument (.communication code message explanation cause)
  | internal (matter : InternalMatter) (details : List (String × Json)) (cause : Option Cause) :
      IsOfDocument (.internal matter details cause)

/-- **A fault of communication**: an answer that cannot be used, whatever would
have been made of it. -/
inductive Fault.IsCommunication : Fault → Prop where
  | intro (code : Int) (message explanation : String) (cause : Option Cause) :
      IsCommunication (.communication code message explanation cause)

theorem Fault.IsCommunication.isOfDocument {f : Fault} (h : f.IsCommunication) :
    f.IsOfDocument := by
  cases h
  exact .communication ..

namespace Identity

section Gather

variable {α β ε : Type} {f : α → Except ε (List β)} {as : List α}

theorem gather_eq_error_iff {e : ε} : gather f as = .error e ↔ FirstFailure f e as := by
  induction as with
  | nil => exact iff_of_false nofun nofun
  | cons a more ih =>
    have hcons : FirstFailure f e (a :: more)
        ↔ f a = .error e ∨ Reads f a ∧ gather f more = .error e := by
      rw [ih]
      exact FirstAt.cons_iff
    rw [hcons, gather]
    cases ha : f a with
    | error e' => simp [Reads, ha]
    | ok found => cases gather f more <;> simp [Reads, ha, Except.map]

theorem forall_of_gather {P : β → Prop} (hf : ∀ a bs, f a = .ok bs → ∀ b ∈ bs, P b) {bs : List β}
    (h : gather f as = .ok bs) : ∀ b ∈ bs, P b := by
  induction as generalizing bs with
  | nil =>
    cases h
    exact fun b hb => absurd hb List.not_mem_nil
  | cons a more ih =>
    rw [gather] at h
    cases ha : f a with
    | error e => rw [ha] at h; cases h
    | ok found =>
      rw [ha] at h
      cases hmore : gather f more with
      | error e => rw [hmore] at h; cases h
      | ok rest =>
        rw [hmore] at h
        cases h
        exact List.forall_mem_append.2 ⟨hf a found ha, ih hmore⟩

end Gather

/-! ### Shapes -/

section Shapes

variable {v : Json} {place : String} {f : Fault}

theorem isCommunication_of_object (h : object place v = .error f) : f.IsCommunication := by
  cases v <;> cases h <;> exact .intro ..

theorem isCommunication_of_array (h : array place v = .error f) : f.IsCommunication := by
  cases v <;> cases h <;> exact .intro ..

theorem isCommunication_of_text (h : text place v = .error f) : f.IsCommunication := by
  cases v <;> cases h <;> exact .intro ..

theorem eq_obj_of_object {members : List (RawText × Json)} (h : object place v = .ok members) :
    v = .obj members := by
  cases v <;> cases h
  rfl

theorem eq_arr_of_array {elements : List Json} (h : array place v = .ok elements) :
    v = .arr elements := by
  cases v <;> cases h
  rfl

theorem eq_str_of_text {t : RawText} (h : text place v = .ok t) : v = .str t := by
  cases v <;> cases h
  rfl

end Shapes

/-! ### Entries and services -/

/-- **An endpoint of a document whose locator gives no version**, where the
document states none: the locator cannot be taken apart. -/
inductive Unlocatable (fault : LocatorFault) : Json → Prop where
  | intro {entry : List (RawText × Json)} {url : RawText}
      (hurl : (field entry "publicURL").orElse (field entry "url") = .str url)
      (hpresent : url.isEmpty = false) (hunstated : (field entry "versionId").truthy = false)
      (hlocator : Text.hasWithin "://" url.repaired = true)
      (hread : Locator.read url.repaired = .error fault) : Unlocatable fault (.obj entry)

/-- What an endpoint of a document may come to. -/
inductive Offered (entry : Json) : Except Failure (List Candidate) → Prop where
  | misshapen {f : Fault} (h : f.IsOfDocument) : Offered entry (.error (.fault f))
  | unlocated : Offered entry (.ok [])
  | unlocatable {fault : LocatorFault} (h : Unlocatable fault entry) :
      Offered entry (.error (.defect (.badLocator fault)))
  | offered {c : Candidate} (h : c.version.isSome = true) : Offered entry (.ok [c])

theorem offered (kind : RawText) (entry : Json) : Offered entry (candidates kind entry) := by
  unfold candidates
  split
  · rename_i f hshape
    exact .misshapen (isCommunication_of_object hshape).isOfDocument
  · rename_i members hshape
    obtain rfl := eq_obj_of_object hshape
    simp only
    split
    · rename_i hpresent
      split
      · rename_i f hshape
        exact .misshapen (isCommunication_of_text hshape).isOfDocument
      · rename_i url hshape
        have hurl := eq_str_of_text hshape
        split
        · rename_i fault hversion
          rw [hurl] at hpresent
          unfold versionOf at hversion
          split at hversion
          · cases hversion
          · rename_i hunstated
            cases hpath : Version.ofPath url.repaired with
            | ok version => rw [hpath] at hversion; cases hversion
            | error fault' =>
              rw [hpath] at hversion
              cases hversion
              obtain ⟨hlocator, hread⟩ := Version.ofPath_eq_error_iff.1 hpath
              refine .unlocatable (.intro hurl ?_ (Bool.eq_false_iff.2 hunstated) hlocator hread)
              exact (Bool.not_eq_true' _).mp hpresent
        · exact .offered rfl
    · exact .unlocated

theorem candidates_of_unlocatable {fault : LocatorFault} {entry : Json}
    (h : Unlocatable fault entry) (kind : RawText) :
    candidates kind entry = .error (.defect (.badLocator fault)) := by
  cases h with
  | @intro members url hurl hpresent hunstated hlocator hread =>
    have hpath := Version.ofPath_eq_error_iff.2 ⟨hlocator, hread⟩
    have hversion : versionOf (field members "versionId") url.repaired = .error fault := by
      unfold versionOf
      rw [if_neg (Bool.eq_false_iff.1 hunstated), hpath]
      rfl
    simp [candidates, object, hurl, Json.truthy, hpresent, text, hversion]

/-- **A service of a document with such an endpoint**, and none in front of
it that is wrong in another way. -/
inductive BrokenService (fault : LocatorFault) : Json → Prop where
  | intro {service : List (RawText × Json)} {kind : RawText} {entries : List Json}
      (hkind : field service "type" = .str kind) (hpresent : kind.isEmpty = false)
      (hentries : (field service "endpoints").orElse (.arr []) = .arr entries)
      (h : FirstAt (Reads (candidates kind)) (Unlocatable fault) entries) :
      BrokenService fault (.obj service)

/-- What a service of a document may come to. -/
inductive Served (service : Json) : Except Failure (List Candidate) → Prop where
  | misshapen {f : Fault} (h : f.IsOfDocument) : Served service (.error (.fault f))
  | broken {fault : LocatorFault} (h : BrokenService fault service) :
      Served service (.error (.defect (.badLocator fault)))
  | served {cs : List Candidate} (h : ∀ c ∈ cs, c.version.isSome = true) : Served service (.ok cs)

theorem isSome_of_offered {kind : RawText} {entry : Json} {cs : List Candidate}
    (h : candidates kind entry = .ok cs) : ∀ c ∈ cs, c.version.isSome = true := by
  have hoffered := offered kind entry
  rw [h] at hoffered
  cases hoffered with
  | unlocated => exact fun c hc => absurd hc List.not_mem_nil
  | offered hsome => exact List.forall_mem_singleton.2 hsome

/-- The first endpoint that is let through is one whose locator cannot be
taken apart. -/
theorem firstAt_unlocatable_iff {kind : RawText} {fault : LocatorFault} {entries : List Json} :
    FirstFailure (candidates kind) (.defect (.badLocator fault)) entries
      ↔ FirstAt (Reads (candidates kind)) (Unlocatable fault) entries := by
  refine FirstAt.congr fun entry => ⟨fun h => ?_, fun h => candidates_of_unlocatable h kind⟩
  have hoffered := offered kind entry
  rw [h] at hoffered
  cases hoffered with
  | unlocatable h => exact h

theorem served (service : Json) : Served service (candidatesOf service) := by
  unfold candidatesOf
  split
  · rename_i f hshape
    exact .misshapen (isCommunication_of_object hshape).isOfDocument
  · rename_i members hshape
    obtain rfl := eq_obj_of_object hshape
    simp only
    split
    · rename_i hpresent
      split
      · rename_i f hshape
        exact .misshapen (isCommunication_of_text hshape).isOfDocument
      · rename_i kind hshape
        have hkind := eq_str_of_text hshape
        unfold serviceCandidates
        split
        · rename_i f hshape
          exact .misshapen (isCommunication_of_array hshape).isOfDocument
        · rename_i entries hshape
          have hentries := eq_arr_of_array hshape
          cases hgather : gather (candidates kind) entries with
          | ok cs => exact .served (forall_of_gather (fun _ _ => isSome_of_offered) hgather)
          | error failure =>
            have hfails := gather_eq_error_iff.1 hgather
            obtain ⟨entry, -, hentry⟩ := hfails.exists_mem
            have hoffered := offered kind entry
            rw [hentry] at hoffered
            cases hoffered with
            | misshapen h => exact .misshapen h
            | unlocatable =>
              rw [hkind] at hpresent
              exact .broken (.intro hkind ((Bool.not_eq_true' _).mp hpresent) hentries
                (firstAt_unlocatable_iff.1 hfails))
    · exact .served fun c hc => absurd hc List.not_mem_nil

theorem candidatesOf_of_broken {fault : LocatorFault} {service : Json}
    (h : BrokenService fault service) :
    candidatesOf service = .error (.defect (.badLocator fault)) := by
  cases h with
  | @intro members kind entries hkind hpresent hentries h =>
    have hgather := gather_eq_error_iff.2 (firstAt_unlocatable_iff.2 h)
    simp [candidatesOf, object, hkind, Json.truthy, hpresent, text, serviceCandidates, hentries,
      array, hgather]

/-- The first service that is let through has an endpoint whose locator
cannot be taken apart. -/
theorem firstAt_broken_iff {fault : LocatorFault} {services : List Json} :
    FirstFailure candidatesOf (.defect (.badLocator fault)) services
      ↔ FirstAt (Reads candidatesOf) (BrokenService fault) services := by
  refine FirstAt.congr fun service => ⟨fun h => ?_, candidatesOf_of_broken⟩
  have hserved := served service
  rw [h] at hserved
  cases hserved with
  | broken h => exact h

/-! ### The grant and its catalog -/

/-- **The services that a document lists**, when everything in front of them
has been read. -/
inductive Listed (account answer : String) (services : List Json) : Prop where
  | intro {v tenant : Json} {access token : List (RawText × Json)}
      (hread : Json.read answer = .ok v) (haccess : accessPart v = .ok access)
      (htoken : tokenPart access = .ok token) (htenant : tenantPart account token = .ok tenant)
      (hservices : servicesPart access = .ok services)

/-- What a document of access may come to. -/
inductive Granted (s : Session) (answer : String) : Except Failure Catalog → Prop where
  | deep (h : Json.read answer = .error .tooDeep) :
      Granted s answer (.error (.defect .deepDocument))
  | faulty {f : Fault} (h : f.IsOfDocument) : Granted s answer (.error (.fault f))
  | broken {services : List Json} {fault : LocatorFault}
      (hlisted : Listed s.account answer services)
      (h : FirstAt (Reads candidatesOf) (BrokenService fault) services) :
      Granted s answer (.error (.defect (.badLocator fault)))
  | refused {services : List Json} {cs : List Candidate} {defect : Defect}
      (hlisted : Listed s.account answer services)
      (hgathered : gather candidatesOf services = .ok cs)
      (h : FirstFailure (Resolution.consider (regionRule s)) (.defect defect) cs) :
      Granted s answer (.error (.defect defect))
  | granted (catalog : Catalog) : Granted s answer (.ok catalog)

theorem isCommunication_of_accessPart {v : Json} {f : Fault} (h : accessPart v = .error f) :
    f.IsCommunication := by
  unfold accessPart at h
  split at h
  · cases h
  · cases h
  · exact isCommunication_of_object h

theorem isCommunication_of_tokenPart {access : List (RawText × Json)} {f : Fault}
    (h : tokenPart access = .error f) : f.IsCommunication := by
  unfold tokenPart at h
  split at h
  · rename_i f' hshape
    cases h
    exact isCommunication_of_object hshape
  · split at h
    · cases h
    · cases h
      exact .intro ..

theorem isCommunication_of_tenantPart {account : String} {token : List (RawText × Json)} {f : Fault}
    (h : tenantPart account token = .error f) : f.IsCommunication := by
  unfold tenantPart at h
  split at h
  · rename_i f' hshape
    cases h
    exact isCommunication_of_object hshape
  · cases h

/-- What is left to be read once the services are listed. -/
theorem read_of_listed {account answer : String} {services : List Json}
    (h : Listed account answer services) :
    ∃ token tenant, Grant.read account answer
      = (gather candidatesOf services).map fun candidates => ⟨token, tenant, candidates⟩ := by
  cases h with
  | @intro v tenant access token hread haccess htoken htenant hservices =>
    refine ⟨field token "id", tenant, ?_⟩
    simp only [Grant.read, document, hread, haccess, Grant.ofAccess, htoken, htenant, hservices]

/-- A document is read part by part. -/
theorem listed_or_failed (account answer : String) :
    Json.read answer = .error .tooDeep ∧ Grant.read account answer = .error (.defect .deepDocument)
      ∨ (∃ f : Fault, f.IsCommunication ∧ Grant.read account answer = .error (.fault f))
      ∨ ∃ services, Listed account answer services := by
  unfold Grant.read document
  cases hread : Json.read answer with
  | error fault =>
    cases fault with
    | tooDeep => exact .inl ⟨rfl, rfl⟩
    | malformed => exact .inr (.inl ⟨_, .intro .., rfl⟩)
    | longInteger => exact .inr (.inl ⟨_, .intro .., rfl⟩)
  | ok v =>
    simp only
    cases haccess : accessPart v with
    | error f => exact .inr (.inl ⟨f, isCommunication_of_accessPart haccess, rfl⟩)
    | ok access =>
      simp only [Grant.ofAccess]
      cases htoken : tokenPart access with
      | error f => exact .inr (.inl ⟨f, isCommunication_of_tokenPart htoken, rfl⟩)
      | ok token =>
        simp only
        cases htenant : tenantPart account token with
        | error f => exact .inr (.inl ⟨f, isCommunication_of_tenantPart htenant, rfl⟩)
        | ok tenant =>
          simp only
          cases hservices : servicesPart access with
          | error f => exact .inr (.inl ⟨f, isCommunication_of_array hservices, rfl⟩)
          | ok services =>
            exact .inr (.inr ⟨services, .intro hread haccess htoken htenant hservices⟩)

theorem isSome_of_served {service : Json} {cs : List Candidate}
    (h : candidatesOf service = .ok cs) : ∀ c ∈ cs, c.version.isSome = true := by
  have hserved := served service
  rw [h] at hserved
  cases hserved with
  | served hsome => exact hsome

theorem isOfDocument_of_make {token tenant : Json} {home : Region} {storage : Option Json}
    {endpoints : EndpointMap} {f : Fault}
    (h : Catalog.make token tenant home storage endpoints = .error f) : f.IsOfDocument := by
  unfold Catalog.make at h
  split at h
  · cases h
    exact .internal ..
  · cases h

variable {s : Session} {answer : String} {services : List Json}

/-- **What comes of a document of access**, with the reason for every
failure. -/
theorem granted (s : Session) (answer : String) : Granted s answer (catalogOf s answer) := by
  unfold catalogOf
  obtain ⟨hdeep, h⟩ | ⟨f, hf, h⟩ | ⟨services, hlisted⟩ := listed_or_failed s.account answer
  · rw [h]
    exact .deep hdeep
  · rw [h]
    exact .faulty hf.isOfDocument
  · obtain ⟨token, tenant, h⟩ := read_of_listed hlisted
    rw [h]
    cases hgathered : gather candidatesOf services with
    | error failure =>
      have hfails := gather_eq_error_iff.1 hgathered
      obtain ⟨service, -, hservice⟩ := hfails.exists_mem
      have hserved := served service
      rw [hservice] at hserved
      cases hserved with
      | misshapen hf => exact .faulty hf
      | broken => exact .broken hlisted (firstAt_broken_iff.1 hfails)
    | ok cs =>
      show Granted s answer (Grant.toCatalog s ⟨token, tenant, cs⟩)
      unfold Grant.toCatalog
      have hstated := forall_of_gather (fun _ _ => isSome_of_served) hgathered
      obtain ⟨failure, hfails, hresolve⟩ | ⟨-, p, hresolve, -⟩ :=
        Resolution.resolve_cases (regionRule s) hstated
      · rw [hresolve]
        cases failure with
        | defect defect => exact .refused hlisted hgathered hfails
        | fault f =>
          obtain ⟨c, -, hc⟩ := hfails.exists_mem
          cases Resolution.consider_eq_iff.1 hc with
          | undated _ hread =>
            obtain ⟨cause, rfl⟩ := Version.readText_eq_error hread
            exact .faulty (.internal ..)
      · rw [hresolve]
        simp only
        split
        · rename_i f hmake
          exact .faulty (isOfDocument_of_make hmake)
        · exact .granted _

theorem catalogOf_of_deep (h : Json.read answer = .error .tooDeep) :
    catalogOf s answer = .error (.defect .deepDocument) := by
  unfold catalogOf Grant.read document
  rw [h]
  rfl

theorem catalogOf_of_broken {fault : LocatorFault} (hlisted : Listed s.account answer services)
    (h : FirstAt (Reads candidatesOf) (BrokenService fault) services) :
    catalogOf s answer = .error (.defect (.badLocator fault)) := by
  obtain ⟨token, tenant, hread⟩ := read_of_listed hlisted
  unfold catalogOf
  rw [hread, gather_eq_error_iff.2 (firstAt_broken_iff.2 h)]
  rfl

theorem catalogOf_of_refused {cs : List Candidate} {defect : Defect}
    (hlisted : Listed s.account answer services) (hgathered : gather candidatesOf services = .ok cs)
    (h : FirstFailure (Resolution.consider (regionRule s)) (.defect defect) cs) :
    catalogOf s answer = .error (.defect defect) := by
  obtain ⟨token, tenant, hread⟩ := read_of_listed hlisted
  have hstated := forall_of_gather (fun _ _ => isSome_of_served) hgathered
  unfold catalogOf
  rw [hread, hgathered]
  show Grant.toCatalog s ⟨token, tenant, cs⟩ = _
  unfold Grant.toCatalog
  rw [Resolution.resolve_of_firstFailure hstated h]

end Identity

end CloudClient
