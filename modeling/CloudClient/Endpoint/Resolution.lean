import CloudClient.Endpoint.Candidate

/-!
# Resolution

Resolution makes one endpoint per service and region out of the candidates:
the one of the highest version that this library can speak to, and among
equal versions the first. Both the services and the regions of a service stay
in the order in which they first occur, even where a later candidate takes
the place of an earlier one; lookups without a region depend on that order.

The region of the first candidate that has one is remembered as the home
region of a session that does not choose its own.

`Resolution.take` is one step of the fold. It keeps the endpoint map and the
versions of the endpoints in it side by side, and they have the same keys.
A place whose version is missing counts as free.
-/

namespace CloudClient

/-- The endpoints of a cloud: for each service, the locator in each region. -/
abbrev EndpointMap := OrderedMap RawText (OrderedMap Region String)

namespace EndpointMap

/-- The regions of a service. -/
def regionsOf (m : EndpointMap) (service : RawText) : OrderedMap Region String :=
  (m.find? service).getD .empty

/-- The map with the endpoint of a service and region set. -/
def set (m : EndpointMap) (service : RawText) (region : Region) (url : String) : EndpointMap :=
  m.put service ((m.regionsOf service).put region url)

/-- The endpoint of a service in a region. -/
def get? (m : EndpointMap) (service : RawText) (region : Region) : Option String :=
  (m.regionsOf service).find? region

/-- The regions of a service once an endpoint has been set. -/
theorem regionsOf_set (m : EndpointMap) (service : RawText) (region : Region) (url : String)
    (other : RawText) :
    (m.set service region url).regionsOf other =
      if service == other then (m.regionsOf service).put region url else m.regionsOf other := by
  unfold regionsOf set
  rw [OrderedMap.find?_put]
  split <;> rfl

/-- The endpoints once one has been set. -/
theorem get?_set (m : EndpointMap) (service : RawText) (region : Region) (url : String)
    (place : RawText × Region) :
    (m.set service region url).get? place.1 place.2 =
      if (service, region) == place then some url else m.get? place.1 place.2 := by
  unfold get?
  rw [regionsOf_set, show ((service, region) == place)
    = (service == place.1 && region == place.2) from rfl]
  by_cases hs : service == place.1
  · rw [if_pos hs, OrderedMap.find?_put, eq_of_beq hs]
    by_cases hr : region == place.2 <;> simp [hr]
  · simp [hs]

/-- The services once an endpoint has been set. -/
theorem keys_set_of_keys {m : EndpointMap} {services : List RawText}
    (h : m.keys = services.eraseDups) (service : RawText) (region : Region) (url : String) :
    (m.set service region url).keys = (services ++ [service]).eraseDups :=
  OrderedMap.keys_put_of_keys h service _

/-- A service with an endpoint is there, and so is the region. -/
theorem has_of_get? {m : EndpointMap} {service : RawText} {region : Region} {url : String}
    (h : m.get? service region = some url) :
    m.has service = true ∧ (m.regionsOf service).has region = true := by
  have hregion : (m.regionsOf service).has region = true := by
    rw [← OrderedMap.isSome_find?]
    exact Option.isSome_of_eq_some h
  refine ⟨?_, hregion⟩
  rw [← OrderedMap.isSome_find?]
  cases hfound : m.find? service with
  | some regions => rfl
  | none =>
    rw [regionsOf, hfound] at hregion
    exact hregion

/-- The map of listed endpoints. -/
def ofList (services : List (RawText × List (Region × String))) : EndpointMap :=
  OrderedMap.ofList (services.map fun s => (s.1, OrderedMap.ofList s.2))

end EndpointMap

/-- The outcome of a resolution. -/
structure Resolution where
  /-- One endpoint per service and region. -/
  endpoints : EndpointMap
  /-- The region of the first candidate that has one. -/
  firstRegion : Region

namespace Resolution

/-- A resolution under way. -/
structure Progress where
  /-- What has been resolved. -/
  result : Resolution
  /-- The version of each endpoint, as its candidate writes it. -/
  versions : OrderedMap (RawText × Region) (Option RawText)

/-- The resolution of no candidates. -/
def Progress.start : Progress := ⟨⟨.empty, none⟩, .empty⟩

/-- Whether a candidate's version beats that of the endpoint in its place. -/
def beats (version current : Option RawText) : Except Fault Bool :=
  if current.isNone then .ok true else (Version.compareTexts version current).map (· == .gt)

/-- Whether a region can be a key of the map. -/
def isKey : Region → Bool
  | none => true
  | some l => l.isKey

/-- The place of a candidate in the map. -/
def place (c : Candidate) : RawText × Region := (c.service, c.region)

/-- What has been resolved once the candidate has its place. -/
def Progress.seat (p : Progress) (c : Candidate) : Progress :=
  { result := { p.result with endpoints := p.result.endpoints.set c.service c.region c.url }
    versions := p.versions.put (place c) c.version }

/-- What has been resolved once the candidate's region may be the first. -/
def Progress.noteRegion (p : Progress) (c : Candidate) : Progress :=
  { p with result := { p.result with firstRegion := p.result.firstRegion.or c.region } }

/-- One candidate whose region is settled. -/
def Progress.place (p : Progress) (c : Candidate) : Except Failure Progress :=
  if isKey c.region then
    match beats c.version (p.versions.find? (Resolution.place c)).join with
    | .error f => .error (.fault f)
    | .ok true => .ok ((p.seat c).noteRegion c)
    | .ok false => .ok (p.noteRegion c)
  else .error (.defect .regionNoKey)

/-- One candidate. -/
def Progress.take (rule : RegionRule) (p : Progress) (c : Candidate) : Except Failure Progress :=
  if c.url = "" then .ok p
  else match Version.read c.version with
    | .error f => .error (.fault f)
    | .ok version =>
      if version.isSupported then
        match rule.settle c with
        | .error fault => .error (.defect (.badLocator fault))
        | .ok none => .ok p
        | .ok (some c) => p.place c
      else .ok p

/-- The endpoints that the candidates give under a rule. -/
def resolve (rule : RegionRule) (candidates : List Candidate) : Except Failure Resolution :=
  (candidates.foldlM (Progress.take rule) Progress.start).map Progress.result

end Resolution

end CloudClient
