import CloudClient.Endpoint.Resolution

/-!
# Catalogs

What an authentication yields is a `Catalog`: the tokens to call with, the
tenant, the home region, and the endpoint map. It is never changed, only
replaced as a whole, and no locator in it is empty – `Catalog.make` refuses
such a map, so the property is part of the type.

Tokens and tenant come out of a document without a check of their shape, so
they are values rather than texts.

## Looking up a service

Without a home region the first endpoint of the service is taken. With one,
the endpoint of exactly that region is; failing that, the first in the order
of the map whose region is an ending of the home region, or which has no
region. Regions that are no texts have no endings, and asking for one is a
defect.
-/

namespace CloudClient

/-- The state of an authenticated session. -/
structure Catalog where
  /-- The token to call services with. -/
  authToken : Json
  /-- The tenant that the session acts for. -/
  tenant : Json
  /-- The region that the session is bound to. -/
  homeRegion : Region
  /-- The token to call the object store with. -/
  storageToken : Json
  /-- The locator of each service in each region. -/
  endpoints : EndpointMap
  /-- No locator is empty. -/
  locators_nonempty : ∀ s ∈ endpoints.entries, ∀ r ∈ s.2.entries, r.2 ≠ ""

namespace Catalog

/-- The first region of a service whose locator is empty. -/
def emptyRegion? (regions : OrderedMap Region String) : Option Region :=
  (regions.entries.find? fun r => r.2 == "").map Prod.fst

/-- The first service and region whose locator is empty. -/
def emptyPlace? (endpoints : EndpointMap) : Option (RawText × Region) :=
  endpoints.entries.findSome? fun s => (emptyRegion? s.2).map (s.1, ·)

theorem locators_nonempty_of_none {endpoints : EndpointMap} (h : emptyPlace? endpoints = none) :
    ∀ s ∈ endpoints.entries, ∀ r ∈ s.2.entries, r.2 ≠ "" := by
  intro s hs r hr he
  have hnone := List.findSome?_eq_none_iff.1 h s hs
  simp only [Option.map_eq_none_iff, emptyRegion?] at hnone
  have := List.find?_eq_none.1 hnone r hr
  simp [he] at this

/-- The catalog of the given parts; a missing storage token is the other
token. -/
def make (authToken tenant : Json) (homeRegion : Region) (storageToken : Option Json)
    (endpoints : EndpointMap) : Except Fault Catalog :=
  match h : emptyPlace? endpoints with
  | some place => .error (.internal (.emptyLocator place.1 place.2) [] none)
  | none =>
    .ok ⟨authToken, tenant, homeRegion, storageToken.getD authToken, endpoints,
      locators_nonempty_of_none h⟩

/-- The regions of a service. -/
def regionsOf (c : Catalog) (service : RawText) : OrderedMap Region String :=
  c.endpoints.regionsOf service

/-- Whether a region without an entry of its own falls under the region of
an entry. -/
def fallsUnder (home : Label) : Region → Except Defect Bool
  | none => .ok true
  | some region =>
    match home, region with
    | .text home, .text region => .ok (RawText.endsWith region home)
    | .text _, _ => .error .regionNoText
    | _, _ => .error .homeNoText

/-- The locator of the first entry that the home region falls under. -/
def firstUnder (home : Label) : List (Region × String) → Except Defect (Option String)
  | [] => .ok none
  | (region, url) :: more =>
    match fallsUnder home region with
    | .error d => .error d
    | .ok true => .ok (some url)
    | .ok false => firstUnder home more

/-- The locator for a home region among the regions of a service. -/
def lookup (home : Region) (regions : OrderedMap Region String) : Except Defect (Option String) :=
  match home with
  | none => .ok (regions.values.head?)
  | some label =>
    match regions.find? home with
    | some url => .ok (some url)
    | none => firstUnder label regions.entries

/-- The locator of a service for the home region. -/
def serviceUrl (c : Catalog) (service : RawText) : Except Defect (Option String) :=
  lookup c.homeRegion (c.regionsOf service)

/-- The service that computes. -/
def computeService : RawText := "compute"

/-- The service that stores objects, and has a token of its own. -/
def storageService : RawText := "object-store"

/-- The locator of the compute service. -/
def computeUrl (c : Catalog) : Except Defect (Option String) := c.serviceUrl computeService

/-- The locator of the object store. -/
def storageUrl (c : Catalog) : Except Defect (Option String) := c.serviceUrl storageService

/-- The regions that the catalog shows: those of the compute service, or of
the object store where there is none. -/
def regions (c : Catalog) : List Label :=
  let compute := c.regionsOf computeService
  let shown := if compute.isEmpty then c.regionsOf storageService else compute
  shown.keys.filterMap id

/-- The token that a service is called with. -/
def tokenFor (c : Catalog) (service : RawText) : Json :=
  if service = storageService then c.storageToken.orElse c.authToken else c.authToken

end Catalog

end CloudClient
