import CloudClient.Client

/-!
# Places

Resources lie in regions, and regions have data centers. The regions are those
that the catalog shows; nothing lists data centers, so each region has exactly
one, whose name is made from that of the region.

Every question asks for the catalog anew, and a catalog may be put to the
test or replaced at any of them.
-/

namespace CloudClient

/-- A region as a place. -/
structure RegionPlace where
  id : Label
  /-- The law that applies there. -/
  jurisdiction : String := "US"
  active : Bool := true
  available : Bool := true

/-- A data center of a region. -/
structure DataCenter where
  id : RawText
  /-- The region it is in. -/
  region : Label
  active : Bool := true
  available : Bool := true

/-- What the name of a region's data center has at its end. -/
def DataCenter.ending : RawText := "-a"

/-- The data center of a region. -/
def DataCenter.ofRegion (region : Label) : DataCenter := { id := region.toJson.shown ++ ending, region }

namespace Fault

/-- There is no region of that name. -/
def noSuchRegion (asked : Label) : Fault :=
  .call 0 "noSuchRegion" ("No such region: " ++ asked.shown)

/-- It is not known which region is meant. -/
def noRegion : Fault := .call 0 "noRegion" "No region is known for zones request"

end Fault

namespace Client

/-- The regions. -/
def regions (c : Client) (w : Surroundings) : Except Failure (List RegionPlace) × Surroundings :=
  let found := c.caller.catalog w
  (found.1.map fun issued => issued.catalog.regions.map fun id => { id }, found.2)

/-- The region of a name, if there is one. -/
def region (c : Client) (asked : Label) (w : Surroundings) :
    Except Failure (Option RegionPlace) × Surroundings :=
  let listed := c.regions w
  (listed.1.map fun places => places.find? fun place => place.id.sameValue asked, listed.2)

/-- The data centers of a region. -/
def dataCenters (c : Client) (asked : Label) (w : Surroundings) :
    Except Failure (List DataCenter) × Surroundings :=
  let found := c.region asked w
  match found.1 with
  | .error failure => (.error failure, found.2)
  | .ok none => (.error (.fault (.noSuchRegion asked)), found.2)
  | .ok (some place) => (.ok [.ofRegion place.id], found.2)

/-- The region that the client is in: the one its session chooses, or
else the home region of its catalog. -/
def ownRegion (c : Client) (w : Surroundings) : Except Failure Region × Surroundings :=
  match c.session.chosenRegion with
  | some region => (.ok (some region), w)
  | none =>
    let found := c.caller.catalog w
    (found.1.map fun issued => issued.catalog.homeRegion, found.2)

/-- The data center of a name in the client's own region, if there is
one. -/
def dataCenter (c : Client) (asked : RawText) (w : Surroundings) :
    Except Failure (Option DataCenter) × Surroundings :=
  let own := c.ownRegion w
  match own.1 with
  | .error failure => (.error failure, own.2)
  | .ok none => (.error (.fault .noRegion), own.2)
  | .ok (some region) =>
    let listed := c.dataCenters region own.2
    (listed.1.map fun centers => centers.find? fun center => center.id == asked, listed.2)

end Client

end CloudClient
