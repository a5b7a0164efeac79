import CloudClient.Endpoint.Host
import CloudClient.Endpoint.Version

/-!
# Candidates

A catalog lists more than a client can use: several versions of one service,
entries without a region, entries that belong to an older way of speaking. A
`Candidate` is one such entry, and a `RegionRule` says what becomes of one
without a region:

* if its version is the very text `1.0`, it comes from a deployment older
  than regions, and its host gives it one – unless the operator is known to
  speak through headers only;
* otherwise an entry of an ambiguous service is left out;
* and any other entry stays, without a region.
-/

namespace CloudClient

/-- An entry of a catalog before it is decided which entries count. -/
structure Candidate where
  /-- The service it is an endpoint of. -/
  service : RawText
  /-- The region it is in, if the catalog says so. -/
  region : Region
  /-- Where it is. -/
  url : String
  /-- Its version as written, if it has one. -/
  version : Option RawText

/-- What becomes of candidates without a region. -/
structure RegionRule where
  /-- Whether the operator is known to speak through headers only. -/
  headerOnly : Bool
  /-- The services whose entries are left out without a region. -/
  ambiguous : List RawText

namespace RegionRule

/-- The services that are ambiguous without a region. -/
def usualAmbiguous : List RawText := ["compute", "object-store"]

/-- The rule for an operator about whom nothing is known. -/
def usual : RegionRule := ⟨false, usualAmbiguous⟩

/-- The candidate with its region settled, or none if it is left out. -/
def settle (p : RegionRule) (c : Candidate) : Except LocatorFault (Option Candidate) :=
  match c.region with
  | some _ => .ok (some c)
  | none =>
    if c.version = some (RawText.ofString Version.defaultText) ∧ p.headerOnly = false then
      (Region.infer c.url).map fun region => some { c with region := Region.named region }
    else if p.ambiguous.contains c.service then .ok none
    else .ok (some c)

end RegionRule

end CloudClient
