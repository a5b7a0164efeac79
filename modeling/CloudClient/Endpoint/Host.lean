import CloudClient.Endpoint.Label
import CloudClient.Url.Locator

/-!
# Regions from host names

Where neither session nor catalog names a region, the host of an endpoint
does: operators put the region in front of their domain. A host of up to two
labels is a region of its own, of three labels the first is the region, and
of more the first two are.

The host is the only part that counts, so endpoints that differ in anything
else lie in the same region. A text that is no locator is its own host.
-/

namespace CloudClient.Region

/-- The region of a host. -/
def ofHostChars (host : List Char) : List Char :=
  match Text.cut '.' host with
  | [first, _, _] => first
  | first :: second :: _ :: _ :: _ => first ++ '.' :: second
  | _ => host

/-- The region of a host, as text. -/
def ofHost (host : String) : String := String.ofList (ofHostChars host.toList)

/-- The host that a text names: that of the locator if it is one and has
one, else the text itself. -/
def hostOf (url : String) : Except LocatorFault String :=
  if Text.hasWithin "://" url then
    (Locator.read url).map fun l => if l.host = "" then url else l.host
  else .ok url

/-- The region of the host that a text names. -/
def infer (url : String) : Except LocatorFault String := (hostOf url).map ofHost

/-- A region is inferred of every text but a locator that cannot be read. -/
theorem infer_eq_error_iff {url : String} {fault : LocatorFault} :
    infer url = .error fault
      ↔ Text.hasWithin "://" url = true ∧ Locator.read url = .error fault := by
  unfold infer hostOf
  split
  · rename_i hlocator
    cases Locator.read url <;> simp [Except.map, hlocator]
  · rename_i hlocator
    simp [Except.map, hlocator]

end CloudClient.Region
