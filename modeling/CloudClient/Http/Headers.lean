import CloudClient.Json.Value
import CloudClient.Text.Case

/-!
# Headers

The headers of a request are a map from names to values in which the case of
a name matters: that is how they are put together before they are sent. Their
values may be any document value, since a token is whatever the identity
service called one.

The headers of a response are looked up without regard to case. They arrive
as a row of names and values; first an exactly repeated name overwrites
itself, then names that differ in case only are merged, the last one giving
both the spelling and the value.
-/

namespace CloudClient

/-- The headers of a request. -/
abbrev RequestHeaders := OrderedMap String Json

/-- The headers of a response: by name in lower case, the spelling and the
value. -/
structure ResponseHeaders where
  /-- The merged headers. -/
  entries : OrderedMap String (String × String)

namespace ResponseHeaders

/-- No headers. -/
def empty : ResponseHeaders := ⟨.empty⟩

/-- The headers with one more, merged. -/
def set (h : ResponseHeaders) (name value : String) : ResponseHeaders :=
  ⟨h.entries.put (Text.lower name) (name, value)⟩

/-- The headers that a row of names and values gives. -/
def ofList (row : List (String × String)) : ResponseHeaders :=
  (OrderedMap.ofList row).entries.foldl (fun h e => h.set e.1 e.2) empty

/-- The headers with their spelling. -/
def toList (h : ResponseHeaders) : List (String × String) := h.entries.values

/-- The value of a header as it arrived. -/
def get? (h : ResponseHeaders) (name : String) : Option String :=
  (h.entries.find? (Text.lower name)).map Prod.snd

/-- The trimmed value of a header; a blank one counts as missing. -/
def value? (h : ResponseHeaders) (name : String) : Option String :=
  (h.get? name).bind Text.nonBlank?

end ResponseHeaders

end CloudClient
