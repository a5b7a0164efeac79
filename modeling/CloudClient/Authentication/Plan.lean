import CloudClient.Authentication.Outcome

/-!
# Plans

Which dialects to try and in which order is read off the endpoint. A mark in
front names a single dialect; an endpoint that ends in an early version is
tried with headers first; and any other with the identity service first. A
plan names its dialects, and a name need not be that of a dialect anybody
knows.
-/

namespace CloudClient

/-- Which dialects to try, and where. -/
structure Plan where
  /-- The names of the dialects, in the order to try them in. -/
  order : List String
  /-- The endpoint without a mark. -/
  endpoint : String
  deriving DecidableEq, Repr

namespace Plan

/-- The mark of an endpoint that is an identity service. -/
def identityMark : String := "ks:"

/-- The mark of an endpoint that speaks through headers. -/
def regionalMark : String := "st:"

/-- The endings of endpoints of an early version. -/
def earlyEndings : List String := ["1.0", "1.1"]

/-- The plan with the given dialects. -/
def of (order : List Dialect) (endpoint : String) : Plan := ⟨order.map Dialect.name, endpoint⟩

/-- Whether an endpoint ends in an early version, slashes aside. -/
def isEarly (endpoint : String) : Bool :=
  earlyEndings.any fun ending => Text.endsWith ending (Text.withoutTrailing '/' endpoint)

/-- The plan for an endpoint. -/
def choose (endpoint : String) : Plan :=
  let endpoint := Text.trim endpoint
  if Text.startsWith identityMark endpoint then
    of [.identity] (Text.dropFirst identityMark.length endpoint)
  else if Text.startsWith regionalMark endpoint then
    of [.regional] (Text.dropFirst regionalMark.length endpoint)
  else if isEarly endpoint then of [.regional, .storage, .identity] endpoint
  else of [.identity, .regional, .storage] endpoint

end Plan

end CloudClient
