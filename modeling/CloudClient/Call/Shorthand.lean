import CloudClient.Call.Execution

/-!
# Common calls

Most calls are of a few sorts: a document or a text is fetched, the headers
of a resource are looked at, a document is posted, octets are put, a resource
is deleted. What an absent resource means is decided once for each sort, and
it is never a fault: there is no document, no text, there are no headers, and
nothing was deleted.

Octets that have been put can be checked: the other side gives the sum of what
it has received in a header, and a sum that differs from the expected one is a
fault. Quotes around the sum and the case of its letters do not count.
-/

namespace CloudClient.Caller

/-- Makes a call and reads its result. -/
def executeFor {α : Type} (c : Caller) (call : Call) (read : CallResult → Except Failure α)
    (w : Surroundings) : Except Failure α × Surroundings :=
  let made := c.execute call w
  match made.1 with
  | .error failure => (.error failure, made.2)
  | .ok result => (read result, made.2)

/-- The document of a result; null if the resource is absent. -/
def documentOf (r : CallResult) : Except Failure Json := if r.found then r.json else .ok .null

/-- Fetches a document; null if the resource is absent. -/
def getJson (c : Caller) (service path : String) (resource : Option Json) :
    Surroundings → Except Failure Json × Surroundings :=
  c.executeFor { service, method := "GET", path := some path, resource } documentOf

/-- Fetches a text, unless the resource is absent. -/
def getText (c : Caller) (service path : String) (resource : Option Json) :
    Surroundings → Except Failure (Option String) × Surroundings :=
  c.executeFor { service, method := "GET", path := some path, resource } fun r =>
    .ok (if r.found then some r.text else none)

/-- Fetches the headers, unless the resource is absent. -/
def head (c : Caller) (service path : String) (resource : Option Json) :
    Surroundings → Except Failure (Option ResponseHeaders) × Surroundings :=
  c.executeFor { service, method := "HEAD", path := some path, resource } fun r =>
    .ok (if r.found then some r.headers else none)

/-- Posts a body and gives the document of the answer; null if the resource is
absent. -/
def postJson (c : Caller) (service path : String) (resource : Option Json) (body : Body) :
    Surroundings → Except Failure Json × Surroundings :=
  c.executeFor { service, method := "POST", path := some path, resource, body } documentOf

/-- Deletes a resource; says whether it was there. -/
def delete (c : Caller) (service path : String) (resource : Option Json) :
    Surroundings → Except Failure Bool × Surroundings :=
  c.executeFor { service, method := "DELETE", path := some path, resource } fun r => .ok r.found

/-! ## Checked uploads -/

/-- The header with the sum of what has been received. -/
def sumHeader : String := "ETag"

/-- A text without the quotes around it. -/
def unquoted (s : String) : String :=
  String.ofList (Text.dropEndWhile (· == '"') (s.toList.dropWhile (· == '"')))

/-- The sum that a result reports; empty if it reports none. -/
def reportedSum (r : CallResult) : String :=
  unquoted (Text.trim ((r.headers.get? sumHeader).getD ""))

/-- What has been received is not what has been sent. -/
def sumMismatch (code : Int) (expected reported : String) : Fault :=
  .call code "checksumMismatch"
    ("Uploaded content MD5 " ++ expected ++ " does not match ETag " ++ reported)

/-- The result, unless it reports another sum than the expected one. -/
def checkSum (expected : Option String) (r : CallResult) : Except Fault CallResult :=
  match expected with
  | none => .ok r
  | some expected =>
    let reported := reportedSum r
    if expected ≠ "" ∧ r.found ∧ reported ≠ "" ∧ ¬ Text.sameIgnoringCase reported expected then
      .error (sumMismatch r.code expected reported)
    else .ok r

/-- Puts a body, and checks its sum if one is expected. -/
def putBytes (c : Caller) (service path : String) (resource : Option Json) (body : Body)
    (sum : Option String) (headers : List (String × Json)) :
    Surroundings → Except Failure CallResult × Surroundings :=
  c.executeFor { service, method := "PUT", path := some path, resource, body, headers }
    fun r => (checkSum sum r).mapError .fault

end CloudClient.Caller
