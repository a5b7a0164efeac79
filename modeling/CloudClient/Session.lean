import CloudClient.Bytes.Utf8
import CloudClient.Fault
import CloudClient.Operator

/-!
# Sessions

A session is what a client is opened with: where to authenticate, for
which account, with which pair of keys, and how to reach the network. It does
not change while the client is in use, so it can name the client's entry in a
cache: `Session.cacheKey` is the account, the region and the endpoint.
Neither the keys nor the operator are part of that name.

The endpoint is never blank; `Session.establish` refuses such a session, and
one without an account.
-/

namespace CloudClient

/-- One key of a pair: a text, or octets that encode one. -/
inductive AccessKey where
  | text (s : String)
  | octets (bytes : Octets)
  deriving DecidableEq, Repr

/-- The text of a key. -/
def AccessKey.read : AccessKey → Except Defect String
  | .text s => .ok s
  | .octets bytes =>
    match Utf8.decode? bytes with
    | some s => .ok s
    | none => .error .undecodable

/-- What a session has besides its endpoint and account. -/
structure Access where
  /-- The public key, or user name. -/
  publicKey : AccessKey := .text ""
  /-- The private key, or password. -/
  privateKey : AccessKey := .text ""
  /-- The region that the session chooses. -/
  region : Option String := none
  /-- The name of the operator. -/
  operator : Option String := some "OpenStack"
  /-- Whether certificates go unchecked. -/
  insecure : Bool := false
  /-- The host of the proxy. -/
  proxyHost : Option String := none
  /-- The port of the proxy. -/
  proxyPort : Option Int := none
  deriving DecidableEq, Repr

/-- What a client is opened with. -/
structure Session extends Access where
  /-- Where to authenticate. -/
  endpoint : String
  /-- The account that is used. -/
  account : String
  /-- The endpoint is not blank. -/
  endpoint_not_blank : Text.allBlank endpoint = false

/-- The name of a session's entry in a cache. -/
structure CacheKey where
  account : String
  region : Option String
  endpoint : String
  deriving DecidableEq, Repr

namespace Session

/-- The session with the given endpoint, account and access. -/
def establish (endpoint account : Option String) (access : Access) : Except Fault Session :=
  let endpoint := endpoint.getD ""
  if h : Text.allBlank endpoint = false then
    match account with
    | some account =>
      .ok { access with endpoint := endpoint, account := account, endpoint_not_blank := h }
    | none => .error (.setting .noAccount "account")
  else .error (.setting .noEndpoint "endpoint")

/-- The text of the public key. -/
def publicText (s : Session) : Except Defect String := s.publicKey.read

/-- The text of the private key. -/
def privateText (s : Session) : Except Defect String := s.privateKey.read

/-- The family of the operator. -/
def family (s : Session) : OperatorFamily := .ofName s.operator

/-- The name of the session's entry in a cache. -/
def cacheKey (s : Session) : CacheKey := ⟨s.account, s.region, s.endpoint⟩

/-- The region that the session chooses, unless it is empty. -/
def chosenRegion (s : Session) : Region :=
  match s.region with
  | none => none
  | some region => if region = "" then none else Region.named region

/-- Where the proxy is, if there is one. -/
def proxyUrl (s : Session) : Option String :=
  match s.proxyHost with
  | none => none
  | some host =>
    if host = "" then none
    else match s.proxyPort with
      | none => some ("http://" ++ host)
      | some port =>
        if port = 0 then some ("http://" ++ host)
        else some ("http://" ++ host ++ ":" ++ toString port)

end Session

end CloudClient
