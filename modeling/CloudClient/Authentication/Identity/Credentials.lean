import CloudClient.Json.Writer
import CloudClient.Session

/-!
# Credentials for an identity service

The credentials go to an identity service as a document. Its form depends on
the family of the operator: what the pair of keys is called, and how the
tenant is named. A tenant is named by its identifier or by its name, and an
account of exactly `tenantIdLength` characters is taken for an identifier; one
operator always wants the identifier, and one wants no tenant at all.
-/

namespace CloudClient.Identity

/-- How many characters the identifier of a tenant has. -/
def tenantIdLength : Nat := 32

/-- The tenant that an account denotes, as a member of the credentials. -/
def tenantMember (account : String) : String × Json :=
  if account.length = tenantIdLength then ("tenantId", .str account)
  else ("tenantName", .str account)

/-- The members of the credentials for an operator of the given family. -/
def credentialMembers (family : OperatorFamily) (account publicKey privateKey : String) :
    List (String × Json) :=
  match family with
  | .hp =>
    [("apiAccessKeyCredentials",
        .obj [("accessKey", .str publicKey), ("secretKey", .str privateKey)]),
      ("tenantId", .str account)]
  | .rackspace =>
    [("RAX-KSKEY:apiKeyCredentials",
        .obj [("username", .str publicKey), ("apiKey", .str privateKey)])]
  | _ =>
    [("passwordCredentials",
        .obj [("username", .str publicKey), ("password", .str privateKey)]),
      tenantMember account]

/-- The document of a session's credentials. -/
def credentials (s : Session) : Except Defect Json :=
  match s.publicText with
  | .error d => .error d
  | .ok publicKey => match s.privateText with
    | .error d => .error d
    | .ok privateKey =>
      .ok (.obj [("auth", .ofEntries (credentialMembers s.family s.account publicKey privateKey))])

end CloudClient.Identity
