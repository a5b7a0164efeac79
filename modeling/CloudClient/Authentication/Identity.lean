import CloudClient.Authentication.EndpointList
import CloudClient.Authentication.Identity.Credentials
import CloudClient.Authentication.Identity.Grant
import CloudClient.Authentication.Outcome

/-!
# Authentication at an identity service

The dialect `Dialect.identity` is one request: the credentials go as a
document to the path `/tokens` of the first endpoint, and the answer is a
grant. An answer with the status of success is settled by its document alone.
A server error whose body has a fault document in it counts as a rejection,
since that is how endpoints answer that do not know the dialect.
-/

namespace CloudClient.Identity

/-- The path of the resource that grants tokens. -/
def tokensPath : String := "/tokens"

/-- What the body of a server error has in it if it is a fault document. -/
def faultMark : String := "<faultstring>"

/-- The type of a body that is a document. -/
def documentType : String := "application/json"

/-- The request with a document of credentials. -/
def request (endpoints : String) (credentials : Json) : Request where
  method := "POST"
  url := Text.withoutTrailing '/' (EndpointList.first endpoints) ++ tokensPath
  headers := .ofList [("Content-Type", .str documentType), ("Accept", .str documentType)]
  body := some (Utf8.encode credentials.write)

/-- What an answer without the status of success means. -/
def refuse (answer : Response) : Except Defect Outcome :=
  if answer.status = 500 ∧ Text.hasWithin faultMark answer.text then .ok (.rejected .faultDocument)
  else match answer.rejects with
    | .error defect => .error defect
    | .ok true => .ok (.rejected (.status answer.status))
    | .ok false => Outcome.unexpected answer tokensPath

/-- What an answer means. -/
def judge (s : Session) (answer : Response) : Except Defect Outcome :=
  if answer.status = successCode then
    Outcome.settle ((catalogOf s answer.text).map .authenticated)
  else refuse answer

/-- The attempt in this dialect. -/
def attempt (s : Session) (endpoints : String) : Attempt :=
  match credentials s with
  | .error defect => .ended (.error defect)
  | .ok credentials =>
    .exchange (request endpoints credentials)
      (fun fault => .ended (.ok (.failed fault)))
      (fun answer => .ended (judge s answer))

end CloudClient.Identity
