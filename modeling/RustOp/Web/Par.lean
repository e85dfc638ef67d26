import RustOp.Web.ClientAuth

/-!
Pushed authorization requests: the parameters of a request are stored under a
`request_uri`, which the authorization endpoint reads until a code was issued
for it.
-/
namespace RustOp.Web
open RustOp.Effects RustOp.Text

/-! ### Stored requests -/

namespace par

def TTL_SECS : Nat := 60
def URN_PREFIX : String := "urn:ietf:params:oauth:request_uri:"

/-- A stored request: who pushed it, its parameters as urlencoded text, and when
    it expires. -/
def fields (client_id params : String) (expires_at : Nat) : Firestore.Fields :=
  .ofEntries
    [("clientId", some (.string client_id)), ("params", some (.string params)),
      ("expiresAt", some (Firestore.ts expires_at))]

/-- Stores a request under a fresh identifier. -/
def create (id client_id params : String) : Prog Host (Except String String) := do
  let now ← fs .now
  match ← fs (.set_doc .parRequests id (fields client_id params (now + TTL_SECS))) with
  | .error e => return .error e
  | .ok () => return .ok (URN_PREFIX ++ id)

/-- The identifier of a `request_uri` that may have been issued. -/
def id_of (request_uri : String) : Option String :=
  ( strip_prefix URN_PREFIX request_uri).filter fun id => 20 ≤ byte_len id && byte_len id ≤ 100

/-- Reads a request without deleting it. -/
def peek (request_uri : String) : Prog Host (Except String (Option (String × String))) := do
  let some id := id_of request_uri | return .ok none
  match ← fs (.get_doc .parRequests id) with
  | .error e => return .error e
  | .ok none => return .ok none
  | .ok (some f) =>
    let now ← fs .now
    if Firestore.expired_at f now then
      return .ok none
    return .ok (some ((Firestore.field_str f "clientId").getD "", (Firestore.field_str f "params").getD ""))

/-- Deletes a request; whether that works is not looked at. -/
def delete (request_uri : String) : Prog Host Unit := do
  match strip_prefix URN_PREFIX request_uri with
  | some id =>
    let _ ← fs (.delete_doc .parRequests id)
    return ()
  | none => return ()

end par

/-! ### The endpoint -/

/-- The parameters to store: those of the request object, if there is one. -/
def par_params (p : Server) (client : Client) (body : String) : Prog Host (Except OAuthError String) := do
  match (p.form body).get "request" with
  | none => return .ok body
  | some req =>
    match ← request_object.verify p client req with
    | .ok params => return .ok (p.to_string params)
    | .error e => return .error e

/-- Binds the request to the key of its proof. A key that the parameters name
    has to be the same. -/
def par_bound (p : Server) (headers : Headers) (body : String) : Prog Host (Except OAuthError String) := do
  match dpop_header headers with
  | none => return .ok body
  | some proof =>
    match ← Es256Dpop.verify p proof "POST" (p.issuer ++ "/par") none with
    | .error e => return .error (.InvalidDpopProof e)
    | .ok jkt =>
      match (p.form body).get "dpop_jkt" with
      | some req =>
        if req ≠ jkt then
          return .error (.InvalidDpopProof "dpop_jkt does not match the DPoP proof presented to the PAR endpoint")
        return .ok body
      | none => return .ok (body ++ "&dpop_jkt=" ++ jkt)

def par (p : Server) (uuid : Draw → String) (headers : Headers) (body : String) : Prog Host Response := do
  if !p.has_firestore then
    return .text 503 "no firestore"
  if ((p.form body).get "request_uri").isSome then
    return .oauth_error (.InvalidRequest "request_uri must not be used in a PAR request")
  match ← authenticate_client p headers (p.form body) with
  | .error e => return .oauth_error e
  | .ok client =>
  match ← par_params p client body with
  | .error e => return .oauth_error e
  | .ok body =>
  if ((p.form body).get "client_id").any (· ≠ client.client_id) then
    return .oauth_error (.InvalidRequest "client_id mismatch")
  match ← par_bound p headers body with
  | .error e => return .oauth_error e
  | .ok body =>
  match ← par.create (uuid .request_uri) client.client_id body with
  | .error _ => return .text 500 "error"
  | .ok request_uri => return .pushed request_uri par.TTL_SECS

end RustOp.Web
