import RustOp.Web.ClientAuth
import RustOp.Grants

/-!
The token endpoint, and the check that protects every endpoint which takes an
access token.
-/
namespace RustOp.Web
open RustOp.Effects RustOp.Text

/-- The registered grant for a `grant_type`. -/
def find_grant (grant_type : String) : Option Grant :=
  [Grant.authorization_code, .refresh_token, .ciba].find? fun g => g.grant_type == grant_type

/-- The key of the proof, if the request shows one. A client that is bound to
    DPoP has to. -/
def token_jkt (p : Server) (client : Client) (headers : Headers) : Prog Host (Except OAuthError (Option String)) := do
  match dpop_header headers with
  | some proof =>
    match ← Es256Dpop.verify p proof "POST" (p.issuer ++ "/token") none with
    | .ok jkt => return .ok (some jkt)
    | .error e => return .error (.InvalidDpopProof e)
  | none =>
    if client.dpop_bound then
      return .error (.InvalidDpopProof "DPoP proof required")
    return .ok none

def token (p : Server) (uuid : Draw → String) (headers : Headers) (form : Form) : Prog Host Response := do
  let some grant_type := form.get "grant_type" | return .oauth_error (.InvalidRequest "grant_type required")
  let some grant := find_grant grant_type | return .oauth_error (.UnsupportedGrantType grant_type)
  match ← authenticate_client p headers form with
  | .error e => return .oauth_error e
  | .ok client =>
  if !client.allows_grant grant_type then
    return .oauth_error (.UnauthorizedClient ("grant " ++ grant_type ++ " not allowed"))
  match ← token_jkt p client headers with
  | .error e => return .oauth_error e
  | .ok dpop_jkt =>
  match ← backend (grant.handle p.toProvider uuid client form dpop_jkt) with
  | .ok resp => return .token resp
  | .error e => return .oauth_error e

/-! ### Access tokens -/

/-- The token a request shows, with its scheme. A token in the body counts as
    Bearer. -/
def presented_token (headers : Headers) (body_token : Option String) : Option (String × String) :=
  match auth_scheme_token headers with
  | some x => some x
  | none => body_token.map fun t => ("Bearer", t)

/-- Checks the proof of a request that shows a bound token. -/
def check_proof (p : Server) (headers : Headers) (method path_suffix scheme token jkt : String) :
    Prog Host (Except Response Unit) := do
  if scheme ≠ "DPoP" then
    return .error (.text 401 "DPoP scheme required")
  match dpop_header headers with
  | none => return .error (.text 401 "DPoP proof required")
  | some proof =>
    match ← Es256Dpop.verify p proof method (p.issuer ++ path_suffix) (some (Es256Dpop.ath p.toPlatform token)) with
    | .error e => return .error (.text 401 ("DPoP: " ++ e))
    | .ok got =>
      if got = jkt then
        return .ok ()
      return .error (.text 401 "DPoP jkt mismatch")

/-- The access token of a request to a protected endpoint. -/
def authenticate_token (p : Server) (headers : Headers) (method path_suffix : String) (body_token : Option String) :
    Prog Host (Except Response AccessToken) := do
  let some (scheme, token) := presented_token headers body_token
    | return .error (.text 401 "access token required")
  let some at_ ← store (.get_access_token token) | return .error (.text 401 "invalid token")
  match at_.jkt with
  | none => return .ok at_
  | some jkt =>
    match ← check_proof p headers method path_suffix scheme token jkt with
    | .error r => return .error r
    | .ok () => return .ok at_

/-- The endpoints that answer to an access token only. -/
inductive Protected where
  | ciba_pending
  | ciba_history
  | ciba_fcm_tokens
  | userinfo_get
  | userinfo_post
  | profile_get
  | profile_put
deriving DecidableEq, Repr

namespace Protected

def method : Protected → String
  | .ciba_pending | .ciba_history | .userinfo_get | .profile_get => "GET"
  | .ciba_fcm_tokens | .userinfo_post => "POST"
  | .profile_put => "PUT"

def path_suffix : Protected → String
  | .ciba_pending => "/ciba/pending"
  | .ciba_history => "/ciba/history"
  | .ciba_fcm_tokens => "/ciba/fcm-tokens"
  | .userinfo_get | .userinfo_post => "/userinfo"
  | .profile_get | .profile_put => "/me/profile"

/-- Only one of them looks into the body for a token. -/
def body_token (p : Server) (body : String) : Protected → Option String
  | .userinfo_post => (p.form body).get "access_token"
  | _ => none

/-- Its first step: the token, or the answer that refuses the request. -/
def authenticate (e : Protected) (p : Server) (headers : Headers) (body : String) : Prog Host (Except Response AccessToken) :=
  authenticate_token p headers e.method e.path_suffix (e.body_token p body)

end Protected

end RustOp.Web
