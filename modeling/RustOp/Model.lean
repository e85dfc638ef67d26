import RustOp.Text
import Mathlib

/-!
The records of the provider and its error values, field for field.
-/
namespace RustOp
open RustOp.Text

/-- A P-256 public key of a client, for signatures it makes. -/
structure JwkPub where
  kid : String
  x : String
  y : String
deriving DecidableEq, Repr

/-- A registered client. -/
structure Client where
  client_id : String
  redirect_uris : List String
  token_endpoint_auth_method : String
  client_secret : Option String
  grant_types : List String
  post_logout_redirect_uris : List String
  dpop_bound : Bool
  jwks : List JwkPub
  jwks_uri : Option String
  require_par : Bool
  require_pkce : Bool
  id_token_signed_response_alg : Option String
deriving DecidableEq, Repr

def Client.is_public (client : Client) : Bool := client.token_endpoint_auth_method == "none"
def Client.allows_grant (client : Client) (gt : String) : Bool := client.grant_types.any (· == gt)

/-- The parameters of an authorization request. -/
structure AuthParams where
  client_id : Option String
  redirect_uri : Option String
  response_type : Option String
  scope : Option String
  state : Option String
  nonce : Option String
  prompt : Option String
  max_age : Option String
  acr_values : Option String
  response_mode : Option String
  code_challenge : Option String
  code_challenge_method : Option String
  dpop_jkt : Option String
  resource : Option String
deriving DecidableEq, Repr

/-- An authorization request waiting for a login. -/
structure Interaction where
  uid : String
  raw_query : String
  account_id : Option String
  auth_time : Option Nat
  request_uri : Option String
deriving DecidableEq, Repr

/-- A browser session. -/
structure Session where
  sid : String
  account_id : String
  auth_time : Nat
deriving DecidableEq, Repr

structure AuthorizationCode where
  code : String
  client_id : String
  account_id : String
  redirect_uri : String
  scope : String
  nonce : Option String
  code_challenge : Option String
  code_challenge_method : Option String
  auth_time : Nat
  acr : Option String
  dpop_jkt : Option String
  resource : Option String
  expires_at : Nat
deriving DecidableEq, Repr

structure AccessToken where
  token : String
  client_id : String
  account_id : String
  scope : String
  jkt : Option String
  aud : Option String
  acr : Option String
  auth_time : Option Nat
  authorization_details : Option String
  mandate_consumed : Bool
deriving DecidableEq, Repr

structure RefreshToken where
  token : String
  client_id : String
  account_id : String
  scope : String
  resource : Option String
  jkt : Option String
  acr : Option String
  auth_time : Option Nat
  family_id : String
  used : Bool
  replaced_by : Option String
deriving DecidableEq, Repr

/-- A JSON value. A number that is not an integer is kept as its text. -/
inductive Json where
  | null
  | bool (b : Bool)
  | num (n : Int)
  | float (text : String)
  | str (s : String)
  | arr (items : List Json)
  | obj (fields : List (String × Json))

/-- The value of a field of an object; a later field replaces an earlier one of
    the same name. -/
def Json.get (name : String) : Json → Option Json
  | .obj fields => (fields.reverse.find? fun field => field.1 == name).map Prod.snd
  | _ => none

def Json.as_str : Json → Option String
  | .str s => some s
  | _ => none

/-- An integer, if it fits in 64 bits with a sign. -/
def Json.as_i64 : Json → Option Int
  | .num n => if -9223372036854775808 ≤ n ∧ n < 9223372036854775808 then some n else none
  | _ => none

/-- The text of a field, if it is one. -/
def Json.get_str (j : Json) (name : String) : Option String := (j.get name).bind Json.as_str

/-- The integer of a field, if it is one. -/
def Json.get_i64 (j : Json) (name : String) : Option Int := (j.get name).bind Json.as_i64

/-- The claims of an identity token and the algorithm that signs them: a
    compact serialization up to its encoding. -/
structure IdToken where
  alg : String
  iss : String
  sub : String
  aud : String
  iat : Nat
  exp : Nat
  at_hash : String
  nonce : Option String
  auth_time : Option Nat
  acr : Option String
deriving DecidableEq, Repr

/-- The body of a successful token response. -/
structure TokenResponse where
  access_token : String
  token_type : String
  expires_in : Nat
  scope : String
  id_token : Option IdToken
  refresh_token : Option String
  authorization_details : Option Json

inductive OAuthError where
  | InvalidRequest (description : String)
  | InvalidClient (description : String)
  | UnauthorizedClient (description : String)
  | InvalidGrant (description : String)
  | UnsupportedGrantType (description : String)
  | UnsupportedResponseType (description : String)
  | InvalidScope (description : String)
  | InvalidTarget (description : String)
  | AccessDenied (description : String)
  | LoginRequired (description : String)
  | RequestUriNotSupported (description : String)
  | InvalidDpopProof (description : String)
  | AuthorizationPending (description : String)
  | ExpiredToken (description : String)
  | ServerError (description : String)
deriving DecidableEq, Repr

def OAuthError.code : OAuthError → String
  | .InvalidRequest _ => "invalid_request"
  | .InvalidClient _ => "invalid_client"
  | .UnauthorizedClient _ => "unauthorized_client"
  | .InvalidGrant _ => "invalid_grant"
  | .UnsupportedGrantType _ => "unsupported_grant_type"
  | .UnsupportedResponseType _ => "unsupported_response_type"
  | .InvalidScope _ => "invalid_scope"
  | .InvalidTarget _ => "invalid_target"
  | .AccessDenied _ => "access_denied"
  | .LoginRequired _ => "login_required"
  | .RequestUriNotSupported _ => "request_uri_not_supported"
  | .InvalidDpopProof _ => "invalid_dpop_proof"
  | .AuthorizationPending _ => "authorization_pending"
  | .ExpiredToken _ => "expired_token"
  | .ServerError _ => "server_error"

def OAuthError.description : OAuthError → String
  | .InvalidRequest s | .InvalidClient s | .UnauthorizedClient s | .InvalidGrant s | .UnsupportedGrantType s
  | .UnsupportedResponseType s | .InvalidScope s | .InvalidTarget s | .AccessDenied s | .LoginRequired s
  | .RequestUriNotSupported s | .InvalidDpopProof s | .AuthorizationPending s | .ExpiredToken s | .ServerError s => s

def has_scope (scope want : String) : Bool := (split_whitespace scope).any (· == want)

/-- The values a scope string lists. -/
def scopeValues (scope : String) : Set String := {value | value ∈ split_whitespace scope}

theorem has_scope_iff {scope want : String} : has_scope scope want ↔ want ∈ scopeValues scope := by
  simp [has_scope, scopeValues]

end RustOp
