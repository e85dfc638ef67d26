import RustOp.Web.Ciba
import RustOp.Web.Token

/-!
Asking for a backchannel authentication, and what users are shown of the requests
that are meant for them.
-/
namespace RustOp.Web
open RustOp.Effects RustOp.Text registration

def CIBA_GRANT : String := "urn:openid:params:grant-type:ciba"

/-! ### Parameters -/

namespace backchannel

/-- The parameters: those of the form, or of its request object. A client with a
    key of its own has to sign. -/
def parameters (p : Server) (client : Client) (form : Form) : Prog Host (Except OAuthError Form) :=
  match form.get "request" with
  | some req => request_object.verify p client req
  | none =>
    if client.token_endpoint_auth_method == "private_key_jwt" then
      return .error (.InvalidRequest "signed request object required for this client")
    else return .ok form

def HINTS : List String := ["login_hint", "id_token_hint", "login_hint_token"]

/-- The one hint, which has to be an address. -/
def login_hint (p : Site) (form : Form) : Except OAuthError String := do
  if (HINTS.filter fun k => (form.get k).isSome).length ≠ 1 then
    throw (.InvalidRequest "exactly one of login_hint/id_token_hint/login_hint_token is required")
  match form.get "login_hint" with
  | some s => return p.to_lowercase (trim s)
  | none => throw (.InvalidRequest "login_hint required")

def scope (form : Form) : Except OAuthError String :=
  let scope := (form.get "scope").getD "openid"
  if has_scope scope "openid" then .ok scope else .error (.InvalidScope "openid scope required")

/-- A short array of objects with a type each, as the text that was sent. -/
def authorization_details (p : Provider) (form : Form) : Except OAuthError (Option String) :=
  match form.get "authorization_details" with
  | none => .ok none
  | some raw => do
    if byte_len raw > 4096 then
      throw (.InvalidRequest "authorization_details too large")
    match p.from_str raw with
    | none => throw (.InvalidRequest "authorization_details must be JSON")
    | some (.arr entries) =>
      if entries.isEmpty || entries.length > 5 then
        throw (.InvalidRequest "authorization_details must have 1..=5 entries")
      if entries.any fun e => (e.get_str "type").isNone then
        throw (.InvalidRequest "authorization_details entry requires 'type'")
      return some raw
    | some _ => throw (.InvalidRequest "authorization_details must be a JSON array")

/-- What a request asks for. -/
structure Terms where
  login_hint : String
  scope : String
  binding_message : String
  authorization_details : Option String

def terms (p : Site) (form : Form) : Except OAuthError Terms := do
  let hint ← login_hint p form
  let scope ← scope form
  let details ← authorization_details p.toProvider form
  return ⟨hint, scope, (form.get "binding_message").getD "", details⟩

def answer (auth_req_id : String) (expires_in : Nat) : Response :=
  .json 200 (.obj [("auth_req_id", .str auth_req_id), ("expires_in", .num expires_in), ("interval", .num 2)])

/-- The answer to a client that asks too often. -/
def slow_down : Response :=
  .json 429 (.obj [("error", .str "slow_down"), ("error_description", .str "rate limit exceeded for this client/user")])

/-- Asks the user, once it is known whom. A request that waits already is answered
    again. Whether the limiter admits another one is given. -/
def create (uuid : Draw → String) (admitted : Bool) (client : Client) (account_id : String) (terms : Terms) :
    Prog Host Response := do
  match ← ciba (.list_pending terms.login_hint) with
  | .error _ => return .text 500 "error"
  | .ok pending =>
  if let some existing := pending.find? fun r => r.client_id == client.client_id then
    return answer existing.auth_req_id (existing.expires_at - (← now))
  if !admitted then
    return slow_down
  match ← ciba (.create (uuid .auth_req_id) client.client_id account_id terms.scope terms.binding_message
      terms.authorization_details) with
  | .ok id =>
    -- the device of the user is looked up and notified, as far as that works
    let _ ← fs (.get_doc .fcmTokens account_id)
    return answer id 300
  | .error _ => return .text 500 "error"

end backchannel

/-! ### Asking -/

/-- The account of an address that has a passkey and is not frozen. -/
def backchannel_account (login_hint : String) : Prog Host (Except Response String) := do
  match ← firestore (get_credential login_hint) with
  | .error _ => return .error (.text 500 "error")
  | .ok found =>
    match found with
    | some c =>
      if !c.account_id.isEmpty && !c.disabled then
        return .ok c.account_id
      return .error (.oauth_error (.InvalidRequest "unknown user_id"))
    | none => return .error (.oauth_error (.InvalidRequest "unknown user_id"))

def backchannel_auth (p : Site) (uuid : Draw → String) (admitted : Bool) (headers : Headers) (form : Form) :
    Prog Host Response := do
  if !p.has_firestore then
    return .text 503 "no firestore"
  match ← authenticate_client p.toServer headers form with
  | .error e => return .oauth_error e
  | .ok client =>
  if !client.allows_grant CIBA_GRANT then
    return .oauth_error (.UnauthorizedClient "ciba grant not allowed")
  match ← backchannel.parameters p.toServer client form with
  | .error e => return .oauth_error e
  | .ok params =>
  match backchannel.terms p params with
  | .error e => return .oauth_error e
  | .ok terms =>
  match ← backchannel_account terms.login_hint with
  | .error r => return r
  | .ok account_id => backchannel.create uuid admitted client account_id terms

/-! ### What users are shown -/

/-- The details as they were sent, if they still are JSON. -/
def shown_details (p : Provider) (details : Option String) : Json := (details.bind p.from_str).getD .null

def shown_request (p : Provider) (r : BackchannelAuthRequest) : Json :=
  .obj [("auth_req_id", .str r.auth_req_id), ("client_id", .str r.client_id), ("scope", .str r.scope),
    ("binding_message", .str r.binding_message), ("authorization_details", shown_details p r.authorization_details)]

def shown_entry (p : Provider) (e : CibaHistoryEntry) : Json :=
  .obj [("auth_req_id", .str e.auth_req_id), ("client_id", .str e.client_id), ("scope", .str e.scope),
    ("binding_message", .str e.binding_message), ("authorization_details", shown_details p e.authorization_details),
    ("outcome", .str e.outcome), ("resolved_at", .num e.resolved_at)]

/-- The requests that wait for the owner of an access token. Expired ones are swept
    into the history first. -/
def ciba_pending_list (p : Server) (headers : Headers) : Prog Host Response := do
  match ← authenticate_token p headers "GET" "/ciba/pending" none with
  | .error r => return r
  | .ok at_ =>
  let _ ← ciba (.sweep_expired at_.account_id)
  let pending := (← ciba (.list_pending at_.account_id)).toOption.getD []
  return .json 200 (.arr (pending.map (shown_request p.toProvider)))

/-- The fifty latest outcomes of requests to the owner of an access token. -/
def ciba_history (p : Server) (headers : Headers) : Prog Host Response := do
  match ← authenticate_token p headers "GET" "/ciba/history" none with
  | .error r => return r
  | .ok at_ =>
  let _ ← ciba (.sweep_expired at_.account_id)
  let entries := (← ciba (.list_history at_.account_id 50)).toOption.getD []
  return .json 200 (.arr (entries.map (shown_entry p.toProvider)))

end RustOp.Web
