import RustOp.Provider

/-!
The grant handlers of the token endpoint, each a sequence of store operations.
-/
namespace RustOp
open RustOp.Effects RustOp.Text

/-- Leftmost half of the digest of the access token. -/
def at_hash (p : Provider) (access_token : String) : String :=
  p.b64url ((p.sha256 access_token).take 16)

/-- Saves a new access token, then signs the identity token. A client whose
    algorithm has no key gets an error after the token was saved. -/
def issue_access_and_id (p : Provider) (uuid : Draw → String) (client_id account_id scope : String)
    (nonce : Option String) (auth_time : Option Nat)
    (acr dpop_jkt id_token_alg resource authorization_details : Option String) :
    Prog Backend (Except OAuthError (String × IdToken)) := do
  let access_token := uuid .access_token
  store (.save_access_token
    { token := access_token, client_id, account_id, scope, jkt := dpop_jkt, aud := resource, acr,
      auth_time, authorization_details, mandate_consumed := false })
  let iat ← now
  match p.signer_for id_token_alg with
  | .error e => return .error e
  | .ok alg =>
    return .ok (access_token,
      { alg, iss := p.issuer, sub := account_id, aud := client_id, iat, exp := iat + 900,
        at_hash := at_hash p access_token, nonce, auth_time, acr })

/-- The first refresh token of a family, when the scope asks for one. -/
def maybe_issue_refresh (uuid : Draw → String) (client_id account_id scope : String)
    (resource acr : Option String) (auth_time : Option Nat) (jkt : Option String) (is_public : Bool) :
    Prog Backend (Option String) := do
  if !has_scope scope "offline_access" then
    return none
  if jkt.isNone && is_public then
    return none
  let token := uuid .refresh_token
  store (.save_refresh_token
    { token, client_id, account_id, scope, resource, jkt, acr, auth_time,
      family_id := uuid .family_id, used := false, replaced_by := none })
  return some token

def token_type (dpop_jkt : Option String) : String :=
  if dpop_jkt.isSome then "DPoP" else "Bearer"

def check_redirect_uri (form : Form) (code : AuthorizationCode) : Except OAuthError Unit :=
  match form.get "redirect_uri" with
  | none => .error (.InvalidRequest "redirect_uri required")
  | some redirect_uri =>
    if redirect_uri = code.redirect_uri then .ok () else .error (.InvalidGrant "redirect_uri mismatch")

def check_code_verifier (p : Provider) (form : Form) (code : AuthorizationCode) : Except OAuthError Unit :=
  match code.code_challenge with
  | none => .ok ()
  | some challenge =>
    match form.get "code_verifier" with
    | none => .error (.InvalidGrant "code_verifier required")
    | some verifier =>
      if p.b64url (p.sha256 verifier) = challenge then .ok ()
      else .error (.InvalidGrant "PKCE verification failed")

def check_dpop_jkt (dpop_jkt : Option String) (code : AuthorizationCode) : Except OAuthError Unit :=
  match code.dpop_jkt with
  | none => .ok ()
  | some want_jkt =>
    if dpop_jkt = some want_jkt then .ok ()
    else .error (.InvalidDpopProof "DPoP proof jkt does not match dpop_jkt bound at authorization")

/-- What a redemption has to show after the code was taken: the redirect URI,
    the PKCE verifier and the key bound at authorization. -/
def check_redemption (p : Provider) (form : Form) (dpop_jkt : Option String) (code : AuthorizationCode) :
    Except OAuthError Unit := do
  check_redirect_uri form code
  check_code_verifier p form code
  check_dpop_jkt dpop_jkt code

/-- Issues and links the tokens of a code that passed every check. -/
def redeem (p : Provider) (uuid : Draw → String) (client : Client) (code_val : String)
    (dpop_jkt : Option String) (code : AuthorizationCode) : Prog Backend (Except OAuthError TokenResponse) := do
  match ← issue_access_and_id p uuid client.client_id code.account_id code.scope code.nonce
      (some code.auth_time) code.acr dpop_jkt client.id_token_signed_response_alg code.resource none with
  | .error e => return .error e
  | .ok (access_token, id_token) =>
    let refresh_token ← maybe_issue_refresh uuid client.client_id code.account_id code.scope code.resource
      code.acr (some code.auth_time) dpop_jkt client.is_public
    store (.link_issued_tokens code_val access_token refresh_token)
    return .ok
      { access_token, token_type := token_type dpop_jkt, expires_in := 900, scope := code.scope,
        id_token := some id_token, refresh_token, authorization_details := none }

namespace AuthorizationCodeGrant

def handle (p : Provider) (uuid : Draw → String) (client : Client) (form : Form) (dpop_jkt : Option String) :
    Prog Backend (Except OAuthError TokenResponse) := do
  let some code_val := form.get "code" | return .error (.InvalidRequest "code required")
  let some code ← store (.take_code code_val)
    | return .error (.InvalidGrant "code not found or already used")
  if code.client_id ≠ client.client_id then
    return .error (.InvalidGrant "code issued to another client")
  if code.expires_at < (← now) then
    return .error (.InvalidGrant "authorization code expired")
  match check_redemption p form dpop_jkt code with
  | .error e => return .error e
  | .ok () => redeem p uuid client code_val dpop_jkt code

end AuthorizationCodeGrant

namespace RefreshTokenGrant

/-- The key binding of a presented token: a bound token needs its own key, an
    unbound one is not for public clients. -/
def check_binding (client : Client) (pre : RefreshToken) (dpop_jkt : Option String) :
    Except OAuthError Unit :=
  match pre.jkt, dpop_jkt with
  | some bound, some got =>
    if bound = got then .ok ()
    else .error (.InvalidDpopProof "DPoP proof jkt does not match the key bound to this refresh token")
  | some _, none =>
    .error (.InvalidDpopProof "DPoP proof jkt does not match the key bound to this refresh token")
  | none, _ =>
    if client.is_public then .error (.InvalidGrant "refresh token for a public client must be DPoP-bound")
    else .ok ()

/-- The scope of the rotated tokens: what the form asks for, never more than before. -/
def requested_scope (form : Form) (pre : RefreshToken) : Except OAuthError String :=
  match form.get "scope" with
  | some req =>
    if (split_whitespace req).all (split_whitespace pre.scope).contains then .ok req
    else .error (.InvalidScope "scope must not exceed original")
  | none => .ok pre.scope

/-- The successor drawn before the presented token is marked. -/
def new_refresh (uuid : Draw → String) (scope : String) : Option String :=
  if has_scope scope "offline_access" then some (uuid .rotated_token) else none

/-- The record of the successor of `pre`. -/
def successor (client : Client) (pre : RefreshToken) (scope new_token : String) : RefreshToken :=
  { token := new_token, client_id := client.client_id, account_id := pre.account_id, scope,
    resource := pre.resource, jkt := pre.jkt, acr := pre.acr, auth_time := pre.auth_time,
    family_id := pre.family_id, used := false, replaced_by := none }

/-- Everything after the token is marked used: issues, and saves the successor last. -/
def reissue (p : Provider) (uuid : Draw → String) (client : Client) (dpop_jkt : Option String)
    (pre : RefreshToken) (scope : String) (next : Option String) :
    Prog Backend (Except OAuthError TokenResponse) := do
  match ← issue_access_and_id p uuid client.client_id pre.account_id scope none pre.auth_time pre.acr
      dpop_jkt client.id_token_signed_response_alg pre.resource none with
  | .error e => return .error e
  | .ok (access_token, id_token) =>
    if let some new_token := next then
      store (.save_refresh_token (successor client pre scope new_token))
    return .ok
      { access_token, token_type := token_type dpop_jkt, expires_in := 900, scope,
        id_token := some id_token, refresh_token := next, authorization_details := none }

def handle (p : Provider) (uuid : Draw → String) (client : Client) (form : Form) (dpop_jkt : Option String) :
    Prog Backend (Except OAuthError TokenResponse) := do
  let some rt_val := form.get "refresh_token" | return .error (.InvalidRequest "refresh_token required")
  let some pre ← store (.get_refresh_token rt_val)
    | return .error (.InvalidGrant "refresh_token not found or already used")
  if pre.client_id ≠ client.client_id then
    return .error (.InvalidGrant "refresh_token issued to another client")
  match check_binding client pre dpop_jkt with
  | .error e => return .error e
  | .ok () =>
  if pre.used then
    store (.revoke_refresh_family rt_val)
    return .error (.InvalidGrant "refresh token reuse detected; token family revoked")
  match requested_scope form pre with
  | .error e => return .error e
  | .ok scope =>
  if !(← store (.mark_refresh_used rt_val (new_refresh uuid scope))) then
    return .error (.InvalidGrant "refresh_token not found or already used")
  reissue p uuid client dpop_jkt pre scope (new_refresh uuid scope)

end RefreshTokenGrant

namespace CibaGrant

def handle (p : Provider) (uuid : Draw → String) (client : Client) (form : Form) (dpop_jkt : Option String) :
    Prog Backend (Except OAuthError TokenResponse) := do
  let some auth_req_id := form.get "auth_req_id" | return .error (.InvalidRequest "auth_req_id required")
  match ← ciba (.get auth_req_id) with
  | .error e => return .error (.ServerError e)
  | .ok none => return .error (.InvalidGrant "unknown auth_req_id")
  | .ok (some req) =>
    if req.client_id ≠ client.client_id then
      return .error (.InvalidGrant "auth_req_id issued to another client")
    if req.expired (← now) then
      let _ ← ciba (.delete auth_req_id)
      return .error (.ExpiredToken "auth_req_id expired")
    match req.status with
    | .Pending => return .error (.AuthorizationPending "authorization pending")
    | .Denied =>
      let _ ← ciba (.delete auth_req_id)
      return .error (.AccessDenied "end-user denied the request")
    | .Approved =>
      match ← ciba (.consume_if_approved auth_req_id) with
      | .error e => return .error (.ServerError e)
      | .ok none => return .error (.InvalidGrant "auth_req_id already used")
      | .ok (some req) =>
        match ← issue_access_and_id p uuid client.client_id req.account req.scope none none none dpop_jkt
            client.id_token_signed_response_alg none req.authorization_details with
        | .error e => return .error e
        | .ok (access_token, id_token) =>
          return .ok
            { access_token, token_type := token_type dpop_jkt, expires_in := 900, scope := req.scope,
              id_token := some id_token, refresh_token := none,
              authorization_details := req.authorization_details.bind p.from_str }

end CibaGrant

/-- The registered grants, by the `grant_type` each one serves. -/
inductive Grant where
  | authorization_code
  | refresh_token
  | ciba
deriving DecidableEq, Repr

def Grant.grant_type : Grant → String
  | .authorization_code => "authorization_code"
  | .refresh_token => "refresh_token"
  | .ciba => "urn:openid:params:grant-type:ciba"

def Grant.handle (p : Provider) (uuid : Draw → String) (client : Client) (form : Form)
    (dpop_jkt : Option String) : Grant → Prog Backend (Except OAuthError TokenResponse)
  | .authorization_code => AuthorizationCodeGrant.handle p uuid client form dpop_jkt
  | .refresh_token => RefreshTokenGrant.handle p uuid client form dpop_jkt
  | .ciba => CibaGrant.handle p uuid client form dpop_jkt

/-- The storage operations of the grants: what they save, they have drawn. -/
def Grant.Calls (uuid : Draw → String) : BackendOp → Prop
  | .store (.take_code _) => True
  | .store (.link_issued_tokens ..) => True
  | .store (.save_access_token t) => t.token = uuid .access_token
  | .store (.save_refresh_token t) => t.token = uuid .refresh_token ∨ t.token = uuid .rotated_token
  | .store (.get_refresh_token _) => True
  | .store (.mark_refresh_used ..) => True
  | .store (.revoke_refresh_family _) => True
  | .ciba (.get _) => True
  | .ciba (.delete _) => True
  | .ciba (.consume_if_approved _) => True
  | .now => True
  | _ => False

section calls
variable (p : Provider) (uuid : Draw → String) (client : Client) (form : Form) (dpop_jkt : Option String)

private theorem issue_access_and_id_calls (client_id account_id scope : String) (nonce : Option String)
    (auth_time : Option Nat) (acr alg resource details : Option String) :
    (issue_access_and_id p uuid client_id account_id scope nonce auth_time acr dpop_jkt alg resource details).Uses
      (Grant.Calls uuid) := by
  refine ⟨rfl, fun _ => ⟨trivial, fun iat => ?_⟩⟩
  dsimp only [Prog.bind]
  cases p.signer_for alg <;> trivial

private theorem maybe_issue_refresh_calls (client_id account_id scope : String) (resource acr : Option String)
    (auth_time : Option Nat) (is_public : Bool) :
    (maybe_issue_refresh uuid client_id account_id scope resource acr auth_time dpop_jkt is_public).Uses
      (Grant.Calls uuid) := by
  unfold maybe_issue_refresh
  split
  · trivial
  · split
    · trivial
    · exact ⟨.inl rfl, fun _ => trivial⟩

private theorem redeem_calls (code_val : String) (code : AuthorizationCode) :
    (redeem p uuid client code_val dpop_jkt code).Uses (Grant.Calls uuid) := by
  refine (issue_access_and_id_calls ..).bind fun issued => ?_
  cases issued with
  | error e => trivial
  | ok pair => exact (maybe_issue_refresh_calls ..).bind fun _ => ⟨trivial, fun _ => trivial⟩

private theorem reissue_calls (pre : RefreshToken) (scope : String) :
    (RefreshTokenGrant.reissue p uuid client dpop_jkt pre scope (RefreshTokenGrant.new_refresh uuid scope)).Uses
      (Grant.Calls uuid) := by
  refine (issue_access_and_id_calls ..).bind fun issued => ?_
  cases issued with
  | error e => trivial
  | ok pair =>
    cases offline : has_scope scope "offline_access" with
    | true =>
      simp only [RefreshTokenGrant.new_refresh, offline]
      exact ⟨.inr rfl, fun _ => trivial⟩
    | false =>
      simp only [RefreshTokenGrant.new_refresh, offline]
      trivial

/-- A token request performs no other operations. -/
theorem Grant.handle_calls (g : Grant) : (g.handle p uuid client form dpop_jkt).Uses (Grant.Calls uuid) := by
  cases g with
  | authorization_code =>
    simp only [Grant.handle, AuthorizationCodeGrant.handle]
    split
    · refine ⟨trivial, fun answer => ?_⟩
      cases answer with
      | none => trivial
      | some code =>
        dsimp only [Prog.bind, store, now]
        split
        · trivial
        · refine ⟨trivial, fun time => ?_⟩
          dsimp only [Prog.bind]
          split
          · trivial
          · split
            · trivial
            · exact redeem_calls ..
    · trivial
  | refresh_token =>
    simp only [Grant.handle, RefreshTokenGrant.handle]
    split
    · refine ⟨trivial, fun answer => ?_⟩
      cases answer with
      | none => trivial
      | some pre =>
        dsimp only [Prog.bind, store]
        split
        · trivial
        · split
          · trivial
          · split
            · exact ⟨trivial, fun _ => trivial⟩
            · split
              · trivial
              · refine ⟨trivial, fun marked => ?_⟩
                dsimp only [Prog.bind]
                split
                · trivial
                · exact reissue_calls ..
    · trivial
  | ciba =>
    simp only [Grant.handle, CibaGrant.handle]
    split
    · refine ⟨trivial, fun answer => ?_⟩
      rcases answer with e | ⟨_ | req⟩
      · trivial
      · trivial
      · dsimp only [Prog.bind, now]
        split
        · trivial
        · refine ⟨trivial, fun time => ?_⟩
          dsimp only [Prog.bind]
          split
          · exact ⟨trivial, fun _ => trivial⟩
          · split
            · trivial
            · exact ⟨trivial, fun _ => trivial⟩
            · refine ⟨trivial, fun consumed => ?_⟩
              rcases consumed with e | ⟨_ | req⟩
              · trivial
              · trivial
              · refine (issue_access_and_id_calls ..).bind fun issued => ?_
                cases issued <;> trivial
    · trivial

end calls

/-! ### Revocation -/

def revoke_access_as (client : Client) (token : String) : Prog Backend Unit := do
  match ← store (.get_access_token token) with
  | some at_ => if at_.client_id = client.client_id then store (.revoke_access_token token) else return ()
  | none => return ()

def revoke_refresh_as (client : Client) (token : String) : Prog Backend Unit := do
  match ← store (.get_refresh_token token) with
  | some rt => if rt.client_id = client.client_id then store (.revoke_refresh_token token) else return ()
  | none => return ()

/-- The revocation endpoint after the client was authenticated: both kinds of
    token are tried, and only the client's own are revoked. -/
def revoke_as (client : Client) (form : Form) : Prog Backend (Except OAuthError Unit) := do
  let some token := form.get "token" | return .error (.InvalidRequest "token required")
  revoke_access_as client token
  revoke_refresh_as client token
  return .ok ()

end RustOp
