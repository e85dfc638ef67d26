import RustOp.Web.Par

/-!
The authorization endpoint. A request is read from its query, from a signed
request object or from a pushed request; its client and redirect address are
settled before anything else, and only then may an answer leave through that
address. A code is issued from the session, or after a login that resumes the
stored request.
-/
namespace RustOp.Web
open RustOp.Effects RustOp.Text

/-! ### The parameters -/

namespace AuthParams

/-- The names of the fields, as a query spells them. -/
def FIELDS : List String :=
  ["client_id", "redirect_uri", "response_type", "scope", "state", "nonce", "prompt", "max_age", "acr_values",
    "response_mode", "code_challenge", "code_challenge_method", "dpop_jkt", "resource"]

/-- The first field that is given a second time. -/
def duplicate : List String → Form → Option String
  | _, [] => none
  | seen, (name, _) :: rest =>
    if name ∈ seen then some name
    else duplicate (if name ∈ FIELDS then name :: seen else seen) rest

/-- `serde_urlencoded::from_str`: other names are ignored, a field may be given once. -/
def from_form (form : Form) : Except String AuthParams :=
  match duplicate [] form with
  | some name => .error ("duplicate field `" ++ name ++ "`")
  | none => .ok
    { client_id := form.get "client_id", redirect_uri := form.get "redirect_uri",
      response_type := form.get "response_type", scope := form.get "scope", state := form.get "state",
      nonce := form.get "nonce", prompt := form.get "prompt", max_age := form.get "max_age",
      acr_values := form.get "acr_values", response_mode := form.get "response_mode",
      code_challenge := form.get "code_challenge", code_challenge_method := form.get "code_challenge_method",
      dpop_jkt := form.get "dpop_jkt", resource := form.get "resource" }

end AuthParams

/-! ### Client and redirect address -/

/-- Byte equality with one of the registered addresses. -/
def redirect_uri_registered (requested : String) (registered : List String) : Bool := registered.any (· == requested)

/-- A request whose client and redirect address are not known yet. -/
structure RawAuthRequest where
  params : AuthParams
  request_uri : Option String

/-- A request of a known client, with an address that this client registered. -/
structure AddressedRequest where
  params : AuthParams
  client : Client
  redirect_uri : String
  request_uri : Option String
  registered : redirect_uri_registered redirect_uri client.redirect_uris = true

theorem AddressedRequest.listed (req : AddressedRequest) : req.redirect_uri ∈ req.client.redirect_uris := by
  simpa [redirect_uri_registered] using req.registered

def resolve_addressee (p : Server) (raw : RawAuthRequest) : Prog Host (Except OAuthError AddressedRequest) := do
  let some id := raw.params.client_id | return .error (.InvalidRequest "client_id required")
  let some client ← p.resolve_client id | return .error (.InvalidClient ("unknown client " ++ id))
  let some ru := raw.params.redirect_uri | return .error (.InvalidRequest "redirect_uri required")
  if registered : redirect_uri_registered ru client.redirect_uris = true then
    return .ok ⟨raw.params, client, ru, raw.request_uri, registered⟩
  return .error (.InvalidRequest ("redirect_uri " ++ ru ++ " not registered"))

/-! ### Checks -/

def CheckResponseType.check (req : AddressedRequest) : Except OAuthError Unit :=
  match req.params.response_type with
  | some other => if other = "code" then .ok () else .error (.UnsupportedResponseType other)
  | none => .error (.InvalidRequest "response_type required")

def CheckScope.check (req : AddressedRequest) : Except OAuthError Unit :=
  if has_scope (req.params.scope.getD "") "openid" then .ok () else .error (.InvalidScope "openid scope required")

/-- Without a method it is `plain`. -/
def pkce_method_is_s256 (method : Option String) : Bool := method.getD "plain" == "S256"

def CheckPkce.check (req : AddressedRequest) : Except OAuthError Unit :=
  match req.params.code_challenge with
  | some _ =>
    if pkce_method_is_s256 req.params.code_challenge_method then .ok ()
    else .error (.InvalidRequest "code_challenge_method must be S256")
  | none =>
    if req.client.is_public || req.client.require_pkce then .error (.InvalidRequest "code_challenge required")
    else .ok ()

/-- The checks in the order of registration. -/
def run_checks (req : AddressedRequest) : Except OAuthError Unit := do
  CheckResponseType.check req
  CheckScope.check req
  CheckPkce.check req

/-- What a request has that passes the checks. -/
structure Checked (params : AuthParams) (client : Client) : Prop where
  response_type : params.response_type = some "code"
  scope : has_scope (params.scope.getD "") "openid" = true
  method : params.code_challenge.isSome → params.code_challenge_method = some "S256"
  challenge : client.is_public = true ∨ client.require_pkce = true → params.code_challenge.isSome

theorem pkce_method_is_s256_iff {method : Option String} : pkce_method_is_s256 method = true ↔ method = some "S256" := by
  cases method with
  | none => simp [pkce_method_is_s256]
  | some m => simp [pkce_method_is_s256]

theorem run_checks_eq_ok {req : AddressedRequest} : run_checks req = .ok () ↔ Checked req.params req.client := by
  have kind : CheckResponseType.check req = .ok () ↔ req.params.response_type = some "code" := by
    unfold CheckResponseType.check
    split <;> simp_all
  have scope : CheckScope.check req = .ok () ↔ has_scope (req.params.scope.getD "") "openid" = true := by
    simp [CheckScope.check]
  have pkce : CheckPkce.check req = .ok () ↔ (req.params.code_challenge.isSome → req.params.code_challenge_method = some "S256") ∧
      (req.client.is_public = true ∨ req.client.require_pkce = true → req.params.code_challenge.isSome) := by
    unfold CheckPkce.check
    cases req.params.code_challenge with
    | some challenge => simp [pkce_method_is_s256_iff]
    | none => simp
  unfold run_checks
  simp only [Checks.bind_eq_ok, kind, scope, pkce, exists_const]
  constructor
  · rintro ⟨code, openid, method, challenge⟩
    exact ⟨code, openid, method, challenge⟩
  · rintro ⟨code, openid, method, challenge⟩
    exact ⟨code, openid, method, challenge⟩

/-! ### Session or login -/

inductive Prompt where
  | None
  | Login
  | Consent
  | SelectAccount
deriving DecidableEq, Repr

def Prompt.parse (s : String) : Option Prompt :=
  if s = "none" then some .None
  else if s = "login" then some .Login
  else if s = "consent" then some .Consent
  else if s = "select_account" then some .SelectAccount
  else none

/-- Unknown values are ignored. -/
def Prompt.parse_set (prompt : Option String) : List Prompt := (split_whitespace (prompt.getD "")).filterMap Prompt.parse

/-- What becomes of a request before anybody logs in. -/
inductive AuthDecision where
  | UseSession (account_id : String) (auth_time : Nat)
  | Login
  | Error (e : OAuthError)
deriving DecidableEq, Repr

namespace interaction_policy

/-- Whether a session meets `max_age`; without one every session does. -/
def fresh_enough (session : Session) (max_age : Option Nat) (now : Nat) : Bool :=
  match max_age with
  | some ma => now - session.auth_time ≤ ma
  | none => true

end interaction_policy

/-- The session if it is fresh enough, unless the prompts ask for something else. -/
def interaction_policy.decide (params : AuthParams) (session : Option Session) (now : Nat) : AuthDecision :=
  let prompts := Prompt.parse_set params.prompt
  let max_age := params.max_age.bind parse_u64
  if Prompt.None ∈ prompts ∧ prompts.length > 1 then
    .Error (.InvalidRequest "prompt=none must not be combined with other values")
  else if Prompt.None ∈ prompts then
    match session.filter fun s => fresh_enough s max_age now with
    | some s => .UseSession s.account_id s.auth_time
    | none => .Error (.LoginRequired "no active session for prompt=none")
  else if Prompt.Login ∈ prompts then .Login
  else
    match session.filter fun s => fresh_enough s max_age now with
    | some s => .UseSession s.account_id s.auth_time
    | none => .Login

namespace interaction_policy
variable {params : AuthParams} {session : Option Session} {now : Nat}

/-- A session is used as it is, if it is fresh enough and nobody asked for a login. -/
theorem decide_uses {account_id : String} {auth_time : Nat} (used : decide params session now = .UseSession account_id auth_time) :
    ∃ s, session = some s ∧ s.account_id = account_id ∧ s.auth_time = auth_time ∧
      fresh_enough s (params.max_age.bind parse_u64) now = true ∧ Prompt.Login ∉ Prompt.parse_set params.prompt := by
  have taken : ∀ (other : AuthDecision), (∀ a t, other ≠ .UseSession a t) →
      (match session.filter fun s => fresh_enough s (params.max_age.bind parse_u64) now with
        | some s => AuthDecision.UseSession s.account_id s.auth_time
        | none => other) = .UseSession account_id auth_time →
      ∃ s, session = some s ∧ s.account_id = account_id ∧ s.auth_time = auth_time ∧
        fresh_enough s (params.max_age.bind parse_u64) now = true := by
    intro other never same
    split at same
    · rename_i s found
      obtain ⟨stored, fresh⟩ := Option.filter_eq_some_iff.mp found
      cases same
      exact ⟨s, stored, rfl, rfl, fresh⟩
    · exact absurd same (never _ _)
  unfold decide at used
  dsimp only at used
  split at used
  · cases used
  · rename_i single
    split at used
    · rename_i wants_none
      obtain ⟨s, stored, account, time, fresh⟩ := taken _ (by simp) used
      refine ⟨s, stored, account, time, fresh, fun wants_login => single ⟨wants_none, ?_⟩⟩
      by_contra short
      obtain ⟨only, all⟩ := List.length_eq_one_iff.mp
        (le_antisymm (not_lt.mp short) (List.length_pos_of_mem wants_none))
      rw [all, List.mem_singleton] at wants_none wants_login
      cases wants_none.trans wants_login.symm
    · split at used
      · cases used
      · rename_i no_login
        obtain ⟨s, stored, account, time, fresh⟩ := taken _ (by simp) used
        exact ⟨s, stored, account, time, fresh, no_login⟩

/-- Nobody is shown a login page who asked for none. -/
theorem decide_login (login : decide params session now = .Login) : Prompt.None ∉ Prompt.parse_set params.prompt := by
  intro wants_none
  unfold decide at login
  dsimp only at login
  split at login
  · cases login
  · split at login <;> cases login

end interaction_policy

/-! ### Answers -/

/-- The parameters of an answer, behind the address or behind its own query. -/
def QueryMode.build (p : Server) (redirect_uri : String) (params : Form) : Response :=
  .redirect (redirect_uri ++ (if contains "?" redirect_uri then "&" else "?") ++ p.to_string params)

/-- The registered response modes. -/
def response_modes : List (String × (Server → String → Form → Response)) := [("query", QueryMode.build)]

/-- The mode that a request names, or the one of queries. -/
def response_mode (params : AuthParams) : Server → String → Form → Response :=
  (params.response_mode.bind fun m => response_modes.lookup m).getD QueryMode.build

/-- There is no other one. -/
theorem response_mode_eq (params : AuthParams) : response_mode params = QueryMode.build := by
  unfold response_mode
  cases params.response_mode with
  | none => rfl
  | some m =>
    by_cases query : m = "query"
    · subst query
      rfl
    · simp [response_modes, List.lookup, beq_eq_false_iff_ne.mpr query]

def state_param (params : AuthParams) : Form := (params.state.map fun state => ("state", state)).toList

/-- An error leaves through the address of the request. -/
def authorize_error (p : Server) (req : AddressedRequest) (e : OAuthError) : Response :=
  QueryMode.build p req.redirect_uri
    ([("error", e.code), ("error_description", e.description), ("iss", p.issuer)] ++ state_param req.params)

/-! ### Codes -/

/-- An absolute URI without a fragment. -/
def valid_resource (r : String) : Bool :=
  !contains "#" r && (split_once_str "://".toList r.toList).any fun (s, rest) => !s.isEmpty && !rest.isEmpty

/-- The code of a request for an account. -/
def code_of (req : AddressedRequest) (code account_id : String) (auth_time expires_at : Nat) : AuthorizationCode where
  code := code
  client_id := req.client.client_id
  account_id := account_id
  redirect_uri := req.redirect_uri
  scope := req.params.scope.getD ""
  nonce := req.params.nonce
  code_challenge := req.params.code_challenge
  code_challenge_method := req.params.code_challenge_method
  auth_time := auth_time
  acr := req.params.acr_values.bind fun s => (split_whitespace s).head?
  dpop_jkt := req.params.dpop_jkt
  resource := req.params.resource
  expires_at := expires_at

/-- `auth_time.unwrap_or_else(now)` -/
def time_or_now : Option Nat → Prog Host Nat
  | some t => return t
  | none => now

/-- Deletes the pushed request that a request came from. -/
def delete_pushed (p : Server) (req : AddressedRequest) : Prog Host Unit :=
  match req.request_uri with
  | some ru => if p.has_firestore then par.delete ru else return ()
  | none => return ()

/-- Saves a code and returns it. -/
def issue_code (p : Server) (uuid : Draw → String) (req : AddressedRequest) (account_id : String) (auth_time : Option Nat) :
    Prog Host Response := do
  if req.params.resource.any (!valid_resource ·) then
    return authorize_error p req (.InvalidTarget "resource must be an absolute URI without fragment")
  let auth_time ← time_or_now auth_time
  let now ← now
  store (.save_code (code_of req (uuid .code) account_id auth_time (now + 60)))
  delete_pushed p req
  return response_mode req.params p req.redirect_uri
    ([("code", uuid .code)] ++ state_param req.params ++ [("iss", p.issuer)])

/-! ### The endpoint -/

/-- The parameters of a request, and for a pushed one who pushed it and under
    which `request_uri`. -/
structure Query where
  raw : String
  pushed : Option (String × String)

/-- A request object and a pushed request replace the query. -/
def authorize_query (p : Server) (raw : String) : Prog Host (Except Response Query) := do
  let q0 := p.form raw
  match q0.get "request" with
  | some req =>
    let some client ← p.resolve_client ((q0.get "client_id").getD "")
      | return .error (plain_error "unknown client for request object")
    match ← request_object.verify p client req with
    | .ok params => return .ok ⟨p.to_string params, none⟩
    | .error e => return .error (plain_error ("invalid request object: " ++ e.description))
  | none =>
    match (q0.get "request_uri").filter (starts_with par.URN_PREFIX) with
    | none => return .ok ⟨raw, none⟩
    | some request_uri =>
      if !p.has_firestore then
        return .error (plain_error "PAR unavailable (no Firestore)")
      match ← par.peek request_uri with
      | .ok (some (cid, params)) => return .ok ⟨params, some (cid, request_uri)⟩
      | _ => return .error (plain_error "invalid or expired request_uri")

/-- Stores the request until somebody has logged in. -/
def begin_interaction (p : Server) (uuid : Draw → String) (q : Query) : Prog Host Response := do
  let uid := uuid .interaction_uid
  store (.save_interaction
    { uid, raw_query := q.raw, account_id := none, auth_time := none, request_uri := q.pushed.map Prod.snd })
  return .redirect (p.path ("/login/" ++ uid))

/-- The session of a cookie. -/
def cookie_session : Option String → Prog Host (Option Session)
  | some sid => store (.get_session sid)
  | none => return none

/-- A checked request: with the session, after a login, or not at all. -/
def authorize_session (p : Server) (uuid : Draw → String) (sid : Option String) (q : Query) (req : AddressedRequest) :
    Prog Host Response := do
  let session ← cookie_session sid
  match interaction_policy.decide req.params session (← now) with
  | .UseSession account_id auth_time => issue_code p uuid req account_id (some auth_time)
  | .Error e => return authorize_error p req e
  | .Login => begin_interaction p uuid q

/-- The request of a query, if it has a client and an address of that client. -/
def addressee (p : Server) (label raw : String) (request_uri : Option String) :
    Prog Host (Except Response AddressedRequest) := do
  match AuthParams.from_form (p.form raw) with
  | .error e => return .error (plain_error (label ++ e))
  | .ok params =>
  match ← resolve_addressee p ⟨params, request_uri⟩ with
  | .error e => return .error (plain_error (e.code ++ ": " ++ e.description))
  | .ok req => return .ok req

def authorize (p : Server) (uuid : Draw → String) (sid raw : Option String) : Prog Host Response := do
  let raw := raw.getD ""
  let q0 := p.form raw
  match ← authorize_query p raw with
  | .error r => return r
  | .ok q =>
  if q.pushed.any fun (creator, _) => (q0.get "client_id").any (· ≠ creator) then
    return plain_error "request_uri was issued to a different client"
  match ← addressee p "invalid query: " q.raw (q.pushed.map Prod.snd) with
  | .error r => return r
  | .ok req =>
  match run_checks req with
  | .error e => return authorize_error p req e
  | .ok () =>
  if (q0.get "request_uri").any (!starts_with par.URN_PREFIX ·) then
    return authorize_error p req (.RequestUriNotSupported "request_uri is not supported")
  if req.client.require_par && q.pushed.isNone then
    return authorize_error p req (.InvalidRequest "pushed authorization request required")
  authorize_session p uuid sid q req

/-! ### After the login -/

def authorize_resume (p : Server) (uuid : Draw → String) (q : Form) : Prog Host Response := do
  let some uid := q.get "uid" | return plain_error "uid required"
  let some interaction ← store (.get_interaction uid) | return plain_error "interaction not found"
  let some account_id := interaction.account_id | return plain_error "interaction not completed"
  match ← addressee p "invalid stored query: " interaction.raw_query interaction.request_uri with
  | .error r => return r
  | .ok req =>
  match run_checks req with
  | .error e => return authorize_error p req e
  | .ok () =>
  if !(← store (.consume_interaction uid)) then
    return plain_error "interaction already used"
  issue_code p uuid req account_id interaction.auth_time

/-- The login was cancelled. -/
def authorize_cancel (p : Server) (uid : String) : Prog Host Response := do
  let some interaction ← store (.get_interaction uid) | return plain_error "interaction not found"
  match ← addressee p "invalid stored query: " interaction.raw_query interaction.request_uri with
  | .error r => return r
  | .ok req =>
  match run_checks req with
  | .error e => return authorize_error p req e
  | .ok () => return authorize_error p req (.AccessDenied "end-user denied the request")

end RustOp.Web
