import RustOp.Web.ClientAuth

/-!
Controlled registration of clients: an initial access token carries what may be
registered with it, and a request is checked against that. How a client
authenticates is up to the token, not to the request.
-/
namespace RustOp.Web.dcr
open RustOp.Effects RustOp.Effects.Checks RustOp.Text

/-- How a registered client authenticates. -/
inductive ClientProfile where
  | Public
  | ConfidentialSecret
  | ConfidentialKey
deriving DecidableEq, Repr

/-- What a token allows to register. -/
structure IatConstraints where
  allowed_redirect_hosts : List String
  allowed_grant_types : List String
  profile : ClientProfile
deriving DecidableEq, Repr

/-- The metadata a client presents. -/
structure RegistrationRequest where
  redirect_uris : List String
  post_logout_redirect_uris : List String
  grant_types : List String
  jwks : List JwkPub
  jwks_uri : Option String
deriving DecidableEq, Repr

inductive DcrError where
  | NoRedirectUris
  | InsecureRedirectUri (uri : String)
  | RedirectHostNotAllowed (host : String)
  | InsecurePostLogoutRedirectUri (uri : String)
  | PostLogoutRedirectHostNotAllowed (host : String)
  | MissingJwks
  | GrantTypeNotAllowed (grant : String)
deriving DecidableEq, Repr

/-- Return addresses after a logout are other metadata, not redirect URIs. -/
def DcrError.code : DcrError → String
  | .NoRedirectUris => "invalid_redirect_uri"
  | .InsecureRedirectUri _ => "invalid_redirect_uri"
  | .RedirectHostNotAllowed _ => "invalid_redirect_uri"
  | .InsecurePostLogoutRedirectUri _ => "invalid_client_metadata"
  | .PostLogoutRedirectHostNotAllowed _ => "invalid_client_metadata"
  | .MissingJwks => "invalid_client_metadata"
  | .GrantTypeNotAllowed _ => "invalid_client_metadata"

def DcrError.description : DcrError → String
  | .NoRedirectUris => "at least one redirect_uri is required"
  | .InsecureRedirectUri u => "redirect_uri must be https without fragment or userinfo: " ++ u
  | .RedirectHostNotAllowed h => "redirect_uri host not allowed by the initial access token: " ++ h
  | .InsecurePostLogoutRedirectUri u => "post_logout_redirect_uri must be https without fragment or userinfo: " ++ u
  | .PostLogoutRedirectHostNotAllowed h => "post_logout_redirect_uri host not allowed by the initial access token: " ++ h
  | .MissingJwks => "a jwks with at least one EC P-256 key is required"
  | .GrantTypeNotAllowed g => "grant_type not allowed by the initial access token: " ++ g

/-! ### Keys -/

/-- A key of a set, if it is a valid point of P-256 under a name. -/
def jwk_from_json (j : Jose) (k : Json) : Option JwkPub := do
  let kty ← k.get_str "kty"
  let crv ← k.get_str "crv"
  if kty ≠ "EC" ∨ crv ≠ "P-256" then
    none
  let kid ← k.get_str "kid"
  if kid.isEmpty then
    none
  let x ← k.get_str "x"
  let y ← k.get_str "y"
  let xb ← (es256.b64url_decode j x).toOption
  let yb ← (es256.b64url_decode j y).toOption
  let _ ← (es256.verifying_key_from_xy j xb yb).toOption
  some ⟨kid, x, y⟩

def as_array : Json → Option (List Json)
  | .arr items => some items
  | _ => none

def jwks_from_jwk_set (j : Jose) (jwks : Option Json) : List JwkPub :=
  (((jwks.bind (Json.get "keys")).bind as_array).getD []).filterMap (jwk_from_json j)

/-- A fresh token and what is stored of it, from 32 random bytes. -/
def gen_random_token (p : Platform) (random : List UInt8) : String × String :=
  (p.b64url random, hash_token p (p.b64url random))

/-! ### Addresses -/

/-- The host of an address without fragment and user information, without its port. -/
def https_host (uri : String) : Option String :=
  if '#' ∈ uri.toList then none
  else ( strip_prefix "https://" uri).bind fun rest =>
    let authority := (split '/' rest.toList).headD rest.toList
    if '@' ∈ authority then none
    else
      let host := (split ':' authority).headD authority
      if host.isEmpty then none else some (String.ofList host)

def is_valid_post_logout_redirect_uri (uri : String) : Bool := (https_host uri).isSome

/-- Every address has a host that is allowed. -/
def check_hosts {ε : Type} (insecure not_allowed : String → ε) (allowed : List String) : List String → Except ε Unit
  | [] => .ok ()
  | uri :: uris => do
    let host ← ok_or (https_host uri) (insecure uri)
    refuse (!allowed.any fun h => eq_ignore_ascii_case h host) (not_allowed host)
    check_hosts insecure not_allowed allowed uris

/-- An administrator may return to the hosts the client is redirected to. -/
def check_admin_post_logout_uris (uris client_redirect_uris : List String) : Except String Unit :=
  check_hosts
    (fun uri => "post_logout_redirect_uri must use https and must not contain a fragment or userinfo: " ++ uri)
    (fun host => "post_logout_redirect_uri host must be the host of one of this client's redirect_uris: " ++ host)
    (client_redirect_uris.filterMap https_host) uris

/-! ### Registration -/

/-- What a registration makes. The secret itself is shown once. -/
structure RegistrationOutcome where
  client : Client
  raw_client_secret : Option String
deriving DecidableEq, Repr

def check_grants (allowed : List String) : List String → Except DcrError Unit
  | [] => .ok ()
  | g :: grants => do
    refuse (!allowed.any (· == g)) (.GrantTypeNotAllowed g)
    check_grants allowed grants

/-- The client of a request that has passed the checks, but for how it authenticates. -/
def base (client_id : String) (req : RegistrationRequest) : Client where
  client_id := client_id
  redirect_uris := req.redirect_uris
  post_logout_redirect_uris := req.post_logout_redirect_uris
  token_endpoint_auth_method := ""
  client_secret := none
  grant_types := if req.grant_types.isEmpty then ["authorization_code"] else req.grant_types
  dpop_bound := false
  jwks := []
  jwks_uri := none
  require_par := false
  require_pkce := false
  id_token_signed_response_alg := none

/-- The client as its profile has it. -/
def with_profile (p : Platform) (random : List UInt8) (client_id : String) (req : RegistrationRequest) :
    ClientProfile → Except DcrError RegistrationOutcome
  | .ConfidentialKey => do
    refuse (req.jwks.isEmpty ∧ (req.jwks_uri.map String.isEmpty).getD true) .MissingJwks
    return { client := { base client_id req with
               token_endpoint_auth_method := "private_key_jwt", dpop_bound := true, jwks := req.jwks,
               jwks_uri := req.jwks_uri, require_par := true, require_pkce := true }
             raw_client_secret := none }
  | .ConfidentialSecret =>
    let (raw, hash) := gen_random_token p random
    return { client := { base client_id req with
               token_endpoint_auth_method := "client_secret_basic", client_secret := some hash, require_pkce := true }
             raw_client_secret := some raw }
  | .Public =>
    return { client := { base client_id req with token_endpoint_auth_method := "none", dpop_bound := true }
             raw_client_secret := none }

def validate_registration (p : Platform) (random : List UInt8) (client_id : String) (req : RegistrationRequest)
    (c : IatConstraints) : Except DcrError RegistrationOutcome := do
  refuse req.redirect_uris.isEmpty .NoRedirectUris
  check_hosts .InsecureRedirectUri .RedirectHostNotAllowed c.allowed_redirect_hosts req.redirect_uris
  check_hosts .InsecurePostLogoutRedirectUri .PostLogoutRedirectHostNotAllowed c.allowed_redirect_hosts
    req.post_logout_redirect_uris
  check_grants c.allowed_grant_types req.grant_types
  with_profile p random client_id req c.profile

/-! ### What the checks accept -/

theorem check_hosts_eq_ok {ε : Type} {insecure not_allowed : String → ε} {allowed uris : List String} :
    check_hosts insecure not_allowed allowed uris = .ok () ↔
      ∀ uri ∈ uris, ∃ host, https_host uri = some host ∧ ∃ h ∈ allowed, eq_ignore_ascii_case h host = true := by
  induction uris with
  | nil => simp [check_hosts]
  | cons uri uris ih =>
    simp only [check_hosts, bind_eq_ok, ok_or_eq_ok, refuse_eq_ok, exists_const, ih, List.forall_mem_cons,
      Bool.not_eq_true', Bool.not_eq_false, List.any_eq_true]
    constructor
    · rintro ⟨host, found, listed, rest⟩
      exact ⟨⟨host, found, listed⟩, rest⟩
    · rintro ⟨⟨host, found, listed⟩, rest⟩
      exact ⟨host, found, listed, rest⟩

theorem check_grants_eq_ok {allowed grants : List String} :
    check_grants allowed grants = .ok () ↔ ∀ g ∈ grants, g ∈ allowed := by
  induction grants with
  | nil => simp [check_grants]
  | cons g grants ih => simp [check_grants, bind_eq_ok, refuse_eq_ok, ih]

/-- What an accepted request makes. -/
theorem validate_registration_eq_ok {p : Platform} {random : List UInt8} {client_id : String} {req : RegistrationRequest}
    {c : IatConstraints} {o : RegistrationOutcome} :
    validate_registration p random client_id req c = .ok o ↔
      req.redirect_uris.isEmpty = false ∧
      check_hosts DcrError.InsecureRedirectUri .RedirectHostNotAllowed c.allowed_redirect_hosts req.redirect_uris = .ok () ∧
      check_hosts DcrError.InsecurePostLogoutRedirectUri .PostLogoutRedirectHostNotAllowed c.allowed_redirect_hosts
        req.post_logout_redirect_uris = .ok () ∧
      (∀ g ∈ req.grant_types, g ∈ c.allowed_grant_types) ∧ with_profile p random client_id req c.profile = .ok o := by
  simp only [validate_registration, bind_eq_ok, refuse_eq_ok, exists_const, Bool.not_eq_true]
  constructor
  · rintro ⟨some_, ⟨⟩, redirects, ⟨⟩, logouts, ⟨⟩, grants, made⟩
    exact ⟨some_, redirects, logouts, check_grants_eq_ok.mp grants, made⟩
  · rintro ⟨some_, redirects, logouts, grants, made⟩
    exact ⟨some_, (), redirects, (), logouts, (), check_grants_eq_ok.mpr grants, made⟩

/-- Whatever the profile, the client keeps its name and its addresses. -/
theorem with_profile_base {p : Platform} {random : List UInt8} {client_id : String} {req : RegistrationRequest}
    {profile : ClientProfile} {o : RegistrationOutcome} (made : with_profile p random client_id req profile = .ok o) :
    o.client.client_id = client_id ∧ o.client.redirect_uris = req.redirect_uris ∧
      o.client.post_logout_redirect_uris = req.post_logout_redirect_uris := by
  cases profile with
  | ConfidentialKey =>
    simp only [with_profile, bind_eq_ok, pure_eq_ok] at made
    obtain ⟨-, -, rfl⟩ := made
    exact ⟨rfl, rfl, rfl⟩
  | ConfidentialSecret =>
    cases made
    exact ⟨rfl, rfl, rfl⟩
  | Public =>
    cases made
    exact ⟨rfl, rfl, rfl⟩

end RustOp.Web.dcr
