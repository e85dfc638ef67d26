import RustOp.Web.Jws

/-!
Client authentication at the endpoints that need it: public clients by their
identifier, secrets in the Authorization header, and signed assertions.
-/
namespace RustOp.Web
open RustOp.Effects RustOp.Effects.Checks RustOp.Text

/-- What a request shows to authenticate its client. -/
structure ClientAuthInput where
  basic : Option (String × String)
  body_client_id : Option String
  client_assertion : Option String
deriving DecidableEq, Repr

def hash_token (p : Platform) (token : String) : String := p.b64url (p.sha256 token)

namespace NoneAuth

def authenticate (p : Server) (input : ClientAuthInput) : Prog Host (Except OAuthError Client) := do
  let some id := input.body_client_id | return .error (.InvalidClient "client_id required")
  let some client ← p.resolve_client id | return .error (.InvalidClient ("unknown client " ++ id))
  if !client.is_public then
    return .error (.InvalidClient "client requires authentication")
  return .ok client

end NoneAuth

namespace ClientSecretBasic

/-- The stored secret is a digest, and so is what it is compared with. -/
def authenticate (p : Server) (input : ClientAuthInput) : Prog Host (Except OAuthError Client) := do
  let some (id, secret) := input.basic | return .error (.InvalidClient "Basic credentials required")
  let some client ← p.resolve_client id | return .error (.InvalidClient ("unknown client " ++ id))
  if client.client_secret = some (hash_token p.toPlatform secret) then
    return .ok client
  return .error (.InvalidClient "bad client secret")

end ClientSecretBasic

namespace PrivateKeyJwt

def MAX_ASSERTION_LIFETIME_SECS : Int := 3600

def I64_MAX : Int := 9223372036854775807

/-- `i64::saturating_add` for a positive addend. -/
def saturating_add (a b : Int) : Int := min (a + b) I64_MAX

/-- `now < exp <= now + max_lifetime` -/
def exp_in_window (exp now max_lifetime : Int) : Bool := exp > now && exp ≤ saturating_add now max_lifetime

def bad (m : String) : OAuthError := .InvalidClient m

def dec (p : Server) (s : String) : Except OAuthError (List UInt8) :=
  (es256.b64url_decode p.toJose s).mapError fun _ => bad "assertion base64"

/-- An assertion before its signature is checked: who it claims to come from,
    with which key. -/
structure Opened where
  parts : Compact
  kid : String
  sub : String
  payload : Json

def opened (p : Server) (assertion : String) : Except OAuthError Opened := do
  let parts ← ok_or (Compact.parse assertion) (bad "client_assertion not a compact JWS")
  let header ← (p.from_slice (← dec p parts.header)).mapError fun _ => bad "assertion header"
  refuse (header.get_str "alg" ≠ some "ES256") (bad "assertion alg != ES256")
  let kid := (header.get_str "kid").getD ""
  let payload ← (p.from_slice (← dec p parts.payload)).mapError fun _ => bad "assertion payload"
  let sub := (payload.get_str "sub").getD ""
  let iss := (payload.get_str "iss").getD ""
  refuse (sub = "" ∨ sub ≠ iss) (bad "assertion iss/sub mismatch")
  return ⟨parts, kid, sub, payload⟩

/-- What an opened assertion has shown. -/
theorem opened_eq_ok {p : Server} {assertion : String} {a : Opened} :
    opened p assertion = .ok a ↔
      ∃ parts bytes header bytes' payload, Compact.parse assertion = some parts ∧
        es256.b64url_decode p.toJose parts.header = .ok bytes ∧ p.from_slice bytes = .ok header ∧
        header.get_str "alg" = some "ES256" ∧
        es256.b64url_decode p.toJose parts.payload = .ok bytes' ∧ p.from_slice bytes' = .ok payload ∧
        (payload.get_str "sub").getD "" ≠ "" ∧ (payload.get_str "sub").getD "" = (payload.get_str "iss").getD "" ∧
        a = ⟨parts, (header.get_str "kid").getD "", (payload.get_str "sub").getD "", payload⟩ := by
  simp only [opened, dec, bind_eq_ok, ok_or_eq_ok, mapError_eq_ok, pure_eq_ok, refuse_eq_ok, exists_const, not_or, not_not]
  constructor
  · rintro ⟨parts, parsed, bytes, decoded, header, read, alg, bytes', decoded', payload, read', ⟨named, same⟩, rfl⟩
    exact ⟨parts, bytes, header, bytes', payload, parsed, decoded, read, alg, decoded', read', named, same, rfl⟩
  · rintro ⟨parts, bytes, header, bytes', payload, parsed, decoded, read, alg, decoded', read', named, same, rfl⟩
    exact ⟨parts, parsed, bytes, decoded, header, read, alg, bytes', decoded', payload, read', ⟨named, same⟩, rfl⟩
/-- The key of a client with an identifier: registered, or published. -/
def key_of (client : Client) (kid : String) : Prog Host (Except OAuthError JwkPub) :=
  match client.jwks.find? fun k => k.kid == kid with
  | some j => return .ok j
  | none =>
    match client.jwks_uri with
    | none => return .error (bad "no matching kid")
    | some uri => do
      match ← resolve_jwk uri kid with
      | some j => return .ok j
      | none => return .error (bad "no matching kid (jwks_uri)")

/-- The signature holds and the audience is exactly the issuer. -/
def check_signature (p : Server) (a : Opened) (jwk : JwkPub) : Except OAuthError Unit := do
  let vk ← (es256.verifying_key_from_xy p.toJose (← dec p jwk.x) (← dec p jwk.y)).mapError .InvalidClient
  let sig ← (p.signature_from_slice (← dec p a.parts.signature)).mapError fun _ => bad "assertion sig"
  refuse (!p.verify vk a.parts.signing_input sig) (bad "assertion signature invalid")
  refuse (a.payload.get_str "aud" ≠ some p.issuer) (bad "assertion aud must be the issuer identifier")

/-- What a key has to verify. -/
theorem check_signature_eq_ok {p : Server} {a : Opened} {jwk : JwkPub} :
    check_signature p a jwk = .ok () ↔
      ∃ x y vk bytes sig, es256.b64url_decode p.toJose jwk.x = .ok x ∧ es256.b64url_decode p.toJose jwk.y = .ok y ∧
        es256.verifying_key_from_xy p.toJose x y = .ok vk ∧ es256.b64url_decode p.toJose a.parts.signature = .ok bytes ∧
        p.signature_from_slice bytes = .ok sig ∧ p.verify vk a.parts.signing_input sig = true ∧
        a.payload.get_str "aud" = some p.issuer := by
  simp only [check_signature, dec, bind_eq_ok, mapError_eq_ok, refuse_eq_ok, exists_const, not_not, Bool.not_eq_true',
    Bool.not_eq_false]
  constructor
  · rintro ⟨x, decodedX, y, decodedY, vk, point, bytes, decoded, sig, read, verified, aud⟩
    exact ⟨x, y, vk, bytes, sig, decodedX, decodedY, point, decoded, read, verified, aud⟩
  · rintro ⟨x, y, vk, bytes, sig, decodedX, decodedY, point, decoded, read, verified, aud⟩
    exact ⟨x, decodedX, y, decodedY, vk, point, bytes, decoded, sig, read, verified, aud⟩

/-- The `jti` and the expiry of an assertion that is valid at a clock reading. -/
def fresh (payload : Json) (now : Int) : Except OAuthError (String × Int) := do
  let exp ← ok_or (payload.get_i64 "exp") (bad "assertion expired")
  refuse (!exp_in_window exp now MAX_ASSERTION_LIFETIME_SECS) (bad "assertion expired or exp too far in the future")
  refuse ((payload.get_i64 "nbf").any fun nbf => nbf > saturating_add now 60) (bad "assertion nbf too far in the future")
  let jti := (payload.get_str "jti").getD ""
  refuse (jti = "") (bad "assertion jti missing")
  return (jti, exp)

def authenticate (p : Server) (input : ClientAuthInput) : Prog Host (Except OAuthError Client) := do
  let some assertion := input.client_assertion | return .error (bad "client_assertion required")
  match opened p assertion with
  | .error e => return .error e
  | .ok a =>
  let some client ← p.resolve_client a.sub | return .error (bad "unknown client")
  if client.token_endpoint_auth_method ≠ "private_key_jwt" then
    return .error (bad "client is not private_key_jwt")
  match ← key_of client a.kid with
  | .error e => return .error e
  | .ok jwk =>
  match check_signature p a jwk with
  | .error e => return .error e
  | .ok () =>
  let now ← now
  match fresh a.payload now with
  | .error e => return .error e
  | .ok (jti, exp) =>
  if !(← claim .client_assertion ("cjwt:" ++ jti) (exp - now).toNat) then
    return .error (bad "assertion jti replay")
  return .ok client

/-- A valid assertion, signed with a registered key, hangs on the claim alone. -/
theorem run_authenticate {σ : Type} {h : Prog.Handler Host σ} {s : σ} {p : Server} {assertion jti : String}
    (basic : Option (String × String)) (id : Option String) {a : Opened} {client : Client} {jwk : JwkPub} {t : Nat} {exp : Int}
    (opened : opened p assertion = .ok a) (resolved : Prog.run h (p.resolve_client a.sub) s = (some client, s))
    (method : client.token_endpoint_auth_method = "private_key_jwt")
    (registered : (client.jwks.find? fun k => k.kid == a.kid) = some jwk) (signature : check_signature p a jwk = .ok ())
    (clock : h (.backend .now) s = (t, s)) (fresh : fresh a.payload t = .ok (jti, exp)) :
    Prog.run h (authenticate p ⟨basic, id, some assertion⟩) s =
      (if (h (.claim .client_assertion ("cjwt:" ++ jti) (exp - t).toNat) s).1 then .ok client
        else .error (bad "assertion jti replay"), (h (.claim .client_assertion ("cjwt:" ++ jti) (exp - t).toNat) s).2) := by
  have key : key_of client a.kid = .ret (.ok jwk) := by simp [key_of, registered]
  simp only [authenticate, opened]
  rw [Prog.run_bind, resolved]
  dsimp only
  rw [if_neg (not_not_intro method), key, Prog.ret_bind]
  dsimp only
  rw [signature]
  dsimp only
  rw [now, Prog.call_bind, Prog.run_call, clock]
  dsimp only [Prog.ret_bind]
  rw [fresh]
  dsimp only
  rw [claim, Prog.call_bind, Prog.run_call]
  cases (h (.claim .client_assertion ("cjwt:" ++ jti) (exp - t).toNat) s).1 <;> rfl

end PrivateKeyJwt

/-- The methods a request can authenticate its client with. -/
inductive ClientAuthMethod where
  | none
  | client_secret_basic
  | private_key_jwt
deriving DecidableEq, Repr

def ClientAuthMethod.authenticate (p : Server) (input : ClientAuthInput) :
    ClientAuthMethod → Prog Host (Except OAuthError Client)
  | .none => NoneAuth.authenticate p input
  | .client_secret_basic => ClientSecretBasic.authenticate p input
  | .private_key_jwt => PrivateKeyJwt.authenticate p input

/-- An assertion goes before Basic credentials, and these before no authentication. -/
def auth_method (p : Server) (headers : Headers) (form : Form) : ClientAuthMethod :=
  if ((form.get "client_assertion_type").map (contains "jwt-bearer")).getD false then .private_key_jwt
  else if (parse_basic_auth p headers).isSome then .client_secret_basic
  else .none

def authenticate_client (p : Server) (headers : Headers) (form : Form) : Prog Host (Except OAuthError Client) :=
  (auth_method p headers form).authenticate p
    { basic := parse_basic_auth p headers, body_client_id := form.get "client_id",
      client_assertion := form.get "client_assertion" }

/-! ### What authentication does -/

section uses
variable {allowed : HostOp → Prop} (gets : ∀ col id, allowed (.firestore (.get_doc col id)))
include gets

theorem resolve_client_uses (p : Server) (id : String) : (p.resolve_client id).Uses allowed := by
  unfold Server.resolve_client
  split
  · trivial
  · split
    · refine ⟨gets _ _, fun answer => ?_⟩
      rcases answer with e | ⟨_ | fields⟩ <;> trivial
    · trivial

variable (resolves : ∀ uri kid, allowed (.resolve_jwk uri kid))
include resolves

omit gets in
theorem key_of_uses (client : Client) (kid : String) : (PrivateKeyJwt.key_of client kid).Uses allowed := by
  unfold PrivateKeyJwt.key_of
  split
  · trivial
  · split
    · trivial
    · refine ⟨resolves _ _, fun answer => ?_⟩
      cases answer <;> trivial

/-- Besides reading, an assertion is claimed. -/
theorem authenticate_client_uses (clock : allowed (.backend .now)) (claims : ∀ key ttl, allowed (.claim .client_assertion key ttl))
    (p : Server) (headers : Headers) (form : Form) : (authenticate_client p headers form).Uses allowed := by
  unfold authenticate_client
  cases auth_method p headers form with
  | none =>
    unfold ClientAuthMethod.authenticate NoneAuth.authenticate
    cases form.get "client_id" with
    | none => trivial
    | some id =>
      refine (resolve_client_uses gets p id).bind fun client => ?_
      cases client with
      | none => trivial
      | some client =>
        dsimp only
        split <;> trivial
  | client_secret_basic =>
    unfold ClientAuthMethod.authenticate ClientSecretBasic.authenticate
    cases parse_basic_auth p headers with
    | none => trivial
    | some shown =>
      refine (resolve_client_uses gets p shown.1).bind fun client => ?_
      cases client with
      | none => trivial
      | some client =>
        dsimp only
        split <;> trivial
  | private_key_jwt =>
    unfold ClientAuthMethod.authenticate PrivateKeyJwt.authenticate
    cases form.get "client_assertion" with
    | none => trivial
    | some assertion =>
      dsimp only
      split
      · trivial
      · refine (resolve_client_uses gets p _).bind fun client => ?_
        cases client with
        | none => trivial
        | some client =>
          dsimp only
          split
          · trivial
          · refine (key_of_uses resolves _ _).bind fun key => ?_
            cases key with
            | error e => trivial
            | ok jwk =>
              dsimp only
              split
              · trivial
              · refine ⟨clock, fun t => ?_⟩
                dsimp only [Prog.bind]
                split
                · trivial
                · refine ⟨claims _ _, fun won => ?_⟩
                  cases won <;> trivial

end uses

end RustOp.Web
