import RustOp.Web.Server
import RustOp.Effects.Checks

/-!
Signed texts that a request presents: DPoP proofs, client assertions and request
objects. Each is opened, its signature and claims are checked against one reading
of the clock, and its `jti` is claimed last.
-/
namespace RustOp.Web
open RustOp.Effects RustOp.Text

/-! ### DPoP proofs -/

namespace Es256Dpop

def IAT_SKEW_SECS : Int := 60
def JTI_TTL : Nat := 300

/-- base64url of the digest of an access token. -/
def ath (p : Platform) (access_token : String) : String := p.b64url (p.sha256 access_token)

/-- Without query and fragment. -/
def strip_query_fragment (u : String) : String := String.ofList (u.toList.takeWhile fun c => c ≠ '?' ∧ c ≠ '#')

/-- The embedded key and the claims of a proof whose signature holds. -/
def opened (p : Server) (proof : String) : Except String ((String × String) × Json) := do
  let parts ← ok_or (Compact.parse proof) "proof not a compact JWS"
  let header ← (p.from_slice (← es256.b64url_decode p.toJose parts.header)).mapError ("header json: " ++ ·)
  refuse (header.get_str "typ" ≠ some "dpop+jwt") "typ != dpop+jwt"
  refuse (header.get_str "alg" ≠ some "ES256") "alg != ES256"
  let jwk ← ok_or (header.get "jwk") "header.jwk missing"
  refuse (jwk.get_str "kty" ≠ some "EC" ∨ jwk.get_str "crv" ≠ some "P-256") "jwk not EC/P-256"
  refuse ((jwk.get "d").isSome) "jwk contains private key"
  let x ← ok_or (jwk.get_str "x") "jwk.x"
  let y ← ok_or (jwk.get_str "y") "jwk.y"
  let vk ← es256.verifying_key_from_xy p.toJose (← es256.b64url_decode p.toJose x) (← es256.b64url_decode p.toJose y)
  let sig ← (p.signature_from_slice (← es256.b64url_decode p.toJose parts.signature)).mapError ("sig: " ++ ·)
  refuse (!p.verify vk parts.signing_input sig) "invalid proof signature"
  let payload ← (p.from_slice (← es256.b64url_decode p.toJose parts.payload)).mapError ("payload json: " ++ ·)
  return ((x, y), payload)

open Checks in
theorem opened_eq_ok {p : Server} {proof x y : String} {payload : Json} :
    opened p proof = .ok ((x, y), payload) ↔ ∃ parts, Compact.parse proof = some parts ∧
      ∃ head, es256.b64url_decode p.toJose parts.header = .ok head ∧ ∃ header, p.from_slice head = .ok header ∧
      header.get_str "typ" = some "dpop+jwt" ∧ header.get_str "alg" = some "ES256" ∧
      ∃ jwk, header.get "jwk" = some jwk ∧ (jwk.get_str "kty" = some "EC" ∧ jwk.get_str "crv" = some "P-256") ∧
      jwk.get "d" = none ∧ jwk.get_str "x" = some x ∧ jwk.get_str "y" = some y ∧
      ∃ bx, es256.b64url_decode p.toJose x = .ok bx ∧ ∃ bY, es256.b64url_decode p.toJose y = .ok bY ∧
      ∃ vk, es256.verifying_key_from_xy p.toJose bx bY = .ok vk ∧
      ∃ bytes, es256.b64url_decode p.toJose parts.signature = .ok bytes ∧ ∃ sig, p.signature_from_slice bytes = .ok sig ∧
      p.verify vk parts.signing_input sig = true ∧
      ∃ body, es256.b64url_decode p.toJose parts.payload = .ok body ∧ p.from_slice body = .ok payload := by
  unfold opened
  simp only [bind_eq_ok, ok_or_eq_ok, mapError_eq_ok, refuse_eq_ok, pure_eq_ok, not_or, not_not, ne_eq, exists_const,
    Bool.not_eq_true', Bool.not_eq_false, Bool.not_eq_true, Option.isSome_eq_false_iff, Option.isNone_iff_eq_none]
  constructor
  · rintro ⟨parts, parsed, head, head_decoded, header, read, typ, alg, jwk, embedded, kind, plain, x', named_x, y', named_y, bx,
      decoded_x, bY, decoded_y, vk, key, bytes, decoded, sig, is_sig, verified, body, body_decoded, claims, body_read, is⟩
    cases is
    exact ⟨parts, parsed, head, head_decoded, header, read, typ, alg, jwk, embedded, kind, plain, named_x, named_y, bx, decoded_x,
      bY, decoded_y, vk, key, bytes, decoded, sig, is_sig, verified, body, body_decoded, body_read⟩
  · rintro ⟨parts, parsed, head, head_decoded, header, read, typ, alg, jwk, embedded, kind, plain, named_x, named_y, bx,
      decoded_x, bY, decoded_y, vk, key, bytes, decoded, sig, is_sig, verified, body, body_decoded, body_read⟩
    exact ⟨parts, parsed, head, head_decoded, header, read, typ, alg, jwk, embedded, kind, plain, x, named_x, y, named_y, bx,
      decoded_x, bY, decoded_y, vk, key, bytes, decoded, sig, is_sig, verified, body, body_decoded, payload, body_read, rfl⟩

/-- The time of a proof that is for this method and endpoint. -/
def addressed (p : Server) (payload : Json) (htm htu : String) : Except String Int := do
  refuse (payload.get_str "htm" ≠ some htm) "htm mismatch"
  let proof_htu := (payload.get_str "htu").getD ""
  refuse (strip_query_fragment proof_htu ≠ strip_query_fragment htu)
    ("htu mismatch (got " ++ p.debug proof_htu ++ ", want " ++ htu ++ ")")
  ok_or (payload.get_i64 "iat") "iat missing"

/-- The `jti` of a proof that is fresh at a clock reading. The distance is one of
    integers here; `Freshness` has the one of 64 bits. -/
def fresh (payload : Json) (iat now : Int) (expected_ath : Option String) : Except String String := do
  refuse (|now - iat| > IAT_SKEW_SECS) "iat out of window"
  refuse (expected_ath.isSome ∧ payload.get_str "ath" ≠ expected_ath) "ath mismatch"
  ok_or (payload.get_str "jti") "jti missing"

/-- Verifies a proof; the answer is the thumbprint of its key. -/
def verify (p : Server) (proof htm htu : String) (expected_ath : Option String) : Prog Host (Except String String) := do
  match opened p proof with
  | .error e => return .error e
  | .ok ((x, y), payload) =>
  match addressed p payload htm htu with
  | .error e => return .error e
  | .ok iat =>
  match fresh payload iat (← now) expected_ath with
  | .error e => return .error e
  | .ok jti =>
  if !(← claim .dpop ("dpop:" ++ jti) JTI_TTL) then
    return .error "jti replay"
  return .ok (es256.jwk_thumbprint_p256 p.toPlatform x y)

end Es256Dpop

/-! ### Request objects -/

namespace request_object

/-- Claims of the envelope, which are no parameters. -/
def ENVELOPE_CLAIMS : List String := ["iss", "aud", "exp", "iat", "nbf", "jti"]

def bad (m : String) : OAuthError := .InvalidRequest m

def dec (p : Server) (s : String) : Except OAuthError (List UInt8) :=
  (es256.b64url_decode p.toJose s).mapError fun _ => bad "request object base64"

/-- The claims of a request object that a registered key of the client signed. -/
def opened (p : Server) (client : Client) (jwt : String) : Except OAuthError Json := do
  let parts ← ok_or (Compact.parse jwt) (bad "request object is not a compact JWS")
  let header ← (p.from_slice (← dec p parts.header)).mapError fun _ => bad "request object header"
  refuse (header.get_str "alg" ≠ some "ES256") (bad "request object alg must be ES256")
  let kid := (header.get_str "kid").getD ""
  let jwk ← ok_or (client.jwks.find? fun k => k.kid == kid) (bad "no client key matches request object kid")
  let vk ← (es256.verifying_key_from_xy p.toJose (← dec p jwk.x) (← dec p jwk.y)).mapError .InvalidRequest
  let sig ← (p.signature_from_slice (← dec p parts.signature)).mapError fun _ => bad "request object sig"
  refuse (!p.verify vk parts.signing_input sig) (bad "request object signature invalid")
  (p.from_slice (← dec p parts.payload)).mapError fun _ => bad "request object payload"

/-- The audience is the issuer, or lists it. -/
def aud_ok (payload : Json) (issuer : String) : Bool :=
  match payload.get "aud" with
  | some (.str s) => s == issuer
  | some (.arr items) => items.any fun v => v.as_str == some issuer
  | _ => false

def addressed (p : Server) (client : Client) (payload : Json) : Except OAuthError Unit := do
  refuse (payload.get_str "iss" ≠ some client.client_id) (bad "request object iss must equal client_id")
  refuse (!aud_ok payload p.issuer) (bad "request object aud must be the issuer")

/-- The `jti` and the expiry of a request object that is valid at a clock reading. -/
def fresh (payload : Json) (now : Int) : Except OAuthError (String × Int) := do
  let exp ← ok_or (payload.get_i64 "exp") (bad "request object missing exp")
  refuse (exp ≤ now) (bad "request object expired")
  refuse (exp > now + 3600) (bad "request object exp is more than 60 minutes in the future")
  let nbf ← ok_or (payload.get_i64 "nbf") (bad "request object missing nbf")
  refuse (nbf > now + 60) (bad "request object nbf is in the future")
  refuse (nbf < now - 3600) (bad "request object nbf is more than 60 minutes in the past")
  refuse ((payload.get_i64 "iat").isNone) (bad "request object missing iat")
  let jti := (payload.get_str "jti").getD ""
  refuse (jti = "") (bad "request object missing jti")
  return (jti, exp)

/-- A claim as a parameter; what is no text travels as JSON. -/
def param (p : Server) : String × Json → Option (String × String)
  | (_, .null) => none
  | (k, .str s) => if k ∈ ENVELOPE_CLAIMS then none else some (k, s)
  | (k, other) => if k ∈ ENVELOPE_CLAIMS then none else (p.json_to_string other).map fun s => (k, s)

/-- The parameters of an authorization request. The client is always among them. -/
def params (p : Server) (client : Client) : Json → Except OAuthError Form
  | .obj fields =>
    let params := fields.filterMap (param p)
    .ok (if (Form.get params "client_id").isSome then params else params ++ [("client_id", client.client_id)])
  | _ => .error (bad "request object payload not an object")

/-- Verifies a request object of a client; the answer is its parameters. -/
def verify (p : Server) (client : Client) (jwt : String) : Prog Host (Except OAuthError Form) := do
  match opened p client jwt with
  | .error e => return .error e
  | .ok payload =>
  match addressed p client payload with
  | .error e => return .error e
  | .ok () =>
  let now ← now
  match fresh payload now with
  | .error e => return .error e
  | .ok (jti, exp) =>
  if !(← claim .request_object ("jar:" ++ jti) (exp - now).toNat) then
    return .error (bad "request object jti replay")
  return params p client payload

end request_object

end RustOp.Web
