import RustOp.Positional
import RustOp.Web.FidoStore
import RustOp.Web.ClientAuth
import RustOp.Web.Signatures

/-!
Passkeys: what the provider checks of an assertion before it counts as signed by
the registered key, and the origin it belongs to.
-/
namespace RustOp.Web
open RustOp.Effects RustOp.Text

/-- A CBOR value. What nothing here looks into is `other`. -/
inductive Cbor where
  | integer (n : Int)
  | bytes (b : List UInt8)
  | text (s : String)
  | array (items : List Cbor)
  | map (entries : List (Cbor × Cbor))
  | other

/-- Functions of the libraries that check passkeys. -/
structure Fido extends Signatures where
  /-- `ciborium::from_reader`: the value, and how many bytes it took. -/
  from_reader : List UInt8 → Except String (Cbor × Nat)
  /-- `Signature::from_der` -/
  from_der : List UInt8 → Except String (List UInt8)
  /-- `VerifyingKey::verify` on bytes. -/
  verify_bytes : List UInt8 → List UInt8 → List UInt8 → Bool
  /-- `String::from_utf8` -/
  from_utf8 : List UInt8 → Option String
  /-- A field as `{:?}` writes it. -/
  debug_value : Option Json → String
  /-- An optional integer as `{:?}` writes it. -/
  debug_int : Option Int → String
  /-- `str::to_lowercase` -/
  to_lowercase : String → String

/-- The provider with everything its pages need. -/
structure Site extends Server, Fido

namespace Site

/-- The second piece of the issuer between `://`, or all of it. -/
def after_scheme (p : Site) : List Char := ((split_str "://".toList p.issuer.toList)[1]?).getD p.issuer.toList

/-- Scheme, host and port. -/
def origin (p : Site) : String :=
  String.ofList ((split_str "://".toList p.issuer.toList).headD [] ++ "://".toList ++ (split '/' p.after_scheme).headD [])

/-- The host alone. -/
def rp_id (p : Site) : String := String.ofList ((split ':' ((split '/' p.after_scheme).headD [])).headD [])

end Site

/-! ### The verification core -/

namespace fido.verify

/-- User present. -/
def FLAG_UP : UInt8 := 0x01
/-- User verified. -/
def FLAG_UV : UInt8 := 0x04
/-- Attested credential data included. -/
def FLAG_AT : UInt8 := 0x40
/-- Extension data included. -/
def FLAG_ED : UInt8 := 0x80

/-- A token binding is optional, but has a shape. -/
def check_token_binding (v : Json) : Except String Unit :=
  match v.get "tokenBinding" with
  | none => .ok ()
  | some (.obj fields) =>
    if (Json.obj fields).get_str "status" ∈ [some "present", some "supported", some "not-supported"] then .ok ()
    else .error "clientData.tokenBinding.status invalid"
  | some _ => .error "clientData.tokenBinding must be an object"

/-- The bytes of client data for this ceremony, challenge and origin. -/
def check_client_data (p : Site) (client_data_json expected_type expected_challenge origin : String) :
    Except String (List UInt8) := do
  let raw ← es256.b64url_decode p.toJose client_data_json
  let v ← (p.from_slice raw).mapError ("clientData json: " ++ ·)
  refuse (v.get_str "type" ≠ some expected_type) ("clientData.type != " ++ expected_type)
  refuse (v.get_str "challenge" ≠ some expected_challenge) "clientData.challenge mismatch"
  refuse (v.get_str "origin" ≠ some origin)
    ("clientData.origin mismatch (got " ++ p.debug_value (v.get "origin") ++ ", want " ++ origin ++ ")")
  check_token_binding v
  return raw

structure AuthData where
  rp_id_hash : List UInt8
  flags : UInt8
  sign_count : Nat
  rest : List UInt8

def from_be_bytes (bytes : List UInt8) : Nat := bytes.foldl (fun n b => n * 256 + b.toNat) 0

def parse_auth_data (ad : List UInt8) : Except String AuthData :=
  if ad.length < 37 then .error "authData too short"
  else .ok ⟨ad.take 32, ad.getD 32 0, from_be_bytes ((ad.drop 33).take 4), ad.drop 37⟩

theorem from_be_bytes_lt (bytes : List UInt8) : from_be_bytes bytes < 256 ^ bytes.length :=
  Positional.value_lt fun b _ => b.toNat_lt

/-- A counter has four bytes. -/
theorem parse_auth_data_counter {ad : List UInt8} {a : AuthData} (parsed : parse_auth_data ad = .ok a) :
    a.sign_count < 2 ^ 32 := by
  unfold parse_auth_data at parsed
  split at parsed
  · cases parsed
  · cases parsed
    refine (from_be_bytes_lt _).trans_le ?_
    calc 256 ^ ((ad.drop 33).take 4).length ≤ 256 ^ 4 := Nat.pow_le_pow_right (by decide) (List.length_take_le ..)
      _ = 2 ^ 32 := by decide

def check_rp_id_hash (p : Site) (rp_id_hash : List UInt8) (rp_id : String) : Except String Unit :=
  refuse (rp_id_hash ≠ p.sha256 rp_id) "rpIdHash mismatch"

/-- Presence is always required, verification only when asked for. -/
def check_flags (flags : UInt8) (require_uv : Bool) : Except String Unit := do
  refuse (flags &&& FLAG_UP = 0) "UP flag not set"
  refuse (require_uv ∧ flags &&& FLAG_UV = 0) "UV required but not set"

def verify_es256_raw (p : Site) (pub_x pub_y message signature_der : List UInt8) : Except String Unit := do
  let vk ← es256.verifying_key_from_xy p.toJose pub_x pub_y
  let sig ← (p.from_der signature_der).mapError ("sig der: " ++ ·)
  refuse (!p.verify_bytes vk message sig) "invalid signature"

namespace CredKey

def cose_alg : CredKey → Int
  | .Es256 .. => -7
  | .Rs256 .. => -257
  | .Rs1 .. => -65535
  | .Ed25519 .. => -8

def ec_xy : CredKey → Option (List UInt8 × List UInt8)
  | .Es256 x y => some (x, y)
  | _ => none

def rsa_ne : CredKey → Option (List UInt8 × List UInt8)
  | .Rs256 n e => some (n, e)
  | .Rs1 n e => some (n, e)
  | _ => none

set_option linter.dupNamespace false in
def verify (p : Site) (key : CredKey) (signed signature : List UInt8) : Except String Unit :=
  match key with
  | .Es256 x y => verify_es256_raw p x y signed signature
  | .Rs256 n e => sig.verify_rs256 p.toSignatures n e signed signature
  | .Rs1 n e => sig.verify_rs1 p.toSignatures n e signed signature
  | .Ed25519 pk => sig.verify_ed25519 p.toSignatures pk signed signature

end CredKey

/-- The key signed the authenticator data and the digest of the client data. -/
def verify_assertion (p : Site) (key : CredKey) (auth_data client_data signature : List UInt8) : Except String Unit :=
  key.verify p (auth_data ++ p.digest client_data) signature

def verify_es256_signature (p : Site) (pub_x pub_y auth_data client_data signature_der : List UInt8) : Except String Unit :=
  verify_es256_raw p pub_x pub_y (auth_data ++ p.digest client_data) signature_der

/-- The end of the credential identifier in attested credential data, if all of it is there. -/
def attested_cred_id_end (rest : List UInt8) : Option Nat :=
  if rest.length < 18 then none
  else
    let last := 18 + from_be_bytes ((rest.drop 16).take 2)
    if rest.length < last then none else some last

def cose_get_int (m : List (Cbor × Cbor)) (key : Int) : Option Cbor :=
  (m.find? fun e => match e.1 with | .integer n => n == key | _ => false).map Prod.snd

def cbor_text_get (m : List (Cbor × Cbor)) (key : String) : Option Cbor :=
  (m.find? fun e => match e.1 with | .text t => t == key | _ => false).map Prod.snd

def cbor_bytes : Cbor → Option (List UInt8)
  | .bytes b => some b
  | _ => none

def cbor_integer : Cbor → Option Int
  | .integer n => some n
  | _ => none

def cbor_text : Cbor → Option String
  | .text s => some s
  | _ => none

/-- `as i32` -/
def as_i32 (n : Int) : Int := n.bmod (2 ^ 32)

/-- A key in the encoding of COSE, and how many bytes it took. -/
def parse_cose_key (p : Site) (cose_bytes : List UInt8) : Except String (CredKey × Nat) := do
  let (cose, consumed) ← (p.from_reader cose_bytes).mapError ("COSE cbor: " ++ ·)
  let .map m := cose | .error "COSE key is not a map"
  let int := fun k => (cose_get_int m k).bind cbor_integer
  let bytes := fun k => (cose_get_int m k).bind cbor_bytes
  let alg := int 3
  if int 1 = some 2 then
    refuse (alg ≠ some (-7)) ("COSE EC2 alg != ES256 (" ++ p.debug_int alg ++ ")")
    let xb ← es256.pad32 (← ok_or (bytes (-2)) "COSE missing x")
    let yb ← es256.pad32 (← ok_or (bytes (-3)) "COSE missing y")
    let _ ← es256.verifying_key_from_xy p.toJose xb yb
    return (.Es256 xb yb, consumed)
  else if int 1 = some 3 then
    let n ← ok_or (bytes (-1)) "COSE RSA missing n"
    let e ← ok_or (bytes (-2)) "COSE RSA missing e"
    if alg = some (-257) then return (.Rs256 n e, consumed)
    else if alg = some (-65535) then return (.Rs1 n e, consumed)
    else .error ("COSE RSA alg unsupported (" ++ p.debug_int alg ++ ")")
  else if int 1 = some 1 then
    refuse (alg ≠ some (-8)) ("COSE OKP alg != EdDSA (" ++ p.debug_int alg ++ ")")
    refuse (int (-1) ≠ some 6) ("COSE OKP crv != Ed25519 (" ++ p.debug_int (int (-1)) ++ ")")
    return (.Ed25519 (← ok_or (bytes (-2)) "COSE OKP missing x"), consumed)
  else .error ("COSE kty unsupported (" ++ p.debug_int (int 1) ++ ")")

structure AttestationObject where
  fmt : String
  auth_data : List UInt8
  att_stmt : Cbor

/-- Without a statement it counts as empty. -/
def parse_attestation_object (p : Site) (att : List UInt8) : Except String AttestationObject := do
  let (obj, _) ← (p.from_reader att).mapError ("attObj cbor: " ++ ·)
  let .map m := obj | .error "attestationObject not a map"
  let fmt ← ok_or ((cbor_text_get m "fmt").bind cbor_text) "attestationObject missing fmt"
  let auth_data ← ok_or ((cbor_text_get m "authData").bind cbor_bytes) "attestationObject missing authData"
  return { fmt, auth_data, att_stmt := (cbor_text_get m "attStmt").getD (.map []) }

end fido.verify

/-! ### Assertions of a login or an approval -/

/-- What a browser sends after it asked a passkey. -/
structure AuthVerifyReq where
  id : String
  client_data_json : String
  authenticator_data : String
  signature : String
  user_handle : Option String
deriving DecidableEq, Repr

namespace webauthn
open fido.verify

/-- The challenge that client data names. -/
def extract_challenge (p : Site) (client_data_json : String) : Option String := do
  let raw ← (es256.b64url_decode p.toJose client_data_json).toOption
  let v ← (p.from_slice raw).toOption
  v.get_str "challenge"

/-- Checks an assertion against a registered key; the answer is the new counter. -/
def verify_authentication (p : Site) (req : AuthVerifyReq) (expected_challenge pub_x pub_y : String)
    (stored_sign_count : Nat) (require_uv : Bool) : Except String Nat := do
  let client_data ← check_client_data p req.client_data_json "webauthn.get" expected_challenge p.origin
  let auth_data ← es256.b64url_decode p.toJose req.authenticator_data
  let ad ← parse_auth_data auth_data
  check_rp_id_hash p ad.rp_id_hash p.rp_id
  check_flags ad.flags require_uv
  let x ← es256.b64url_decode p.toJose pub_x
  let y ← es256.b64url_decode p.toJose pub_y
  verify_assertion p (.Es256 x y) auth_data client_data (← es256.b64url_decode p.toJose req.signature)
  refuse (ad.sign_count ≠ 0 ∧ ad.sign_count ≤ stored_sign_count) "signCount did not increase (possible clone)"
  return ad.sign_count

/-- What a browser sends after it made a passkey. -/
structure RegResponse where
  client_data_json : String
  attestation_object : String
deriving DecidableEq, Repr

/-- The passkey that was made. -/
structure RegOutcome where
  credential_id : String
  pub_x : String
  pub_y : String
  sign_count : Nat
deriving DecidableEq, Repr

/-- Checks a new passkey, which has to be an ES256 key. Its attestation is not looked at. -/
def verify_registration (p : Site) (req : RegResponse) (expected_challenge origin rp_id : String) :
    Except String RegOutcome := do
  let _ ← check_client_data p req.client_data_json "webauthn.create" expected_challenge origin
  let att ← es256.b64url_decode p.toJose req.attestation_object
  let ao ← parse_attestation_object p att
  let ad ← parse_auth_data ao.auth_data
  check_rp_id_hash p ad.rp_id_hash rp_id
  refuse (ad.flags &&& FLAG_UP = 0) "UP flag not set"
  refuse (ad.flags &&& FLAG_AT = 0) "AT flag not set (no attested credential data)"
  let last ← ok_or (attested_cred_id_end ad.rest) "attestedCredentialData too short or credId length overflow"
  let (key, _) ← parse_cose_key p (ad.rest.drop last)
  let .Es256 x y := key | .error "OIDC passkey must be ES256"
  return ⟨p.b64url ((ad.rest.take last).drop 18), p.b64url x, p.b64url y, ad.sign_count⟩

end webauthn
end RustOp.Web
