import RustOp.Web.Tpm

/-!
Attestations of new passkeys: the statements an authenticator may make, and the
metadata that vouch for its kind.
-/
namespace RustOp.Web
open RustOp.Effects RustOp.Text

/-! ### Statements -/

namespace fido.verify
variable (p : Conformance)

/-- The certificates of a statement; entries that are no bytes are passed over. -/
def att_x5c_ders (att_stmt : Cbor) : List (List UInt8) :=
  match att_stmt with
  | .map m =>
    match cbor_text_get m "x5c" with
    | some (.array a) => a.filterMap cbor_bytes
    | _ => []
  | _ => []

def require_empty_att_stmt : Cbor → Except String Unit
  | .map [] => .ok ()
  | _ => .error "none attestation must have an empty attStmt"

/-- A packed statement is signed by the key of its first certificate. Without
    certificates the new key signs for itself. -/
def verify_packed (now : Nat) (att_stmt : Cbor) (auth_data client_data : List UInt8) (cred_key : CredKey)
    (aaguid : List UInt8) : Except String Unit := do
  let .map m := att_stmt | .error "packed attStmt not a map"
  let alg ← ok_or (((cbor_text_get m "alg").bind cbor_integer).map as_i32) "packed attStmt missing alg"
  let sig ← ok_or ((cbor_text_get m "sig").bind cbor_bytes) "packed attStmt missing sig"
  match cbor_text_get m "x5c" with
  | some (.array (first :: rest)) =>
    refuse (alg ≠ -7) ("packed full alg " ++ toString alg ++ " not supported yet")
    let ders ← ok_or ((first :: rest).mapM cbor_bytes) "x5c entry not bytes"
    let leaf := ders.headD []
    let (x, y) ← ec_p256_xy_from_cert p leaf
    verify_es256_signature p.toSite x y auth_data client_data sig
    check_attestn_cert p leaf aaguid
    check_cert_chain p now ders
  | some _ => .error "packed x5c invalid"
  | none =>
    refuse (alg ≠ cred_key.cose_alg)
      ("packed self alg " ++ toString alg ++ " != credential alg " ++ toString cred_key.cose_alg)
    verify_assertion p.toSite cred_key auth_data client_data sig

/-- What the key of the one certificate of a U2F statement signs. -/
def u2f_verification_data (rp_id_hash client_data cred_id x y : List UInt8) : List UInt8 :=
  0x00 :: (rp_id_hash ++ p.digest client_data ++ cred_id ++ 0x04 :: (x ++ y))

def verify_u2f (att_stmt : Cbor) (rp_id_hash client_data cred_id x y : List UInt8) : Except String Unit := do
  let .map m := att_stmt | .error "u2f attStmt not a map"
  let sig ← ok_or ((cbor_text_get m "sig").bind cbor_bytes) "u2f attStmt missing sig"
  let some (.array c) := cbor_text_get m "x5c" | .error "u2f attStmt missing x5c"
  let [first] := c | .error "u2f x5c must hold exactly one cert"
  let leaf ← ok_or (cbor_bytes first) "u2f x5c[0] not bytes"
  let (cert_x, cert_y) ← ec_p256_xy_from_cert p leaf
  verify_es256_raw p.toSite cert_x cert_y (u2f_verification_data p rp_id_hash client_data cred_id x y) sig

end fido.verify

/-! ### Metadata -/

namespace fido.mds

structure MetadataStatement where
  /-- In standard base64. -/
  attestation_root_certificates : List String := []
deriving DecidableEq, Repr

structure StatusReport where
  status : String := ""
deriving DecidableEq, Repr

structure Entry where
  aaguid : Option String := none
  metadata_statement : Option MetadataStatement := none
  status_reports : List StatusReport := []
deriving DecidableEq, Repr

/-- The reports that make a kind of authenticator unacceptable. -/
def COMPROMISED : List String :=
  ["USER_VERIFICATION_BYPASS", "ATTESTATION_KEY_COMPROMISE", "USER_KEY_REMOTE_COMPROMISE", "USER_KEY_PHYSICAL_COMPROMISE"]

/-- Entries by identifier of the authenticator in lower case. -/
structure MdsCache where
  entries : Table String Entry := ∅

/-- What is known of an authenticator that has no compromising report. -/
def MdsCache.get_statement (p : Fido) (c : MdsCache) (aaguid_hex_dashed : String) :
    Except String (Option MetadataStatement) := do
  let some entry := c.entries.get (p.to_lowercase aaguid_hex_dashed) | return none
  match entry.status_reports.find? fun r => COMPROMISED.contains r.status with
  | some r => .error ("authenticator status compromised: " ++ r.status)
  | none => return entry.metadata_statement

end fido.mds

/-! ### Responses of authenticators -/

namespace fido
open verify store

/-- The metadata service: whether it is used, the roots its statements were
    loaded under, and what was loaded. -/
structure MdsState where
  enabled : Bool := false
  roots : List (List UInt8) := []
  cache : mds.MdsCache := {}

/-- What the conformance endpoints are configured with. -/
structure FidoState where
  rp_id : String
  origin : String
  mds : MdsState := {}

def hex2 (b : UInt8) : List Char := [Nat.digitChar (b.toNat / 16), Nat.digitChar (b.toNat % 16)]

/-- Sixteen bytes in groups of hexadecimal digits. -/
def aaguid_to_string (aaguid : List UInt8) : String :=
  let h := aaguid.flatMap hex2
  if h.length ≠ 32 then String.ofList h
  else String.ofList (h.take 8 ++ '-' :: (h.drop 8).take 4 ++ '-' :: (h.drop 12).take 4 ++ '-' :: (h.drop 16).take 4 ++
    '-' :: h.drop 20)

variable (p : Conformance)

/-- The statement fits its format. Only statements of U2F need an identifier of zeros. -/
def check_statement (now : Nat) (ao : AttestationObject) (ad : AuthData) (client_data aaguid cred_id : List UInt8)
    (cred_key : CredKey) : Except String Unit := do
  if ao.fmt = "none" then
    require_empty_att_stmt ao.att_stmt
  else if ao.fmt = "packed" then
    verify_packed p now ao.att_stmt ao.auth_data client_data cred_key aaguid
  else if ao.fmt = "fido-u2f" then
    refuse (aaguid.any (· ≠ 0)) "fido-u2f AAGUID must be all zero"
    let (ux, uy) ← ok_or cred_key.ec_xy "fido-u2f requires an EC P-256 credential key"
    verify_u2f p ao.att_stmt ad.rp_id_hash client_data cred_id ux uy
  else if ao.fmt = "tpm" then
    tpm.verify_tpm p ao.att_stmt ao.auth_data client_data cred_key
  else
    .error ("attestation fmt '" ++ ao.fmt ++ "' not supported yet")

/-- The metadata vouch for the authenticator. An identifier of zeros is not looked
    up, whatever the format. -/
def check_metadata (now : Nat) (st : MdsState) (att_stmt : Cbor) (aaguid : List UInt8) : Except String Unit := do
  if !st.enabled then
    return ()
  let x5c := att_x5c_ders att_stmt
  let is_u2f_zero_aaguid := aaguid.all (· = 0)
  if x5c.isEmpty || is_u2f_zero_aaguid then
    return ()
  let aaguid_str := aaguid_to_string aaguid
  match ← st.cache.get_statement p.toFido aaguid_str with
  | some stmt => mds.validate_attestation_chain p now x5c stmt.attestation_root_certificates
  | none => .error ("AAGUID " ++ aaguid_str ++ " not registered in MDS")

/-- The checks of a new passkey for a challenge. -/
def verify_attestation (now : Nat) (st : FidoState) (client_data_json attestation_object challenge : String)
    (require_uv : Bool) : Except String StoredCredential := do
  let client_data ← check_client_data p.toSite client_data_json "webauthn.create" challenge st.origin
  let att ← es256.b64url_decode p.toJose attestation_object
  let ao ← parse_attestation_object p.toSite att
  let ad ← parse_auth_data ao.auth_data
  check_rp_id_hash p.toSite ad.rp_id_hash st.rp_id
  check_flags ad.flags require_uv
  refuse (ad.flags &&& FLAG_AT = 0) "AT flag not set (no attested credential data)"
  refuse (ad.rest.length < 18) "attestedCredentialData too short"
  let aaguid := ad.rest.take 16
  let cred_id_len := from_be_bytes ((ad.rest.drop 16).take 2)
  refuse (ad.rest.length < 18 + cred_id_len) "credId length overflow"
  let cred_id := (ad.rest.drop 18).take cred_id_len
  let cose_slice := ad.rest.drop (18 + cred_id_len)
  let (cred_key, consumed) ← parse_cose_key p.toSite cose_slice
  refuse (ad.flags &&& FLAG_ED = 0 ∧ consumed ≠ cose_slice.length)
    "authData has leftover bytes after attested credential data"
  check_statement p now ao ad client_data aaguid cred_id cred_key
  check_metadata p now st.mds ao.att_stmt aaguid
  return ⟨p.b64url cred_id, cred_key, .ofNat ad.sign_count⟩

end fido
end RustOp.Web
