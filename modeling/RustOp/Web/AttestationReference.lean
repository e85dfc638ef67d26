import RustOp.Web.SiteReference
import RustOp.Web.Conformance

/-!
Conformance endpoints for the witnesses. They decode CBOR, and know the
certificate of one authenticator and one signature that was made with its key.
-/
namespace RustOp.Reference
open RustOp.Web RustOp.Text RustOp.Effects RustOp.Web.fido RustOp.Web.fido.verify RustOp.Web.fido.store

/-! ### CBOR -/

/-- The argument of a head, for the last five bits of its first byte. -/
def cborArgument (info : Nat) (bytes : List UInt8) : Option (Nat × List UInt8) :=
  if info < 24 then some (info, bytes)
  else if info ≤ 27 then
    let width := 2 ^ (info - 24)
    if bytes.length < width then none else some (from_be_bytes (bytes.take width), bytes.drop width)
  else none

/-- As many values as given, one after the other. -/
def times {α : Type} (read : List UInt8 → Option (α × List UInt8)) : Nat → List UInt8 → Option (List α × List UInt8)
  | 0, bytes => some ([], bytes)
  | n + 1, bytes => do
    let (a, bytes) ← read bytes
    let (rest, bytes) ← times read n bytes
    some (a :: rest, bytes)

/-- Integers, bytes, ASCII text, arrays and maps of definite length, nested at most
    as deep as given. -/
def readCbor : Nat → List UInt8 → Option (Cbor × List UInt8)
  | 0, _ => none
  | _ + 1, [] => none
  | depth + 1, head :: bytes => do
    let (n, bytes) ← cborArgument (head.toNat % 32) bytes
    match head.toNat / 32 with
    | 0 => some (.integer n, bytes)
    | 1 => some (.integer (-1 - n), bytes)
    | 2 => if bytes.length < n then none else some (.bytes (bytes.take n), bytes.drop n)
    | 3 =>
      if bytes.length < n ∨ ¬ (bytes.take n).all (· < 0x80) then none
      else some (.text (String.ofList (textOfBytes (bytes.take n))), bytes.drop n)
    | 4 => (times (readCbor depth) n bytes).map fun r => (.array r.1, r.2)
    | 5 =>
      let entry := fun bytes => do
        let (key, bytes) ← readCbor depth bytes
        let (value, bytes) ← readCbor depth bytes
        some ((key, value), bytes)
      (times entry n bytes).map fun r => (.map r.1, r.2)
    | _ => none

def readerOfCbor (bytes : List UInt8) : Except String (Cbor × Nat) :=
  match readCbor 8 bytes with
  | some (value, rest) => .ok (value, bytes.length - rest.length)
  | none => .error "Semantic(None, \"invalid type\")"

def cborText (s : String) : List UInt8 := UInt8.ofNat (0x60 + s.length) :: bytesOfText s.toList

/-! ### An authenticator -/

def attesterX : List UInt8 :=
  [0x6c, 0xc7, 0x10, 0x20, 0x8d, 0xb7, 0x29, 0x95, 0x07, 0x4f, 0x02, 0x38, 0xad, 0x95, 0x49, 0x36, 0x88, 0x56, 0x5f,
    0x48, 0x60, 0x6a, 0x61, 0x1a, 0x17, 0x3a, 0x16, 0x3f, 0xd0, 0xf6, 0xe3, 0x60]

def attesterY : List UInt8 :=
  [0xda, 0xe7, 0x45, 0x3e, 0x24, 0x72, 0x6f, 0x41, 0x70, 0xec, 0x8c, 0x96, 0x2d, 0x93, 0xed, 0x3c, 0x45, 0xd0, 0xd4,
    0xfe, 0x56, 0x98, 0x16, 0x92, 0x5b, 0xde, 0x72, 0x5c, 0x9a, 0xee, 0x04, 0x14]

/-- A name that nobody trusts signed the certificate. -/
def attesterIssuer : List UInt8 := [0x30, 0x0c, 0x31, 0x0a, 0x30, 0x08, 0x06, 0x03, 0x55, 0x04, 0x03, 0x0c, 0x01, 0x52]

def attesterSubject : List UInt8 :=
  [0x30, 0x59, 0x31, 0x0b, 0x30, 0x09, 0x06, 0x03, 0x55, 0x04, 0x06, 0x13, 0x02, 0x4a, 0x50, 0x31, 0x10, 0x30, 0x0e,
    0x06, 0x03, 0x55, 0x04, 0x0a, 0x0c, 0x07] ++ bytesOfText "Example".toList ++
  [0x31, 0x22, 0x30, 0x20, 0x06, 0x03, 0x55, 0x04, 0x0b, 0x0c, 0x19] ++ bytesOfText "Authenticator Attestation".toList ++
  [0x31, 0x14, 0x30, 0x12, 0x06, 0x03, 0x55, 0x04, 0x03, 0x0c, 0x0b] ++ bytesOfText "Example Key".toList

/-- What the issuer signed. -/
def attesterTbs : List UInt8 :=
  [0x30, 0x82, 0x01, 0x0a, 0xa0, 0x03, 0x02, 0x01, 0x02, 0x02, 0x01, 0x01, 0x30, 0x0a, 0x06, 0x08, 0x2a, 0x86, 0x48,
    0xce, 0x3d, 0x04, 0x03, 0x02] ++ attesterIssuer ++
  [0x30, 0x1e, 0x17, 0x0d] ++ bytesOfText "261119041609Z".toList ++ [0x17, 0x0d] ++ bytesOfText "361116041609Z".toList ++
  attesterSubject ++
  [0x30, 0x59, 0x30, 0x13, 0x06, 0x07, 0x2a, 0x86, 0x48, 0xce, 0x3d, 0x02, 0x01, 0x06, 0x08, 0x2a, 0x86, 0x48, 0xce,
    0x3d, 0x03, 0x01, 0x07, 0x03, 0x42, 0x00, 0x04] ++ attesterX ++ attesterY ++
  [0xa3, 0x10, 0x30, 0x0e, 0x30, 0x0c, 0x06, 0x03, 0x55, 0x1d, 0x13, 0x01, 0x01, 0xff, 0x04, 0x02, 0x30, 0x00]

def issuerSignature : List UInt8 :=
  [0x30, 0x44, 0x02, 0x20, 0x23, 0x3c, 0x1c, 0x28, 0xff, 0x9d, 0xd2, 0x7c, 0x39, 0x9e, 0xa7, 0xef, 0xa7, 0xf2, 0x7e,
    0x3f, 0x4f, 0xdb, 0x80, 0x5c, 0x09, 0x8f, 0xee, 0xff, 0x08, 0x58, 0xf5, 0x77, 0x51, 0x84, 0xb5, 0x64, 0x02, 0x20,
    0x3b, 0x71, 0x56, 0x8c, 0xa4, 0xb0, 0x36, 0xd9, 0xfd, 0xdc, 0xd2, 0xf8, 0x84, 0xaa, 0x7a, 0x59, 0x27, 0x99, 0xfe,
    0x5c, 0x61, 0x28, 0x51, 0x60, 0x69, 0xc0, 0x7e, 0x08, 0x7a, 0xd3, 0x72, 0xaa]

/-- The certificate, as it is sent. -/
def attesterDer : List UInt8 :=
  [0x30, 0x82, 0x01, 0x63] ++ attesterTbs ++
  [0x30, 0x0a, 0x06, 0x08, 0x2a, 0x86, 0x48, 0xce, 0x3d, 0x04, 0x03, 0x02, 0x03, 0x47, 0x00] ++ issuerSignature

/-- The certificate, as it is read. -/
def attesterCertificate : Certificate where
  tbs_certificate :=
    { version := .V3
      serial_number := [1]
      issuer := [[⟨"2.5.4.3", bytesOfText "R".toList⟩]]
      validity := ⟨1795061769, 2110421769⟩
      subject :=
        [[⟨"2.5.4.6", bytesOfText "JP".toList⟩], [⟨"2.5.4.10", bytesOfText "Example".toList⟩],
          [⟨"2.5.4.11", bytesOfText "Authenticator Attestation".toList⟩], [⟨"2.5.4.3", bytesOfText "Example Key".toList⟩]]
      subject_public_key_info :=
        { algorithm := mds.OID_EC_PUBLIC_KEY
          parameters := some [0x06, 0x08, 0x2a, 0x86, 0x48, 0xce, 0x3d, 0x03, 0x01, 0x07]
          subject_public_key := ⟨0, 0x04 :: (attesterX ++ attesterY)⟩ }
      extensions := some [⟨OID_BASIC_CONSTRAINTS, [0x30, 0x00]⟩]
      other := [0x30, 0x0a, 0x06, 0x08, 0x2a, 0x86, 0x48, 0xce, 0x3d, 0x04, 0x03, 0x02] }
  signature_algorithm := OID_ECDSA_SHA256
  signature := ⟨0, issuerSignature⟩

/-! ### Its attestation of the passkey -/

def creation : List UInt8 := bytesOfText (clientData "webauthn.create" "c")

/-- Made with the key of the certificate over the authenticator data and the
    digest of the client data. -/
def attesterSignature : List UInt8 :=
  [0x30, 0x44, 0x02, 0x20, 0x3d, 0xfd, 0xc3, 0xd1, 0x42, 0x69, 0x0f, 0x3c, 0x3b, 0xce, 0x5d, 0x91, 0x3e, 0x42, 0xc4,
    0xef, 0xa8, 0xc1, 0x04, 0x85, 0x7c, 0xe4, 0x81, 0x50, 0x38, 0x4e, 0xbb, 0x83, 0x7f, 0x79, 0xe7, 0x7f, 0x02, 0x20,
    0x48, 0x53, 0x14, 0xea, 0xb5, 0x21, 0x6b, 0x0a, 0x49, 0x95, 0xa8, 0xf1, 0x4b, 0x8a, 0x19, 0x96, 0x69, 0xac, 0xed,
    0x27, 0x01, 0x6c, 0x7f, 0xe9, 0xe2, 0x72, 0x11, 0xf9, 0x44, 0xed, 0xed, 0xfb]

/-- A packed statement with the certificate. The identifier of the authenticator is
    zero. -/
def packedAttestation : List UInt8 :=
  [0xa3] ++ cborText "fmt" ++ cborText "packed" ++
  cborText "attStmt" ++ [0xa3] ++ cborText "alg" ++ [0x26] ++
    cborText "sig" ++ [0x58, 0x46] ++ attesterSignature ++
    cborText "x5c" ++ [0x81, 0x59, 0x01, 0x67] ++ attesterDer ++
  cborText "authData" ++ [0x58, UInt8.ofNat authData.length] ++ authData

/-- An attestation without a statement. A byte that nothing announces follows the
    key. -/
def trailingAttestation : List UInt8 :=
  [0xa3] ++ cborText "fmt" ++ cborText "none" ++ cborText "attStmt" ++ [0xa0] ++
  cborText "authData" ++ [0x58, UInt8.ofNat (authData.length + 1)] ++ authData ++ [0x00]

/-- The response of a browser, as a value and as text. -/
def createdValue (client_data attestation_object : String) : Json :=
  .obj [("id", .str "AQIDBA"), ("type", .str "public-key"),
    ("response", .obj [("clientDataJSON", .str client_data), ("attestationObject", .str attestation_object)])]

def created (client_data attestation_object : String) : String :=
  "\x7b\"id\":\"AQIDBA\",\"type\":\"public-key\",\"response\":\x7b\"clientDataJSON\":\"" ++ client_data ++
    "\",\"attestationObject\":\"" ++ attestation_object ++ "\"\x7d\x7d"

/-- The library functions, as they answer on this attestation. -/
def certifier : Conformance where
  toSite :=
    { site with
      from_reader := readerOfCbor
      from_der := fun der => if der = attesterSignature then .ok der else .error "signature error"
      verify_bytes := fun vk message signature =>
        vk = attesterX ++ attesterY ∧ message = authData ++ site.digest creation ∧ signature = attesterSignature }
  certificate_from_der := fun der =>
    if der = attesterDer then .ok attesterCertificate else .error "unexpected ASN.1 DER tag"
  tbs_to_der := fun tbs =>
    if tbs = attesterCertificate.tbs_certificate then .ok attesterTbs else .error "unexpected ASN.1 DER tag"
  name_to_der := fun name =>
    if name = attesterCertificate.tbs_certificate.issuer then .ok attesterIssuer
    else if name = attesterCertificate.tbs_certificate.subject then .ok attesterSubject
    else .error "unexpected ASN.1 DER tag"
  spki_to_der := fun _ => .error "unexpected ASN.1 DER tag"
  decode_oid := fun der =>
    if der = [0x06, 0x08, 0x2a, 0x86, 0x48, 0xce, 0x3d, 0x03, 0x01, 0x07] then .ok mds.OID_P256 else .error "malformed OID"
  basic_constraints_from_der := fun der => if der = [0x30, 0x00] then .ok false else .error "unexpected ASN.1 DER tag"
  extended_key_usage_from_der := fun _ => .error "unexpected ASN.1 DER tag"
  octet_string_from_der := fun _ => .error "unexpected ASN.1 DER tag"
  rsa_from_public_key_der := fun _ => .error "unexpected ASN.1 DER tag"
  p256_from_sec1_bytes := fun bytes => .ok (bytes.drop 1)
  p384_from_sec1_bytes := fun _ => .error "signature error"
  p384_from_der := fun _ => .error "signature error"
  p384_verify := fun _ _ _ => false
  decode_standard := fun _ => .error "Invalid padding"
  json_from_str := fun body =>
    if body = created (base64 creation) (base64 packedAttestation) then
      .ok (createdValue (base64 creation) (base64 packedAttestation))
    else .error "expected value at line 1 column 1"

/-- The endpoints with the metadata service on. Nothing was loaded. -/
def vetting : FidoState where
  rp_id := "op"
  origin := "https://op"
  mds := { enabled := true }

/-- A ceremony was begun with the challenge. -/
def begun : MemFidoStore.World where
  clock := 1800000000
  inner := { challenges := .ofEntries [("c", some ⟨"alice", none, 1800000000⟩)] }

/-! ### Certificates of others -/

def ownerX : List UInt8 :=
  [0x39, 0x0a, 0xcf, 0xb5, 0x5f, 0xff, 0x11, 0x4b, 0x13, 0xe8, 0x3a, 0x83, 0x2d, 0x50, 0xc1, 0xd0, 0x7f, 0x19, 0xe9,
    0x95, 0x0f, 0xe3, 0xea, 0xd9, 0x84, 0xd1, 0x35, 0x38, 0xb3, 0x1b, 0x47, 0x6c]

def ownerY : List UInt8 :=
  [0xd0, 0x50, 0xf7, 0x27, 0xdf, 0x77, 0x8c, 0xaa, 0xf2, 0xe1, 0x84, 0xdc, 0xbf, 0x3b, 0xd9, 0xc0, 0xe3, 0x2a, 0x1b,
    0x53, 0x43, 0x42, 0xb0, 0x23, 0xd4, 0x21, 0xb2, 0x5d, 0xa1, 0xc4, 0x86, 0xb5]

def ownerSubject : List UInt8 := [0x30, 0x0c, 0x31, 0x0a, 0x30, 0x08, 0x06, 0x03, 0x55, 0x04, 0x03, 0x0c, 0x01, 0x45]

def ownerTbs : List UInt8 :=
  [0x30, 0x81, 0xbd, 0xa0, 0x03, 0x02, 0x01, 0x02, 0x02, 0x01, 0x02, 0x30, 0x0a, 0x06, 0x08, 0x2a, 0x86, 0x48, 0xce,
    0x3d, 0x04, 0x03, 0x02] ++ attesterIssuer ++
  [0x30, 0x1e, 0x17, 0x0d] ++ bytesOfText "261119041609Z".toList ++ [0x17, 0x0d] ++ bytesOfText "361116041609Z".toList ++
  ownerSubject ++
  [0x30, 0x59, 0x30, 0x13, 0x06, 0x07, 0x2a, 0x86, 0x48, 0xce, 0x3d, 0x02, 0x01, 0x06, 0x08, 0x2a, 0x86, 0x48, 0xce,
    0x3d, 0x03, 0x01, 0x07, 0x03, 0x42, 0x00, 0x04] ++ ownerX ++ ownerY ++
  [0xa3, 0x10, 0x30, 0x0e, 0x30, 0x0c, 0x06, 0x03, 0x55, 0x1d, 0x13, 0x01, 0x01, 0xff, 0x04, 0x02, 0x30, 0x00]

/-- The certificate of the key that signed the one of the attester, as it is sent.
    It is no authority, and has another name than the issuer there. -/
def ownerDer : List UInt8 :=
  [0x30, 0x82, 0x01, 0x15] ++ ownerTbs ++
  [0x30, 0x0a, 0x06, 0x08, 0x2a, 0x86, 0x48, 0xce, 0x3d, 0x04, 0x03, 0x02, 0x03, 0x47, 0x00] ++ issuerSignature

def ownerCertificate : Certificate where
  tbs_certificate :=
    { attesterCertificate.tbs_certificate with
      serial_number := [2]
      subject := [[⟨"2.5.4.3", bytesOfText "E".toList⟩]]
      subject_public_key_info :=
        { attesterCertificate.tbs_certificate.subject_public_key_info with
          subject_public_key := ⟨0, 0x04 :: (ownerX ++ ownerY)⟩ } }
  signature_algorithm := OID_ECDSA_SHA256
  signature := ⟨0, issuerSignature⟩

/-- The certificate of the attester under a byte that signs nothing, and which
    names RSA with SHA-256. -/
def unsignedDer : List UInt8 :=
  [0x30, 0x82, 0x01, 0x21] ++ attesterTbs ++
  [0x30, 0x0d, 0x06, 0x09, 0x2a, 0x86, 0x48, 0x86, 0xf7, 0x0d, 0x01, 0x01, 0x0b, 0x05, 0x00, 0x03, 0x02, 0x00, 0x5a]

def unsignedCertificate : Certificate :=
  { attesterCertificate with signature_algorithm := mds.OID_RSA_SHA256, signature := ⟨0, [0x5a]⟩ }

/-- The endpoints, as they know these certificates too. -/
def verifier : Conformance :=
  { certifier with
    toSite :=
      { certifier.toSite with
        from_der := fun der => if der = issuerSignature then .ok der else certifier.from_der der
        verify_bytes := fun vk message signature =>
          (vk = ownerX ++ ownerY ∧ message = attesterTbs ∧ signature = issuerSignature) ||
            certifier.verify_bytes vk message signature }
    certificate_from_der := fun der =>
      if der = ownerDer then .ok ownerCertificate
      else if der = unsignedDer then .ok unsignedCertificate
      else certifier.certificate_from_der der }

/-! ### What the checks find -/

private theorem creation_plain : textOfBytes creation = clientData "webauthn.create" "c" := by decide +kernel

theorem creation_checked :
    check_client_data certifier.toSite (base64 creation) "webauthn.create" "c" "https://op" = .ok creation := by
  have origin : site.origin = "https://op" := by decide +kernel
  have checked := clientData_checked creation_plain
  rw [origin] at checked
  exact checked

theorem creation_named : webauthn.extract_challenge certifier.toSite (base64 creation) = some "c" :=
  clientData_named creation_plain

private theorem base64_full {bytes : List UInt8} (some_ : bytes ≠ []) : (base64 bytes).isEmpty = false := by
  by_contra empty
  have blank : base64 bytes = base64 [] := String.isEmpty_iff.mp (by simpa using empty)
  have same := base64_decoded bytes
  rw [blank, base64_decoded] at same
  exact some_ (Except.ok.inj same).symm

/-- A response with these texts is taken apart into them. -/
private theorem attested_created {p : Conformance} {client_data attestation_object challenge : String}
    (read : p.json_from_str (created client_data attestation_object) = .ok (createdValue client_data attestation_object))
    (client : client_data.isEmpty = false) (object : attestation_object.isEmpty = false)
    (named : webauthn.extract_challenge p.toSite client_data = some challenge) :
    attested p (created client_data attestation_object) = .ok ⟨client_data, attestation_object, challenge⟩ := by
  have plain : is_b64url "AQIDBA" = true := by decide +kernel
  have parsed : parse_object p (created client_data attestation_object) = .ok (createdValue client_data attestation_object) := by
    unfold parse_object
    rw [read]
    rfl
  have id : credential_id (createdValue client_data attestation_object) = .ok "AQIDBA" := by
    simp [credential_id, createdValue, Json.get, Json.get_str, Json.as_str, ok_or, refuse, plain, Option.filter_some, Checks.bind_eq_ok]
  have client_field : resp_string (createdValue client_data attestation_object) "clientDataJSON" = .ok client_data := by
    simp [resp_string, response_object, createdValue, Json.get, Json.get_str, Json.as_str, ok_or, client, Option.filter_some, Checks.bind_eq_ok]
  have object_field : resp_string (createdValue client_data attestation_object) "attestationObject" = .ok attestation_object := by
    simp [resp_string, response_object, createdValue, Json.get, Json.get_str, Json.as_str, ok_or, object, Option.filter_some, Checks.bind_eq_ok]
  simp only [attested, Checks.bind_eq_ok, Checks.pure_eq_ok, Checks.ok_or_eq_ok]
  exact ⟨_, parsed, _, id, _, client_field, _, object_field, _, named, rfl⟩

theorem packed_attested :
    attested certifier (created (base64 creation) (base64 packedAttestation)) =
      .ok ⟨base64 creation, base64 packedAttestation, "c"⟩ :=
  attested_created (by simp only [certifier, ↓reduceIte]) (base64_full (by decide +kernel)) (base64_full (by decide +kernel))
    creation_named

/-- What is stored of the passkey. -/
def packedCredential : StoredCredential := ⟨base64 credentialId, .Es256 pointX pointY, 0⟩

/-- The endpoints accept the attestation, although nothing is registered. -/
theorem packed_verified :
    verify_attestation certifier 1800000000 vetting (base64 creation) (base64 packedAttestation) "c" false =
      .ok packedCredential := by
  have decoded : es256.b64url_decode certifier.toJose (base64 packedAttestation) = .ok packedAttestation := base64_decoded _
  have origin : vetting.origin = "https://op" := rfl
  simp only [verify_attestation, origin, creation_checked, decoded, ok_bind]
  decide +kernel

end RustOp.Reference
