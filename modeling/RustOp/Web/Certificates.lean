import RustOp.Web.Webauthn

/-!
X.509 certificates, as far as attestations look into them: what a leaf has to
say of itself, the links of a chain, and the roots it ends in. Their encoding is
the library's.
-/
namespace RustOp.Web
open RustOp.Effects

/-! ### Certificates -/

/-- Bytes, the last of which may be used in part. -/
structure BitString where
  unused_bits : Nat
  raw_bytes : List UInt8
deriving DecidableEq, Repr

def BitString.as_bytes (b : BitString) : Option (List UInt8) := if b.unused_bits = 0 then some b.raw_bytes else none

structure AttributeTypeAndValue where
  oid : String
  value : List UInt8
deriving DecidableEq, Repr

/-- A distinguished name: the attributes of each of its relative names. -/
abbrev RdnSequence := List (List AttributeTypeAndValue)

/-- Seconds since the epoch. -/
structure Validity where
  not_before : Nat
  not_after : Nat
deriving DecidableEq, Repr

structure SubjectPublicKeyInfo where
  algorithm : String
  parameters : Option (List UInt8)
  subject_public_key : BitString
deriving DecidableEq, Repr

structure Extension where
  extn_id : String
  extn_value : List UInt8
deriving DecidableEq, Repr

inductive Version where
  | V1
  | V2
  | V3
deriving DecidableEq, Repr

structure TbsCertificate where
  version : Version
  serial_number : List UInt8
  issuer : RdnSequence
  validity : Validity
  subject : RdnSequence
  subject_public_key_info : SubjectPublicKeyInfo
  extensions : Option (List Extension)
  /-- The fields that are compared and nothing else. -/
  other : List UInt8
deriving DecidableEq, Repr

structure Certificate where
  tbs_certificate : TbsCertificate
  signature_algorithm : String
  signature : BitString
deriving DecidableEq, Repr

/-- Functions of the libraries that read and write certificates. -/
structure X509 where
  /-- `Certificate::from_der` -/
  certificate_from_der : List UInt8 → Except String Certificate
  /-- `TbsCertificate::to_der` -/
  tbs_to_der : TbsCertificate → Except String (List UInt8)
  /-- `RdnSequence::to_der` -/
  name_to_der : RdnSequence → Except String (List UInt8)
  /-- `SubjectPublicKeyInfo::to_der` -/
  spki_to_der : SubjectPublicKeyInfo → Except String (List UInt8)
  /-- `Any::decode_as` for an object identifier. -/
  decode_oid : List UInt8 → Except String String
  /-- `BasicConstraints::from_der`: whether it is an authority. -/
  basic_constraints_from_der : List UInt8 → Except String Bool
  /-- `ExtendedKeyUsage::from_der` -/
  extended_key_usage_from_der : List UInt8 → Except String (List String)
  /-- `OctetString::from_der` -/
  octet_string_from_der : List UInt8 → Except String (List UInt8)
  /-- `RsaPublicKey::from_public_key_der`: modulus and exponent in big-endian bytes. -/
  rsa_from_public_key_der : List UInt8 → Except String (List UInt8 × List UInt8)
  /-- `p256::ecdsa::VerifyingKey::from_sec1_bytes` -/
  p256_from_sec1_bytes : List UInt8 → Except String (List UInt8)
  /-- `p384::ecdsa::VerifyingKey::from_sec1_bytes` -/
  p384_from_sec1_bytes : List UInt8 → Except String (List UInt8)
  /-- `p384::ecdsa::Signature::from_der` -/
  p384_from_der : List UInt8 → Except String (List UInt8)
  /-- `p384::ecdsa::VerifyingKey::verify` -/
  p384_verify : List UInt8 → List UInt8 → List UInt8 → Bool
  /-- `STANDARD.decode` -/
  decode_standard : String → Except String (List UInt8)

/-- The provider with what its conformance endpoints need. -/
structure Conformance extends Site, X509 where
  /-- `serde_json::from_str` -/
  json_from_str : String → Except String Json

namespace fido.verify

def OID_ECDSA_SHA256 : String := "1.2.840.10045.4.3.2"
def OID_BASIC_CONSTRAINTS : String := "2.5.29.19"
/-- id-fido-gen-ce-aaguid -/
def OID_FIDO_AAGUID : String := "1.3.6.1.4.1.45724.1.1.4"

variable (p : Conformance)

def ec_p256_xy_from_parsed (cert : Certificate) : Except String (List UInt8 × List UInt8) := do
  let pk ← ok_or cert.tbs_certificate.subject_public_key_info.subject_public_key.as_bytes "spki bitstring not byte-aligned"
  if pk.length = 65 ∧ pk.head? = some 0x04 then
    return ((pk.drop 1).take 32, (pk.drop 33).take 32)
  else
    .error ("cert key not uncompressed P-256 (len " ++ toString pk.length ++ ")")

def x5c_parse (der : List UInt8) : Except String Certificate := (p.certificate_from_der der).mapError ("x5c parse: " ++ ·)

def ec_p256_xy_from_cert (der : List UInt8) : Except String (List UInt8 × List UInt8) := do
  ec_p256_xy_from_parsed (← x5c_parse p der)

/-- The certificate is valid now, and does not name itself as its issuer. -/
def check_cert (now : Nat) (c : Certificate) : Except String Unit := do
  refuse (now < c.tbs_certificate.validity.not_before) "certificate not yet valid"
  refuse (now > c.tbs_certificate.validity.not_after) "certificate expired"
  let iss ← (p.name_to_der c.tbs_certificate.issuer).mapError ("issuer der: " ++ ·)
  let sub ← (p.name_to_der c.tbs_certificate.subject).mapError ("subject der: " ++ ·)
  refuse (iss = sub) "attestation x5c must not contain a self-signed certificate"

/-- The key of the parent signed the child. A link with another algorithm than
    ECDSA is skipped. -/
def check_link (child parent : Certificate) : Except String Unit := do
  if child.signature_algorithm ≠ OID_ECDSA_SHA256 then
    return ()
  let tbs ← (p.tbs_to_der child.tbs_certificate).mapError ("tbs der: " ++ ·)
  let sig ← ok_or child.signature.as_bytes "cert signature not byte-aligned"
  let (px, py) ← ec_p256_xy_from_parsed parent
  (verify_es256_raw p.toSite px py tbs sig).mapError fun _ => "certificate chain signature invalid"

/-- Every certificate is valid now, and each is signed by the next. Where the
    chain ends is not looked at. -/
def check_cert_chain (now : Nat) (ders : List (List UInt8)) : Except String Unit := do
  let parsed ← ders.mapM (x5c_parse p)
  parsed.forM (check_cert p now)
  (parsed.zip parsed.tail).forM fun link => check_link p link.1 link.2

/-- The first attribute of this kind. -/
def find_attribute (subject : RdnSequence) (oid : String) : Option (List UInt8) :=
  subject.findSome? fun rdn => (rdn.find? fun atv => atv.oid == oid).map AttributeTypeAndValue.value

/-- What an extension of an attestation certificate has to say: that it is no
    authority, and which authenticator it is for. -/
def check_extension (aaguid : List UInt8) (ext : Extension) : Except String Unit := do
  if ext.extn_id = OID_BASIC_CONSTRAINTS then
    let ca ← (p.basic_constraints_from_der ext.extn_value).mapError ("basicConstraints: " ++ ·)
    refuse ca "attestn cert basicConstraints CA must be false"
  else if ext.extn_id = OID_FIDO_AAGUID then
    let inner ← (p.octet_string_from_der ext.extn_value).mapError ("aaguid ext: " ++ ·)
    refuse (inner ≠ aaguid) "AAGUID extension mismatch"

/-- The requirements on an attestation certificate. -/
def check_attestn_cert (der aaguid : List UInt8) : Except String Unit := do
  let cert ← x5c_parse p der
  let find := find_attribute cert.tbs_certificate.subject
  refuse (find "2.5.4.11" ≠ some "Authenticator Attestation".toUTF8.toList)
    "attestn cert Subject-OU != 'Authenticator Attestation'"
  refuse ((find "2.5.4.3").all List.isEmpty) "attestn cert Subject-CN empty"
  refuse ((find "2.5.4.10").all List.isEmpty) "attestn cert Subject-O empty"
  refuse ((find "2.5.4.6").all fun v => v.length ≠ 2) "attestn cert Subject-C not a 2-char ISO 3166 code"
  refuse (cert.tbs_certificate.version ≠ .V3) "attestn cert version != 3"
  match cert.tbs_certificate.extensions with
  | some exts => exts.forM (check_extension p aaguid)
  | none => return ()

end fido.verify

/-! ### Chains to trusted roots -/

namespace fido.mds

/-- The public key of a certificate. -/
inductive CertPubKey where
  | EcP256 (x y : List UInt8)
  | EcP384 (x y : List UInt8)
  | Rsa (n e : List UInt8)
deriving DecidableEq, Repr

def OID_EC_PUBLIC_KEY : String := "1.2.840.10045.2.1"
def OID_P256 : String := "1.2.840.10045.3.1.7"
def OID_P384 : String := "1.3.132.0.34"
def OID_RSA : String := "1.2.840.113549.1.1.1"
def OID_RSA_SHA256 : String := "1.2.840.113549.1.1.11"
def OID_RSA_SHA384 : String := "1.2.840.113549.1.1.12"
def OID_RSA_SHA1 : String := "1.2.840.113549.1.1.5"

variable (p : Conformance)

def cert_pubkey (cert : Certificate) : Except String CertPubKey := do
  let spki := cert.tbs_certificate.subject_public_key_info
  let pk ← ok_or spki.subject_public_key.as_bytes "spki not byte-aligned"
  if spki.algorithm = OID_EC_PUBLIC_KEY then
    let parameters ← ok_or spki.parameters "ec spki missing curve"
    let curve ← (p.decode_oid parameters).mapError ("ec curve: " ++ ·)
    if curve = OID_P256 ∧ pk.length = 65 ∧ pk.head? = some 0x04 then
      return .EcP256 ((pk.drop 1).take 32) ((pk.drop 33).take 32)
    else if curve = OID_P384 ∧ pk.length = 97 ∧ pk.head? = some 0x04 then
      return .EcP384 ((pk.drop 1).take 48) ((pk.drop 49).take 48)
    else
      .error ("unsupported EC key (curve/len " ++ toString pk.length ++ ")")
  else if spki.algorithm = OID_RSA then
    let der ← (p.spki_to_der spki).mapError ("spki der: " ++ ·)
    let (n, e) ← (p.rsa_from_public_key_der der).mapError ("rsa: " ++ ·)
    return .Rsa n e
  else
    .error ("unsupported cert key alg " ++ spki.algorithm)

def p256_vk (x y : List UInt8) : Except String (List UInt8) :=
  (p.p256_from_sec1_bytes (0x04 :: (x ++ y))).mapError ("p256 key: " ++ ·)

def p384_vk (x y : List UInt8) : Except String (List UInt8) :=
  (p.p384_from_sec1_bytes (0x04 :: (x ++ y))).mapError ("p384 key: " ++ ·)

/-- Only for keys of RSA does the algorithm come from the child. -/
def cert_verify (parent : CertPubKey) (child : Certificate) (msg signature : List UInt8) : Except String Unit :=
  match parent with
  | .EcP256 x y => do
    let s ← (p.from_der signature).mapError ("p256 sig: " ++ ·)
    let vk ← p256_vk p x y
    refuse (!p.verify_bytes vk msg s) "ecdsa-p256 verify failed"
  | .EcP384 x y => do
    let s ← (p.p384_from_der signature).mapError ("p384 sig: " ++ ·)
    let vk ← p384_vk p x y
    refuse (!p.p384_verify vk msg s) "ecdsa-p384 verify failed"
  | .Rsa n e =>
    if child.signature_algorithm = OID_RSA_SHA256 then sig.verify_rs256 p.toSignatures n e msg signature
    else if child.signature_algorithm = OID_RSA_SHA384 then sig.verify_rs384 p.toSignatures n e msg signature
    else if child.signature_algorithm = OID_RSA_SHA1 then sig.verify_rs1 p.toSignatures n e msg signature
    else .error ("unsupported RSA cert sig alg " ++ child.signature_algorithm)

def cert_valid_now (now : Nat) (cert : Certificate) : Except String Unit := do
  refuse (now < cert.tbs_certificate.validity.not_before) "mds chain cert not yet valid"
  refuse (now > cert.tbs_certificate.validity.not_after) "mds chain cert expired"

def signed_by (child parent : Certificate) : Except String Unit := do
  let pk ← cert_pubkey p parent
  let tbs ← (p.tbs_to_der child.tbs_certificate).mapError ("tbs der: " ++ ·)
  let sig ← ok_or child.signature.as_bytes "cert sig not byte-aligned"
  cert_verify p pk child tbs sig

/-- The last certificate of a chain is this root or signed by it. A root that is
    not valid is passed over. -/
def anchors (now : Nat) (check_validity : Bool) (last root : Certificate) : Bool :=
  !(check_validity && (cert_valid_now now root).toOption.isNone) &&
    (last.tbs_certificate = root.tbs_certificate || (signed_by p last root).toOption.isSome)

/-- Each certificate is signed by the next, and the last one is a root or signed
    by one; the answer is the key of the first. -/
def validate_chain_to_roots (now : Nat) (x5c_der roots_der : List (List UInt8)) (check_validity : Bool) :
    Except String CertPubKey := do
  let first :: rest := x5c_der | .error "mds blob x5c empty"
  let leaf ← (p.certificate_from_der first).mapError ("mds x5c parse: " ++ ·)
  let issuers ← rest.mapM fun d => (p.certificate_from_der d).mapError ("mds x5c parse: " ++ ·)
  let roots ← roots_der.mapM fun d => (p.certificate_from_der d).mapError ("mds root parse: " ++ ·)
  if check_validity then
    (leaf :: issuers).forM (cert_valid_now now)
  ((leaf :: issuers).zip issuers).forM fun link => signed_by p link.1 link.2
  refuse (!roots.any (anchors p now check_validity (issuers.getLastD leaf)))
    "mds blob chain does not anchor to a trusted MDS root"
  cert_pubkey p leaf

/-- The chain of an attestation ends in one of the roots of the metadata. When
    its certificates are valid is not looked at. -/
def validate_attestation_chain (now : Nat) (x5c_der : List (List UInt8)) (roots_b64 : List String) : Except String Unit := do
  let roots := roots_b64.filterMap fun s => (p.decode_standard s).toOption
  refuse (roots.isEmpty) "metadata has no attestationRootCertificates"
  let _ ← validate_chain_to_roots p now x5c_der roots false
  return ()

end fido.mds
end RustOp.Web
