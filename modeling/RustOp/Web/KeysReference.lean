import RustOp.Web.AttestationReference

/-!
Keys of every algorithm, what they signed of the registration of a passkey, and
the attestation of a TPM for one of them.
-/
namespace RustOp.Reference
open RustOp.Web RustOp.Text RustOp.Effects RustOp.Web.fido RustOp.Web.fido.verify

/-! ### Keys and signatures -/

/-- What an authenticator signs when a passkey is made. -/
def message : List UInt8 := authData ++ site.digest creation

/-- With SHA-256. -/
def messageDigest : List UInt8 :=
  [0xcf, 0xf6, 0xac, 0xd1, 0xde, 0x7b, 0xf4, 0x26, 0xb2, 0x7e, 0xa2, 0x6b, 0x99, 0x4d, 0xf9, 0x63, 0x27, 0x0f, 0xb7,
   0x8c, 0xc9, 0xec, 0x71, 0x7b, 0x4f, 0x0a, 0x22, 0x70, 0x43, 0xc1, 0xdf, 0x6e]

/-- With SHA-1. -/
def messageSha1 : List UInt8 :=
  [0xf3, 0x12, 0xd1, 0xfa, 0xc3, 0x8f, 0x19, 0x39, 0x96, 0x23, 0x38, 0xd2, 0xa7, 0x95, 0x6d, 0xb7, 0xb0, 0xf6, 0xf6,
   0x99]

/-- The exponent is 65537. -/
def rsaModulus : List UInt8 :=
  [0xca, 0x65, 0xf9, 0x78, 0xd7, 0x2c, 0xa1, 0x4f, 0xca, 0xc9, 0xd8, 0x99, 0xad, 0xac, 0x8e, 0x0a, 0x6c, 0x0e, 0xe5,
   0x61, 0xc1, 0xfe, 0x7e, 0xac, 0xde, 0xfc, 0x4e, 0xa3, 0x2c, 0xec, 0xca, 0xc6, 0x05, 0x9a, 0x7a, 0x98, 0xe7, 0xce,
   0x3d, 0xab, 0xde, 0xec, 0x4c, 0x9d, 0xf1, 0x23, 0x14, 0xa7, 0x1a, 0x53, 0x27, 0xa6, 0x9a, 0xa8, 0x61, 0xc0, 0xae,
   0x14, 0x20, 0x72, 0xb3, 0x79, 0xe9, 0xb1]

def rs256Signature : List UInt8 :=
  [0xbb, 0x62, 0xd5, 0x9a, 0xe1, 0x64, 0x7f, 0x17, 0x10, 0x4e, 0xab, 0x81, 0xef, 0x8b, 0x01, 0x6b, 0xa5, 0x6b, 0x48,
   0x76, 0x8d, 0x75, 0x96, 0x64, 0x80, 0xf8, 0x2f, 0xc3, 0x59, 0x3d, 0x1b, 0xf4, 0x7b, 0x1a, 0x62, 0x18, 0x51, 0xa2,
   0x1d, 0xe1, 0x58, 0x6f, 0x5a, 0x12, 0xed, 0x1a, 0xd3, 0x16, 0x85, 0xfc, 0x5e, 0x1f, 0x05, 0x95, 0x2b, 0xc3, 0x78,
   0x72, 0x90, 0x57, 0xac, 0xbb, 0x65, 0x98]

def rs1Signature : List UInt8 :=
  [0xb2, 0x92, 0xa3, 0x2b, 0x70, 0x2e, 0xa6, 0x60, 0x95, 0x8b, 0x73, 0xae, 0xda, 0x75, 0x7d, 0x12, 0x8b, 0x61, 0x5d,
   0x9f, 0xac, 0x32, 0xea, 0xd3, 0xc6, 0x45, 0x1c, 0xc8, 0x47, 0x32, 0x2b, 0x88, 0x95, 0x3d, 0x86, 0xad, 0xc0, 0x36,
   0x9e, 0x1f, 0xd1, 0xc7, 0x18, 0xfc, 0x96, 0x44, 0xdb, 0x5e, 0x96, 0x7f, 0xfd, 0x2c, 0xfb, 0xbd, 0x00, 0xed, 0x4b,
   0xd9, 0xae, 0xb7, 0xf8, 0xbf, 0x66, 0x69]

def edKey : List UInt8 :=
  [0x4c, 0x42, 0x6b, 0x65, 0x4d, 0xeb, 0x5a, 0x2f, 0x96, 0x56, 0xe3, 0xf4, 0xb0, 0x35, 0x0b, 0x2e, 0x46, 0xcd, 0x35,
   0x9d, 0x90, 0x41, 0x57, 0xe6, 0xa0, 0x1a, 0x61, 0x52, 0x1b, 0xa2, 0xa6, 0xe2]

def edSignature : List UInt8 :=
  [0xe3, 0x82, 0xd8, 0xe7, 0x93, 0xc9, 0x3b, 0x94, 0xbe, 0x0c, 0xa1, 0xa8, 0x00, 0xa6, 0xcf, 0x28, 0x02, 0xa7, 0xc9,
   0xce, 0xf9, 0x04, 0x24, 0x96, 0x64, 0xc3, 0x66, 0x22, 0x4e, 0x0e, 0x5d, 0xba, 0x58, 0x53, 0x23, 0x57, 0x4a, 0x65,
   0x21, 0xcd, 0x5e, 0x33, 0x65, 0xf8, 0x3b, 0x24, 0xa7, 0x13, 0xae, 0x36, 0x20, 0xa9, 0xb1, 0x15, 0x41, 0x17, 0x69,
   0x32, 0x27, 0x83, 0x03, 0x66, 0x48, 0x01]

/-! ### A TPM -/

/-- The RSA key, with the default exponent. -/
def pubArea : List UInt8 :=
  [0x00, 0x01, 0x00, 0x0b, 0x00, 0x06, 0x04, 0x72, 0x00, 0x00, 0x00, 0x10, 0x00, 0x10, 0x02, 0x00, 0x00, 0x00, 0x00,
   0x00, 0x00, 0x40] ++ rsaModulus

/-- With SHA-256. -/
def pubAreaDigest : List UInt8 :=
  [0xe7, 0x95, 0x82, 0xd0, 0x21, 0x93, 0xd7, 0xb5, 0x18, 0xee, 0xe2, 0x73, 0x3f, 0xdc, 0x64, 0x7c, 0xd6, 0x32, 0x41,
   0x27, 0x76, 0x73, 0xa1, 0x14, 0x45, 0xd0, 0xa6, 0x8b, 0xd1, 0xe6, 0xfe, 0x02]

/-- The digest of the message, and the name of the key. -/
def certInfo : List UInt8 :=
  [0xff, 0x54, 0x43, 0x47, 0x80, 0x17, 0x00, 0x00, 0x00, 0x20] ++ messageDigest ++ List.replicate 25 0 ++
  [0x00, 0x22, 0x00, 0x0b] ++ pubAreaDigest ++ [0x00, 0x00]

/-- With SHA-256. -/
def certInfoDigest : List UInt8 :=
  [0xc0, 0x56, 0x20, 0x34, 0x8e, 0xe4, 0x46, 0x64, 0xed, 0xd8, 0x82, 0xd8, 0x8e, 0x42, 0xd8, 0x77, 0x35, 0x8b, 0xb3,
   0xcb, 0xde, 0x4b, 0xb1, 0xcc, 0x15, 0xbb, 0x5d, 0x7d, 0x5b, 0xe0, 0xe3, 0xab]

def aikModulus : List UInt8 :=
  [0xe2, 0xb5, 0xdc, 0xa6, 0x34, 0x67, 0x03, 0xa0, 0x94, 0x45, 0x8c, 0x53, 0xa8, 0x56, 0x36, 0x6d, 0x50, 0x8d, 0x92,
   0x61, 0xf1, 0x13, 0x28, 0x8b, 0xfe, 0xd9, 0xc4, 0xd1, 0xf2, 0xd2, 0x53, 0x0d, 0x5a, 0x7d, 0x13, 0xba, 0xd0, 0x59,
   0xe6, 0x71, 0x71, 0xae, 0x97, 0x4a, 0xe8, 0x2e, 0x67, 0x19, 0xe2, 0x02, 0xc1, 0x8d, 0x84, 0xd1, 0x90, 0xf0, 0x6b,
   0x8b, 0xc1, 0xfb, 0x55, 0xbc, 0x39, 0xf1]

/-- Of the attestation key, over the certificate information. -/
def aikSignature : List UInt8 :=
  [0x07, 0xc6, 0x7b, 0x75, 0x54, 0x31, 0x97, 0xaf, 0xc7, 0xd6, 0x42, 0xf9, 0x04, 0xd1, 0x17, 0x79, 0xd7, 0x8b, 0xc4,
   0x82, 0x64, 0xee, 0x18, 0x90, 0x54, 0x13, 0x81, 0x9c, 0x38, 0xea, 0x4b, 0x55, 0xab, 0xcb, 0xee, 0x54, 0x1c, 0x3f,
   0xa5, 0x3e, 0x0e, 0xf3, 0xe3, 0x36, 0xf8, 0x7f, 0x03, 0x2a, 0xec, 0x14, 0xe4, 0x2e, 0xde, 0xeb, 0x66, 0xaa, 0xd6,
   0x3a, 0xee, 0x15, 0xb8, 0x5d, 0xf8, 0xcd]

def aikSpki : List UInt8 :=
  [0x30, 0x5c, 0x30, 0x0d, 0x06, 0x09, 0x2a, 0x86, 0x48, 0x86, 0xf7, 0x0d, 0x01, 0x01, 0x01, 0x05, 0x00, 0x03, 0x4b,
   0x00, 0x30, 0x48, 0x02, 0x41, 0x00] ++ aikModulus ++
  [0x02, 0x03, 0x01, 0x00, 0x01]

def aikCertificateSignature : List UInt8 :=
  [0xdd, 0x46, 0x39, 0xfa, 0x26, 0xdf, 0x6b, 0x39, 0x67, 0xb3, 0x05, 0x10, 0xa8, 0x32, 0x68, 0x7c, 0x1e, 0xd8, 0xba,
   0x54, 0x5f, 0x67, 0x21, 0x3b, 0xa5, 0xb5, 0xb1, 0x67, 0x7f, 0x2f, 0x63, 0x37, 0x6b, 0x55, 0xad, 0x9a, 0xc2, 0xc9,
   0x40, 0xa4, 0x67, 0x5e, 0x4c, 0xc1, 0xc2, 0xac, 0x22, 0xb8, 0x3a, 0xc3, 0x98, 0x53, 0x8e, 0xcf, 0xec, 0x26, 0x8d,
   0x4e, 0x70, 0x03, 0x76, 0xa1, 0xb7, 0xf6]

/-- The certificate of the attestation key, as it is sent. -/
def aikDer : List UInt8 :=
  [0x30, 0x82, 0x01, 0x46, 0x30, 0x81, 0xf1, 0xa0, 0x03, 0x02, 0x01, 0x02, 0x02, 0x01, 0x01, 0x30, 0x0d, 0x06, 0x09,
   0x2a, 0x86, 0x48, 0x86, 0xf7, 0x0d, 0x01, 0x01, 0x0b, 0x05, 0x00, 0x30, 0x0c, 0x31, 0x0a, 0x30, 0x08, 0x06, 0x03,
   0x55, 0x04, 0x03, 0x0c, 0x01, 0x41, 0x30, 0x1e, 0x17, 0x0d, 0x32, 0x36, 0x31, 0x31, 0x31, 0x39, 0x30, 0x39, 0x32,
   0x30, 0x31, 0x37, 0x5a, 0x17, 0x0d, 0x33, 0x36, 0x31, 0x31, 0x31, 0x36, 0x30, 0x39, 0x32, 0x30, 0x31, 0x37, 0x5a,
   0x30, 0x0c, 0x31, 0x0a, 0x30, 0x08, 0x06, 0x03, 0x55, 0x04, 0x03, 0x0c, 0x01, 0x41] ++ aikSpki ++
  [0xa3, 0x3e, 0x30, 0x3c, 0x30, 0x10, 0x06, 0x03, 0x55, 0x1d, 0x25, 0x04, 0x09, 0x30, 0x07, 0x06, 0x05, 0x67, 0x81,
   0x05, 0x08, 0x03, 0x30, 0x09, 0x06, 0x03, 0x55, 0x1d, 0x13, 0x04, 0x02, 0x30, 0x00, 0x30, 0x1d, 0x06, 0x03, 0x55,
   0x1d, 0x0e, 0x04, 0x16, 0x04, 0x14, 0x55, 0x07, 0x7f, 0xf5, 0x67, 0xc1, 0x7f, 0x46, 0xc3, 0xb4, 0x48, 0xaf, 0x6c,
   0x2d, 0xaf, 0x1e, 0x80, 0x5d, 0xa7, 0x5f, 0x30, 0x0d, 0x06, 0x09, 0x2a, 0x86, 0x48, 0x86, 0xf7, 0x0d, 0x01, 0x01,
   0x0b, 0x05, 0x00, 0x03, 0x41, 0x00] ++ aikCertificateSignature

def aikCertificate : Certificate where
  tbs_certificate :=
    { version := .V3
      serial_number := [1]
      issuer := [[⟨"2.5.4.3", bytesOfText "A".toList⟩]]
      validity := ⟨1795080017, 2110440017⟩
      subject := [[⟨"2.5.4.3", bytesOfText "A".toList⟩]]
      subject_public_key_info :=
        { algorithm := mds.OID_RSA
          parameters := some [0x05, 0x00]
          subject_public_key := ⟨0, aikSpki.drop 20⟩ }
      extensions := some
        [⟨tpm.OID_EKU, [0x30, 0x07, 0x06, 0x05, 0x67, 0x81, 0x05, 0x08, 0x03]⟩, ⟨OID_BASIC_CONSTRAINTS, [0x30, 0x00]⟩,
          ⟨"2.5.29.14",
            [0x04, 0x14, 0x55, 0x07, 0x7f, 0xf5, 0x67, 0xc1, 0x7f, 0x46, 0xc3, 0xb4, 0x48, 0xaf, 0x6c, 0x2d, 0xaf,
             0x1e, 0x80, 0x5d, 0xa7, 0x5f]⟩]
      other := [0x30, 0x0d, 0x06, 0x09, 0x2a, 0x86, 0x48, 0x86, 0xf7, 0x0d, 0x01, 0x01, 0x0b, 0x05, 0x00] }
  signature_algorithm := mds.OID_RSA_SHA256
  signature := ⟨0, aikCertificateSignature⟩

/-- The library functions, as they answer on these. -/
def keychain : Conformance :=
  { verifier with
    toSite :=
      { verifier.toSite with
        digest := fun bytes =>
          if bytes = message then messageDigest else if bytes = pubArea then pubAreaDigest
          else if bytes = certInfo then certInfoDigest else site.digest bytes
        sha1 := fun bytes => if bytes = message then messageSha1 else []
        rsa_public_key := fun n e =>
          if (n, e) ∈ [(rsaModulus, [1, 0, 1]), (aikModulus, [1, 0, 1])] then .ok n else .error "invalid modulus"
        rsa_verify := fun key hash digest signature =>
          (key, hash, digest, signature) ∈
            [(rsaModulus, "SHA-256", messageDigest, rs256Signature), (rsaModulus, "SHA-1", messageSha1, rs1Signature),
              (aikModulus, "SHA-256", certInfoDigest, aikSignature)]
        ed25519_from_bytes := fun key => if key = edKey then .ok key else .error "signature error"
        ed25519_verify := fun key signed signature => (key, signed, signature) = (edKey, message, edSignature) }
    certificate_from_der := fun der => if der = aikDer then .ok aikCertificate else verifier.certificate_from_der der
    spki_to_der := fun spki =>
      if spki = aikCertificate.tbs_certificate.subject_public_key_info then .ok aikSpki
      else .error "unexpected ASN.1 DER tag"
    extended_key_usage_from_der := fun der =>
      if der = [0x30, 0x07, 0x06, 0x05, 0x67, 0x81, 0x05, 0x08, 0x03] then .ok [tpm.OID_TCG_AIK]
      else .error "unexpected ASN.1 DER tag"
    rsa_from_public_key_der := fun der =>
      if der = aikSpki then .ok (aikModulus, [1, 0, 1]) else .error "unexpected ASN.1 DER tag" }

end RustOp.Reference
