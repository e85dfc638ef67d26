import RustOp.Web.Certificates

/-!
Attestations of a TPM: the public area of the key it certifies, the certificate
information it signs, and the certificate of the key it signs with.
-/
namespace RustOp.Web.fido.tpm
open RustOp.Effects RustOp.Web.fido.verify

def TPM_GENERATED : Nat := 0xFF544347
def TPM_ST_ATTEST_CERTIFY : Nat := 0x8017
def TPM_ALG_RSA : Nat := 0x0001
def TPM_ALG_NULL : Nat := 0x0010
def TPM_ALG_SHA1 : Nat := 0x0004
def TPM_ALG_SHA256 : Nat := 0x000B

def OID_TCG_AIK : String := "2.23.133.8.3"
def OID_EKU : String := "2.5.29.37"

/-! ### Reading structures -/

/-- Bytes and how far they were read. -/
structure Reader where
  b : List UInt8
  i : Nat := 0
deriving DecidableEq, Repr

/-- What reads on from where it is. -/
abbrev Read := StateT Reader (Except String)

def take (n : Nat) : Read (List UInt8) := fun r =>
  if r.i + n > r.b.length then .error "tpm: unexpected end of buffer"
  else .ok ((r.b.drop r.i).take n, { r with i := r.i + n })

def u16 : Read Nat := do return from_be_bytes (← take 2)
def u32 : Read Nat := do return from_be_bytes (← take 4)

/-- Two bytes of size, and as much data. -/
def tpm2b : Read (List UInt8) := do take (← u16)

def trim0 (b : List UInt8) : List UInt8 := b.dropWhile (· == 0)

/-- Bytes of a number of this width, the highest first. -/
def to_be_bytes (width n : Nat) : List UInt8 := (List.range width).reverse.map fun i => UInt8.ofNat (n / 256 ^ i)

/-- `{:#06x}` -/
def hex16 (n : Nat) : String :=
  let digits := Nat.toDigits 16 n
  "0x" ++ String.ofList (List.replicate (4 - digits.length) '0' ++ digits)

variable (p : Conformance)

def hash_cose_alg (alg : Int) (data : List UInt8) : Except String (List UInt8) :=
  if alg = -257 then .ok (p.digest data)
  else if alg = -65535 then .ok (p.sha1 data)
  else .error ("tpm alg " ++ toString alg ++ " not supported (RS256/RS1 only)")

def hash_tpm_alg (name_alg : Nat) (data : List UInt8) : Except String (List UInt8) :=
  if name_alg = TPM_ALG_SHA256 then .ok (p.digest data)
  else if name_alg = TPM_ALG_SHA1 then .ok (p.sha1 data)
  else .error ("tpm nameAlg " ++ hex16 name_alg ++ " unsupported")

/-- The public area of an RSA key: modulus, exponent and the algorithm of its name. -/
def read_pubarea_rsa : Read (List UInt8 × List UInt8 × Nat) := do
  let typ ← u16
  if typ ≠ TPM_ALG_RSA then
    throw ("tpm pubArea type " ++ hex16 typ ++ " != RSA")
  let name_alg ← u16
  let _object_attributes ← u32
  let _auth_policy ← tpm2b
  let symmetric ← u16
  if symmetric ≠ TPM_ALG_NULL then
    let _key_bits ← u16
    let _mode ← u16
  let scheme ← u16
  if scheme ≠ TPM_ALG_NULL then
    let _hash_alg ← u16
  let _key_bits ← u16
  let exponent ← u32
  let modulus ← tpm2b
  let e := if exponent = 0 then [0x01, 0x00, 0x01] else to_be_bytes 4 exponent
  return (modulus, e, name_alg)

def parse_pubarea_rsa (pub_area : List UInt8) : Except String (List UInt8 × List UInt8 × Nat) :=
  read_pubarea_rsa.run' { b := pub_area }

structure CertInfo where
  magic : Nat
  typ : Nat
  extra_data : List UInt8
  attested_name : List UInt8
deriving DecidableEq, Repr

def read_certinfo : Read CertInfo := do
  let magic ← u32
  let typ ← u16
  let _qualified_signer ← tpm2b
  let extra_data ← tpm2b
  let _clock_info ← take 17
  let _firmware_version ← take 8
  let attested_name ← tpm2b
  let _qualified_name ← tpm2b
  return { magic, typ, extra_data, attested_name }

def parse_certinfo (cert_info : List UInt8) : Except String CertInfo := read_certinfo.run' { b := cert_info }

/-! ### The statement -/

def aik_rsa_ne (cert : Certificate) : Except String (List UInt8 × List UInt8) := do
  let spki ← (p.spki_to_der cert.tbs_certificate.subject_public_key_info).mapError ("aik spki der: " ++ ·)
  (p.rsa_from_public_key_der spki).mapError ("aik rsa key: " ++ ·)

/-- One extension of the certificate; says whether it allows the key to attest. -/
def check_aik_extension (eku_ok : Bool) (ext : Extension) : Except String Bool := do
  if ext.extn_id = OID_EKU then
    let eku ← (p.extended_key_usage_from_der ext.extn_value).mapError ("eku: " ++ ·)
    return eku_ok || eku.contains OID_TCG_AIK
  else if ext.extn_id = OID_BASIC_CONSTRAINTS then
    let ca ← (p.basic_constraints_from_der ext.extn_value).mapError ("basicConstraints: " ++ ·)
    refuse ca "aik cert basicConstraints CA must be false"
    return eku_ok
  else
    return eku_ok

/-- The certificate is for attestation keys, and is no authority. -/
def check_aik_cert (cert : Certificate) : Except String Unit := do
  let exts ← ok_or cert.tbs_certificate.extensions "aik cert has no extensions"
  let eku_ok ← exts.foldlM (check_aik_extension p) false
  refuse (!eku_ok) "aik cert missing tcg-kp-AIKCertificate EKU"

/-- The certificate information is about this key and these data. -/
def check_certinfo (alg : Int) (cert_info pub_area : List UInt8) (name_alg : Nat) (auth_data client_data : List UInt8) :
    Except String Unit := do
  let ci ← parse_certinfo cert_info
  refuse (ci.magic ≠ TPM_GENERATED) "tpm certInfo magic invalid"
  refuse (ci.typ ≠ TPM_ST_ATTEST_CERTIFY) "tpm certInfo type != ATTEST_CERTIFY"
  let hashed ← hash_cose_alg p alg (auth_data ++ p.digest client_data)
  refuse (ci.extra_data ≠ hashed) "tpm certInfo.extraData mismatch"
  let named ← hash_tpm_alg p name_alg pub_area
  refuse (ci.attested_name ≠ to_be_bytes 2 name_alg ++ named) "tpm certInfo attested name mismatch"

/-- The key of the first certificate signed. Further certificates are not looked at. -/
def verify_tpm (att_stmt : Cbor) (auth_data client_data : List UInt8) (cred_key : CredKey) : Except String Unit := do
  let .map m := att_stmt | .error "tpm attStmt not a map"
  let bytes := fun k => (cbor_text_get m k).bind cbor_bytes
  refuse ((cbor_text_get m "ver").bind cbor_text ≠ some "2.0") "tpm ver != 2.0"
  let alg ← ok_or (((cbor_text_get m "alg").bind cbor_integer).map as_i32) "tpm attStmt missing alg"
  let signature ← ok_or (bytes "sig") "tpm attStmt missing sig"
  let cert_info ← ok_or (bytes "certInfo") "tpm attStmt missing certInfo"
  let pub_area ← ok_or (bytes "pubArea") "tpm attStmt missing pubArea"
  let some (.array (first :: _)) := cbor_text_get m "x5c" | .error "tpm attStmt missing x5c"
  let aik_der ← ok_or (cbor_bytes first) "tpm x5c[0] not bytes"
  let (pa_n, pa_e, name_alg) ← parse_pubarea_rsa pub_area
  let (cn, ce) ← ok_or cred_key.rsa_ne "tpm credential key is not RSA"
  refuse (trim0 pa_n ≠ trim0 cn ∨ trim0 pa_e ≠ trim0 ce) "tpm pubArea key != credential key"
  check_certinfo p alg cert_info pub_area name_alg auth_data client_data
  let aik ← (p.certificate_from_der aik_der).mapError ("aik cert parse: " ++ ·)
  check_aik_cert p aik
  let (an, ae) ← aik_rsa_ne p aik
  if alg = -257 then sig.verify_rs256 p.toSignatures an ae cert_info signature
  else if alg = -65535 then sig.verify_rs1 p.toSignatures an ae cert_info signature
  else .error ("tpm alg " ++ toString alg ++ " not supported (RS256/RS1 only)")

end RustOp.Web.fido.tpm
