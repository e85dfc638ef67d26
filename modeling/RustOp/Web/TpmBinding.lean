import RustOp.Web.KeysReference
import RustOp.Web.TpmLayout

/-!
What the attestation of a TPM says once it is accepted: a key with a certificate
for attestations signed that the passkey is a key of the TPM.
-/
namespace RustOp.Web.fido.tpm
open RustOp.Effects RustOp.Web.fido.verify

/-- The statement binds the passkey: the key of the certificate signed what is
    attested of a public area, which is the key of the passkey, for these data. -/
structure Attests (p : Conformance) (m : List (Cbor × Cbor)) (auth_data client_data : List UInt8) (key : CredKey) (alg : Int)
    (a : PubArea) (c : Certify) : Prop where
  public_area : ∃ pub_area, (cbor_text_get m "pubArea").bind cbor_bytes = some pub_area ∧ a.serialise <+: pub_area ∧
    ∃ hash, hash_tpm_alg p a.name_alg pub_area = .ok hash ∧ c.attested_name.data = to_be_bytes 2 a.name_alg ++ hash
  same_key : ∃ n e, key.rsa_ne = some (n, e) ∧ from_be_bytes a.modulus.data = from_be_bytes n ∧
    (if a.exponent.val = 0 then 65537 else a.exponent.val) = from_be_bytes e
  magic : c.magic.val = TPM_GENERATED
  typ : c.typ.val = TPM_ST_ATTEST_CERTIFY
  extra_data : hash_cose_alg p alg (auth_data ++ p.digest client_data) = .ok c.extra_data.data
  signed : ∃ cert_info signature aik_der certificates aik n e,
    (cbor_text_get m "certInfo").bind cbor_bytes = some cert_info ∧ c.serialise <+: cert_info ∧
    (cbor_text_get m "sig").bind cbor_bytes = some signature ∧
    cbor_text_get m "x5c" = some (.array (.bytes aik_der :: certificates)) ∧ p.certificate_from_der aik_der = .ok aik ∧
    check_aik_cert p aik = .ok () ∧ aik_rsa_ne p aik = .ok (n, e) ∧
    (alg = -257 ∧ sig.verify_rs256 p.toSignatures n e cert_info signature = .ok () ∨
      alg = -65535 ∧ sig.verify_rs1 p.toSignatures n e cert_info signature = .ok ())

variable {p : Conformance} {auth_data client_data : List UInt8} {key : CredKey}

private theorem check_certinfo_eq_ok {alg : Int} {cert_info pub_area : List UInt8} {name_alg : Nat}
    (checked : check_certinfo p alg cert_info pub_area name_alg auth_data client_data = .ok ()) : ∃ c : Certify,
    c.serialise <+: cert_info ∧ c.magic.val = TPM_GENERATED ∧ c.typ.val = TPM_ST_ATTEST_CERTIFY ∧
    hash_cose_alg p alg (auth_data ++ p.digest client_data) = .ok c.extra_data.data ∧
    ∃ hash, hash_tpm_alg p name_alg pub_area = .ok hash ∧ c.attested_name.data = to_be_bytes 2 name_alg ++ hash := by
  simp only [check_certinfo, Checks.bind_eq_ok, Checks.refuse_eq_ok, not_not] at checked
  obtain ⟨info, read, -, magic, -, typ, hashed, extra, -, same, named, hash, name⟩ := checked
  obtain ⟨c, within, rfl⟩ := parse_certinfo_iff.mp read
  rw [← show c.extra_data.data = hashed from same] at extra
  exact ⟨c, within, magic, typ, extra, named, hash, name⟩

private theorem cbor_bytes_eq_some {v : Cbor} {b : List UInt8} : cbor_bytes v = some b ↔ v = .bytes b := by
  cases v <;> simp [cbor_bytes]

private theorem from_be_bytes_eq {a b : List UInt8} (same : trim0 a = trim0 b) : from_be_bytes a = from_be_bytes b := by
  rw [← from_be_bytes_trim0 a, same, from_be_bytes_trim0]

theorem verify_tpm_attests {att_stmt : Cbor} (accepted : verify_tpm p att_stmt auth_data client_data key = .ok ()) :
    ∃ m alg a c, att_stmt = .map m ∧ ((cbor_text_get m "alg").bind cbor_integer).map as_i32 = some alg ∧
      Attests p m auth_data client_data key alg a c := by
  unfold verify_tpm at accepted
  split at accepted
  · rename_i m
    simp only [Checks.bind_eq_ok, Checks.ok_or_eq_ok] at accepted
    obtain ⟨-, -, alg, has_alg, signature, has_signature, cert_info, has_cert_info, pub_area, has_pub_area, accepted⟩ := accepted
    split at accepted
    · rename_i first certificates has_x5c
      simp only [Checks.bind_eq_ok, Checks.ok_or_eq_ok, Checks.refuse_eq_ok, Checks.mapError_eq_ok, not_or, not_not] at accepted
      obtain ⟨aik_der, der, ⟨modulus, exponent, name_alg⟩, area, ⟨n, e⟩, rsa, -, ⟨modulus_eq, exponent_eq⟩, ⟨⟩, checked, aik, read, ⟨⟩,
        aik_ok, ⟨an, ae⟩, aik_key, verified⟩ := accepted
      obtain ⟨a, within, rfl, rfl, rfl⟩ := parse_pubarea_rsa_iff.mp area
      obtain ⟨c, within', magic, typ, extra, name⟩ := check_certinfo_eq_ok checked
      rw [cbor_bytes_eq_some.mp der] at has_x5c
      have signed : alg = -257 ∧ sig.verify_rs256 p.toSignatures an ae cert_info signature = .ok () ∨
          alg = -65535 ∧ sig.verify_rs1 p.toSignatures an ae cert_info signature = .ok () := by
        split at verified
        · exact .inl ⟨‹_›, verified⟩
        · split at verified
          · exact .inr ⟨‹_›, verified⟩
          · cases verified
      refine ⟨m, alg, a, c, rfl, has_alg, ⟨pub_area, has_pub_area, within, name⟩, ⟨n, e, rsa, from_be_bytes_eq modulus_eq, ?_⟩, magic,
        typ, extra, cert_info, signature, aik_der, certificates, aik, an, ae, has_cert_info, within', has_signature, has_x5c, read, aik_ok,
        aik_key, signed⟩
      rw [← PubArea.from_be_bytes_e]
      exact from_be_bytes_eq exponent_eq
    · cases accepted
  · cases accepted

/-- Structures are read exactly, from inside the bytes, and an accepted statement
    binds the passkey. -/
theorem structures_exact (p : Conformance) :
    (∀ n r x r', take n r = .ok (x, r') → r.i + n ≤ r.b.length ∧ x.length = n ∧ r' = { r with i := r.i + n }) ∧
    (∀ pub_area modulus e name_alg, parse_pubarea_rsa pub_area = .ok (modulus, e, name_alg) ↔
      ∃ a : PubArea, a.serialise <+: pub_area ∧ modulus = a.modulus.data ∧ e = a.e ∧ name_alg = a.name_alg) ∧
    (∀ a : PubArea, from_be_bytes a.e = if a.exponent.val = 0 then 65537 else a.exponent.val) ∧
    (∀ cert_info info, parse_certinfo cert_info = .ok info ↔
      ∃ c : Certify, c.serialise <+: cert_info ∧ info = ⟨c.magic, c.typ, c.extra_data.data, c.attested_name.data⟩) ∧
    ∀ att_stmt auth_data client_data key, verify_tpm p att_stmt auth_data client_data key = .ok () →
      ∃ m alg a c, att_stmt = .map m ∧ ((cbor_text_get m "alg").bind cbor_integer).map as_i32 = some alg ∧
        Attests p m auth_data client_data key alg a c :=
  ⟨fun _ _ _ _ taken => take_inside taken, fun _ _ _ _ => parse_pubarea_rsa_iff, PubArea.from_be_bytes_e,
    fun _ _ => parse_certinfo_iff, fun _ _ _ _ accepted => verify_tpm_attests accepted⟩

section reference
open Reference

/-- The statement of the TPM. -/
def statement : List (Cbor × Cbor) :=
  [(.text "ver", .text "2.0"), (.text "alg", .integer (-257)), (.text "x5c", .array [.bytes aikDer]),
    (.text "sig", .bytes aikSignature), (.text "certInfo", .bytes certInfo), (.text "pubArea", .bytes pubArea)]

theorem structures_exact_keychain : ∃ m alg a c, Cbor.map statement = .map m ∧
    ((cbor_text_get m "alg").bind cbor_integer).map as_i32 = some alg ∧
    Attests keychain m authData creation (.Rs256 rsaModulus [1, 0, 1]) alg a c := by
  refine (structures_exact keychain).2.2.2.2 _ _ _ _ ?_
  decide +kernel

end reference
end RustOp.Web.fido.tpm
