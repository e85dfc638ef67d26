import RustOp.Web.Conformance
import RustOp.Web.AttestationReference

/-!
The two ways to check a new passkey: the one of registrations, and the one of
the conformance endpoints. Both decode a response in the same way and look at
the same parts of it, but only the second looks at what the authenticator
attests and at bytes that are left over.
-/
namespace RustOp.Web
open RustOp.Effects RustOp.Web.fido RustOp.Web.fido.verify RustOp.Web.fido.store

/-! ### What a response holds -/

/-- The parts of a response, once it is decoded. -/
structure Contents where
  client_data : List UInt8
  ao : AttestationObject
  ad : AuthData
  last : Nat
  key : CredKey
  consumed : Nat

namespace Contents

def aaguid (c : Contents) : List UInt8 := c.ad.rest.take 16
def cred_id (c : Contents) : List UInt8 := (c.ad.rest.take c.last).drop 18
def cose (c : Contents) : List UInt8 := c.ad.rest.drop c.last

/-- A response decodes to these parts, for this challenge, origin and relying
    party, and passes the checks that both ways make. -/
structure Read (p : Site) (client_data_json attestation_object challenge origin rp_id : String) (c : Contents) : Prop where
  client : check_client_data p client_data_json "webauthn.create" challenge origin = .ok c.client_data
  object : ∃ att, es256.b64url_decode p.toJose attestation_object = .ok att ∧ parse_attestation_object p att = .ok c.ao
  data : parse_auth_data c.ao.auth_data = .ok c.ad
  party : c.ad.rp_id_hash = p.sha256 rp_id
  present : c.ad.flags &&& FLAG_UP ≠ 0
  attests : c.ad.flags &&& FLAG_AT ≠ 0
  inside : attested_cred_id_end c.ad.rest = some c.last
  key_read : parse_cose_key p c.cose = .ok (c.key, c.consumed)

theorem Read.unique {p : Site} {client_data_json attestation_object challenge origin rp_id : String} {c d : Contents}
    (one : c.Read p client_data_json attestation_object challenge origin rp_id)
    (other : d.Read p client_data_json attestation_object challenge origin rp_id) : c = d := by
  obtain ⟨client_data, ao, ad, last, key, consumed⟩ := c
  obtain ⟨client_data', ao', ad', last', key', consumed'⟩ := d
  obtain ⟨att, decoded, parsed⟩ := one.object
  obtain ⟨att', decoded', parsed'⟩ := other.object
  obtain rfl : client_data = client_data' := Except.ok.inj (one.client.symm.trans other.client)
  obtain rfl : att = att' := Except.ok.inj (decoded.symm.trans decoded')
  obtain rfl : ao = ao' := Except.ok.inj (parsed.symm.trans parsed')
  obtain rfl : ad = ad' := Except.ok.inj (one.data.symm.trans other.data)
  obtain rfl : last = last' := Option.some.inj (one.inside.symm.trans other.inside)
  obtain ⟨rfl, rfl⟩ := Prod.mk.inj (Except.ok.inj (one.key_read.symm.trans other.key_read))
  rfl

end Contents

/-- The end of a credential identifier, as it is found where the checks of the
    length are written out. -/
theorem attested_cred_id_end_eq_some {rest : List UInt8} {last : Nat} :
    attested_cred_id_end rest = some last ↔
      ¬ rest.length < 18 ∧ ¬ rest.length < 18 + from_be_bytes ((rest.drop 16).take 2) ∧
        last = 18 + from_be_bytes ((rest.drop 16).take 2) := by
  unfold attested_cred_id_end
  by_cases short : rest.length < 18
  · simp [short]
  · by_cases inside : rest.length < 18 + from_be_bytes ((rest.drop 16).take 2)
    · simp [short, inside]
    · simp [short, inside, eq_comm]

private theorem cred_id_eq {rest : List UInt8} {n : Nat} : (rest.take (18 + n)).drop 18 = (rest.drop 18).take n := by
  rw [List.drop_take, Nat.add_sub_cancel_left]

section paths
variable {p : Conformance} {challenge : String}

/-- What a registration accepts. -/
theorem verify_registration_eq_ok {p : Site} {req : webauthn.RegResponse} {origin rp_id : String} {outcome : webauthn.RegOutcome} :
    webauthn.verify_registration p req challenge origin rp_id = .ok outcome ↔
      ∃ c : Contents, c.Read p req.client_data_json req.attestation_object challenge origin rp_id ∧
        ∃ x y, c.key = .Es256 x y ∧ outcome = ⟨p.b64url c.cred_id, p.b64url x, p.b64url y, c.ad.sign_count⟩ := by
  unfold webauthn.verify_registration
  simp only [Checks.bind_eq_ok, Checks.refuse_eq_ok, Checks.ok_or_eq_ok, check_rp_id_hash, exists_const, not_not, ne_eq]
  constructor
  · rintro ⟨client_data, client, att, decoded, ao, parsed, ad, data, party, present, attests, last, inside, ⟨key, consumed⟩, key_read,
      named⟩
    cases key with
    | Es256 x y => exact ⟨⟨client_data, ao, ad, last, .Es256 x y, consumed⟩,
        ⟨client, ⟨att, decoded, parsed⟩, data, party, present, attests, inside, key_read⟩, x, y, rfl, (Checks.pure_eq_ok.mp named).symm⟩
    | Rs256 n e => cases named
    | Rs1 n e => cases named
    | Ed25519 pk => cases named
  · rintro ⟨⟨client_data, ao, ad, last, key, consumed⟩, read, x, y, is, rfl⟩
    obtain ⟨att, decoded, parsed⟩ := read.object
    refine ⟨client_data, read.client, att, decoded, ao, parsed, ad, read.data, read.party, read.present, read.attests, last, read.inside,
      ⟨key, consumed⟩, read.key_read, ?_⟩
    dsimp only at is
    subst is
    rfl

/-- What the conformance endpoints accept. -/
theorem verify_attestation_eq_ok {now : Nat} {st : FidoState} {client_data_json attestation_object : String} {require_uv : Bool}
    {cred : StoredCredential} :
    verify_attestation p now st client_data_json attestation_object challenge require_uv = .ok cred ↔
      ∃ c : Contents, c.Read p.toSite client_data_json attestation_object challenge st.origin st.rp_id ∧
        (require_uv = true → c.ad.flags &&& FLAG_UV ≠ 0) ∧
        (c.ad.flags &&& FLAG_ED = 0 → c.consumed = c.cose.length) ∧
        check_statement p now c.ao c.ad c.client_data c.aaguid c.cred_id c.key = .ok () ∧
        check_metadata p now st.mds c.ao.att_stmt c.aaguid = .ok () ∧
        cred = ⟨p.b64url c.cred_id, c.key, .ofNat c.ad.sign_count⟩ := by
  unfold verify_attestation
  simp only [Checks.bind_eq_ok, Checks.refuse_eq_ok, Checks.pure_eq_ok, check_rp_id_hash, check_flags, exists_const, not_not, ne_eq]
  constructor
  · rintro ⟨client_data, client, att, decoded, ao, parsed, ad, data, party, ⟨present, verified⟩, attests, long, inside, ⟨key, consumed⟩,
      key_read, whole, ⟨⟩, statement, ⟨⟩, vouched, rfl⟩
    rw [← cred_id_eq] at statement
    refine ⟨⟨client_data, ao, ad, _, key, consumed⟩, ⟨client, ⟨att, decoded, parsed⟩, data, party, present, attests,
      attested_cred_id_end_eq_some.mpr ⟨long, inside, rfl⟩, key_read⟩, ?_, ?_, statement, vouched, ?_⟩
    · exact fun required unverified => verified ⟨required, unverified⟩
    · exact fun plain => by_contra fun left => whole ⟨plain, left⟩
    · rw [Contents.cred_id, cred_id_eq]
  · rintro ⟨⟨client_data, ao, ad, last, key, consumed⟩, read, verified, whole, statement, vouched, rfl⟩
    obtain ⟨att, decoded, parsed⟩ := read.object
    obtain ⟨long, inside, is⟩ := attested_cred_id_end_eq_some.mp read.inside
    dsimp only at is
    subst is
    rw [Contents.cred_id, cred_id_eq] at statement
    refine ⟨client_data, read.client, att, decoded, ao, parsed, ad, read.data, read.party,
      ⟨read.present, fun unverified => verified unverified.1 unverified.2⟩, read.attests, long, inside, ⟨key, consumed⟩, read.key_read,
      fun left => left.2 (whole left.1), (), statement, (), vouched, ?_⟩
    rw [Contents.cred_id, cred_id_eq]

/-! ### Registrations and the conformance endpoints -/

/-- The statement of an authenticator fits its format, for a key on P-256. -/
inductive Contents.Fits (p : Conformance) (now : Nat) (c : Contents) (x y : List UInt8) : Prop where
  | none (fmt : c.ao.fmt = "none") (empty : require_empty_att_stmt c.ao.att_stmt = .ok ())
  | packed (fmt : c.ao.fmt = "packed")
      (signed : verify_packed p now c.ao.att_stmt c.ao.auth_data c.client_data (.Es256 x y) c.aaguid = .ok ())
  | u2f (fmt : c.ao.fmt = "fido-u2f") (zero : ∀ b ∈ c.aaguid, b = 0)
      (signed : verify_u2f p c.ao.att_stmt c.ad.rp_id_hash c.client_data c.cred_id x y = .ok ())

/-- The statement of a TPM is about a key of RSA. -/
theorem verify_tpm_rsa {att_stmt : Cbor} {auth_data client_data : List UInt8} {key : CredKey}
    (accepted : tpm.verify_tpm p att_stmt auth_data client_data key = .ok ()) : ∃ n e, key.rsa_ne = some (n, e) := by
  unfold tpm.verify_tpm at accepted
  split at accepted
  · simp only [Checks.bind_eq_ok, Checks.ok_or_eq_ok] at accepted
    obtain ⟨-, -, alg, -, signature, -, cert_info, -, pub_area, -, accepted⟩ := accepted
    split at accepted
    · simp only [Checks.bind_eq_ok, Checks.ok_or_eq_ok] at accepted
      obtain ⟨aik_der, -, area, -, ⟨n, e⟩, rsa, -⟩ := accepted
      exact ⟨n, e, rsa⟩
    · cases accepted
  · cases accepted

theorem check_statement_eq_ok {now : Nat} {c : Contents} {x y : List UInt8} :
    check_statement p now c.ao c.ad c.client_data c.aaguid c.cred_id (.Es256 x y) = .ok () ↔ c.Fits p now x y := by
  unfold check_statement
  constructor
  · intro accepted
    by_cases none : c.ao.fmt = "none"
    · rw [if_pos none] at accepted
      exact .none none accepted
    · rw [if_neg none] at accepted
      by_cases packed : c.ao.fmt = "packed"
      · rw [if_pos packed] at accepted
        exact .packed packed accepted
      · rw [if_neg packed] at accepted
        by_cases u2f : c.ao.fmt = "fido-u2f"
        · rw [if_pos u2f] at accepted
          simp only [Checks.bind_eq_ok, Checks.refuse_eq_ok, exists_const, CredKey.ec_xy, ok_or, Except.ok.injEq,
            exists_eq_left', List.any_eq_true, not_exists, not_and, decide_eq_true_eq, not_not] at accepted
          exact .u2f u2f accepted.1 accepted.2
        · rw [if_neg u2f] at accepted
          by_cases tpm : c.ao.fmt = "tpm"
          · rw [if_pos tpm] at accepted
            obtain ⟨n, e, rsa⟩ := verify_tpm_rsa accepted
            cases rsa
          · rw [if_neg tpm] at accepted
            cases accepted
  · rintro (⟨fmt, empty⟩ | ⟨fmt, signed⟩ | ⟨fmt, zero, signed⟩)
    · rw [if_pos fmt]
      exact empty
    · rw [if_neg (by rw [fmt]; decide), if_pos fmt]
      exact signed
    · rw [if_neg (by rw [fmt]; decide), if_neg (by rw [fmt]; decide), if_pos fmt]
      have zeros : ¬ c.aaguid.any (· ≠ 0) = true := by simpa using zero
      simp only [Checks.bind_eq_ok, Checks.refuse_eq_ok, exists_const, CredKey.ec_xy, ok_or, Except.ok.injEq, exists_eq_left']
      exact ⟨zeros, signed⟩

/-- Bytes may only follow the key if they are announced as extensions. -/
def Contents.Whole (c : Contents) : Prop := c.ad.flags &&& FLAG_ED = 0 → c.consumed = c.cose.length

/-- The two ways found the same passkey. -/
structure SamePasskey (p : Platform) (cred : StoredCredential) (outcome : webauthn.RegOutcome) : Prop where
  id : cred.id = outcome.credential_id
  key : ∃ x y, cred.key = .Es256 x y ∧ outcome.pub_x = p.b64url x ∧ outcome.pub_y = p.b64url y
  counter : cred.sign_count.toNat = outcome.sign_count

/-- The same configuration with the metadata service off. -/
def fido.FidoState.without_mds (st : FidoState) : FidoState := { st with mds := { st.mds with enabled := false } }

/-- A passkey that a registration accepts is accepted by the conformance
    endpoints, and is the same there, exactly if its statement fits its format and
    no bytes are left over. -/
theorem registration_certified_iff (p : Conformance) (now : Nat) (st : FidoState) (req : webauthn.RegResponse) (challenge : String) :
    (∀ outcome, webauthn.verify_registration p.toSite req challenge st.origin st.rp_id = .ok outcome →
      ∃ cred, verify_attestation p now st.without_mds req.client_data_json req.attestation_object challenge false = .ok cred ∧
        SamePasskey p.toPlatform cred outcome) ↔
    ∀ (c : Contents) (x y : List UInt8),
      c.Read p.toSite req.client_data_json req.attestation_object challenge st.origin st.rp_id → c.key = .Es256 x y →
        c.Whole ∧ c.Fits p now x y := by
  constructor
  · intro certified c x y read key
    obtain ⟨cred, accepted, -⟩ := certified _ (verify_registration_eq_ok.mpr ⟨c, read, x, y, key, rfl⟩)
    obtain ⟨d, read', -, whole, statement, -, -⟩ := verify_attestation_eq_ok.mp accepted
    obtain rfl : c = d := read.unique read'
    rw [key] at statement
    exact ⟨whole, check_statement_eq_ok.mp statement⟩
  · intro fits outcome accepted
    obtain ⟨c, read, x, y, key, rfl⟩ := verify_registration_eq_ok.mp accepted
    obtain ⟨whole, statement⟩ := fits c x y read key
    have certified := check_statement_eq_ok.mpr statement
    rw [← key] at certified
    have vouched : check_metadata p now st.without_mds.mds c.ao.att_stmt c.aaguid = .ok () := rfl
    refine ⟨_, verify_attestation_eq_ok.mpr ⟨c, read, fun required => ?_, whole, certified, vouched, rfl⟩, ?_⟩
    · cases required
    · exact ⟨rfl, ⟨x, y, key, rfl, rfl⟩, UInt32.toNat_ofNat_of_lt' (parse_auth_data_counter read.data)⟩

end paths

open Reference in
/-- A byte after the key that no flag announces is accepted by a registration only. -/
theorem registration_uncertified :
    webauthn.verify_registration certifier.toSite ⟨base64 creation, base64 trailingAttestation⟩ "c" vetting.origin vetting.rp_id =
      .ok passkey ∧
    verify_attestation certifier 1800000000 vetting.without_mds (base64 creation) (base64 trailingAttestation) "c" false =
      .error "authData has leftover bytes after attested credential data" := by
  have decoded : es256.b64url_decode certifier.toJose (base64 trailingAttestation) = .ok trailingAttestation := base64_decoded _
  have origin : vetting.origin = "https://op" := rfl
  have origin' : vetting.without_mds.origin = "https://op" := rfl
  constructor
  · simp only [webauthn.verify_registration, origin, creation_checked, decoded, ok_bind]
    decide +kernel
  · simp only [verify_attestation, origin', creation_checked, decoded, ok_bind]
    decide +kernel

end RustOp.Web
