import RustOp.Web.CertifiedCore
import RustOp.Web.CertificateChains

/-!
What the metadata service has to say of an authenticator before its attestation
is accepted.
-/
namespace RustOp.Web
open RustOp.Effects RustOp.Web.fido RustOp.Web.fido.verify RustOp.Web.fido.store RustOp.Web.fido.mds

section chains
variable (p : Conformance)

/-- Certificates of which each is signed by the next, up to a root of a list. -/
structure Chains (x5c : List (List UInt8)) (roots_b64 : List String) (chain : List Certificate) (root : Certificate) : Prop where
  read : List.Forall₂ (fun der c => p.certificate_from_der der = .ok c) x5c chain
  signed : chain.IsChain fun child parent => signed_by p child parent = .ok ()
  trusted : ∃ s ∈ roots_b64, ∃ der, p.decode_standard s = .ok der ∧ p.certificate_from_der der = .ok root
  ends : ∃ last, chain.getLast? = some last ∧ (last.tbs_certificate = root.tbs_certificate ∨ signed_by p last root = .ok ())

variable {p}

theorem validate_attestation_chain_sound {now : Nat} {x5c : List (List UInt8)} {roots_b64 : List String}
    (valid : validate_attestation_chain p now x5c roots_b64 = .ok ()) : ∃ chain root, Chains p x5c roots_b64 chain root := by
  simp only [validate_attestation_chain, Checks.bind_eq_ok, Checks.pure_eq_ok] at valid
  obtain ⟨⟨⟩, -, key, valid, -⟩ := valid
  obtain ⟨leaf, issuers, path, -⟩ := validate_chain_to_roots_eq_ok valid
  obtain ⟨last, is_last, der, decoded, root, root_read, -, trusted⟩ := path.ends
  obtain ⟨s, named, is⟩ := List.mem_filterMap.mp decoded
  exact ⟨leaf :: issuers, root, path.read, path.signed, ⟨s, named, der, Checks.toOption_eq_some.mp is, root_read⟩, last, is_last,
    trusted⟩

/-! ### What the metadata vouch for -/

variable (p) in
/-- An authenticator is registered without a compromising report, and its
    certificates lead to a root of its metadata. -/
def Vetted (cache : MdsCache) (c : Contents) : Prop :=
  ∃ entry, cache.entries.get (p.to_lowercase (aaguid_to_string c.aaguid)) = some entry ∧
    (∀ r ∈ entry.status_reports, r.status ∉ COMPROMISED) ∧
    ∃ stmt, entry.metadata_statement = some stmt ∧
      ∃ chain root, Chains p (att_x5c_ders c.ao.att_stmt) stmt.attestation_root_certificates chain root

/-- A statement comes with a list of certificates that is not empty. -/
def carries_x5c : Cbor → Bool
  | .map m =>
    match cbor_text_get m "x5c" with
    | some (.array (_ :: _)) => true
    | _ => false
  | _ => false

theorem carries_x5c_iff {att_stmt : Cbor} :
    carries_x5c att_stmt = true ↔
      ∃ m first rest, att_stmt = .map m ∧ cbor_text_get m "x5c" = some (.array (first :: rest)) := by
  constructor
  · intro carries
    unfold carries_x5c at carries
    split at carries
    · rename_i m
      split at carries
      · rename_i first rest x5c
        exact ⟨m, first, rest, rfl, x5c⟩
      · cases carries
    · cases carries
  · rintro ⟨m, first, rest, rfl, x5c⟩
    simp only [carries_x5c, x5c]

/-- A packed statement, or one of a TPM, that comes with certificates. -/
structure Contents.Full (c : Contents) : Prop where
  fmt : c.ao.fmt = "packed" ∨ c.ao.fmt = "tpm"
  certified : carries_x5c c.ao.att_stmt = true

theorem get_statement_eq_ok {cache : MdsCache} {aaguid : String} {stmt : MetadataStatement}
    (found : cache.get_statement p.toFido aaguid = .ok (some stmt)) :
    ∃ entry, cache.entries.get (p.to_lowercase aaguid) = some entry ∧ (∀ r ∈ entry.status_reports, r.status ∉ COMPROMISED) ∧
      entry.metadata_statement = some stmt := by
  unfold MdsCache.get_statement at found
  split at found
  · rename_i entry registered
    split at found
    · cases found
    · rename_i clean
      refine ⟨entry, registered, fun r listed compromised => ?_, Checks.pure_eq_ok.mp found⟩
      simpa [compromised] using List.find?_eq_none.mp clean r listed
  · cases found

theorem check_metadata_vetted {now : Nat} {mds : MdsState} {c : Contents} (enabled : mds.enabled = true)
    (certified : att_x5c_ders c.ao.att_stmt ≠ []) (nonzero : ∃ b ∈ c.aaguid, b ≠ 0)
    (passes : check_metadata p now mds c.ao.att_stmt c.aaguid = .ok ()) : Vetted p mds.cache c := by
  have looked_up : ¬ ((att_x5c_ders c.ao.att_stmt).isEmpty || c.aaguid.all (· = 0)) = true := by
    simpa [certified] using nonzero
  simp only [check_metadata, enabled, Bool.not_true, Bool.false_eq_true, if_false] at passes
  rw [if_neg looked_up, Checks.bind_eq_ok] at passes
  obtain ⟨found, statement, valid⟩ := passes
  cases found with
  | none => cases valid
  | some stmt =>
    obtain ⟨entry, registered, clean, is⟩ := get_statement_eq_ok statement
    exact ⟨entry, registered, clean, stmt, is, validate_attestation_chain_sound valid⟩

/-- An identifier of zeros is not looked up. -/
theorem check_metadata_zero {now : Nat} {mds : MdsState} {c : Contents} (zero : ∀ b ∈ c.aaguid, b = 0) :
    check_metadata p now mds c.ao.att_stmt c.aaguid = .ok () := by
  have zeros : c.aaguid.all (· = 0) = true := by simpa using zero
  unfold check_metadata
  by_cases off : (!mds.enabled) = true
  · rw [if_pos off]
    rfl
  · rw [if_neg off]
    simp only [zeros, Bool.or_true, if_true]
    rfl

/-- What accepts such a statement has looked at its first certificate. -/
theorem certified_of_accepted {now : Nat} {c : Contents} (full : c.Full)
    (accepted : check_statement p now c.ao c.ad c.client_data c.aaguid c.cred_id c.key = .ok ()) :
    att_x5c_ders c.ao.att_stmt ≠ [] := by
  obtain ⟨m, first, rest, is, x5c⟩ := carries_x5c_iff.mp full.certified
  have read : ∃ der, cbor_bytes first = some der := by
    unfold check_statement at accepted
    rcases full.fmt with fmt | fmt
    · rw [if_neg (by rw [fmt]; decide), if_pos fmt] at accepted
      unfold verify_packed at accepted
      rw [is] at accepted
      simp only [x5c, Checks.bind_eq_ok, Checks.ok_or_eq_ok, List.mapM_cons, Option.bind_eq_bind, Option.bind_eq_some_iff] at accepted
      obtain ⟨-, -, -, -, -, -, -, ⟨der, read, -⟩, -⟩ := accepted
      exact ⟨der, read⟩
    · rw [if_neg (by rw [fmt]; decide), if_neg (by rw [fmt]; decide), if_neg (by rw [fmt]; decide), if_pos fmt] at accepted
      unfold tpm.verify_tpm at accepted
      rw [is] at accepted
      simp only [x5c, Checks.bind_eq_ok, Checks.ok_or_eq_ok] at accepted
      obtain ⟨-, -, -, -, -, -, -, -, -, -, der, read, -⟩ := accepted
      exact ⟨der, read⟩
  obtain ⟨der, read⟩ := read
  simp [att_x5c_ders, is, x5c, read]

/-! ### Results of attestations -/

variable {σ : Type}

/-- A result is accepted if its challenge is known and the checks accept it. -/
theorem attestation_result_accepted {st : FidoState} {h : Prog.Handler FidoStore σ} {body : String} {s : σ} :
    (Prog.run h (attestation_result p st body) s).1 = ok_with [] ↔
      ∃ m, attested p body = .ok m ∧ ∃ state, (h (.get_challenge m.challenge) s).1 = some state ∧
        ∃ cred, verify_attestation p (h .now (h (.get_challenge m.challenge) s).2).1 st m.client_data_json m.attestation_object
          m.challenge (state.user_verification = some "required") = .ok cred := by
  have refused : ∀ msg, failed msg ≠ ok_with [] := fun msg same => by simp [failed, ok_with] at same
  unfold attestation_result
  cases read : attested p body with
  | error e => simp [Prog.run_ret, refused]
  | ok m =>
    simp only [ask, Prog.call_bind, Prog.ret_bind, Prog.run_call]
    cases known : (h (.get_challenge m.challenge) s).1 with
    | none => simp [Prog.run_ret, refused, known]
    | some state =>
      simp only [Prog.run_call]
      cases checked : verify_attestation p (h .now (h (.get_challenge m.challenge) s).2).1 st m.client_data_json
          m.attestation_object m.challenge (state.user_verification = some "required") with
      | error e => simp [Prog.run_ret, refused, known, checked]
      | ok cred => simp [Prog.run_call, Prog.run_ret, known, checked]

/-- The parts of what a request submits. -/
def Contents.Submitted (p : Conformance) (st : FidoState) (body : String) (c : Contents) : Prop :=
  ∃ m, attested p body = .ok m ∧ c.Read p.toSite m.client_data_json m.attestation_object m.challenge st.origin st.rp_id

/-- Whatever the metadata service has loaded, a statement with certificates is
    accepted only if the metadata vouch for it: that holds exactly of requests that
    submit an identifier other than zero, or are refused without metadata too. -/
theorem full_attestation_vetted_iff (p : Conformance) (st : FidoState) (h : Prog.Handler FidoStore σ) (s : σ) (body : String) :
    (∀ mds : MdsState, mds.enabled = true → (Prog.run h (attestation_result p { st with mds } body) s).1 = ok_with [] →
      ∀ c : Contents, c.Submitted p st body → c.Full → Vetted p mds.cache c) ↔
    ((Prog.run h (attestation_result p st.without_mds body) s).1 = ok_with [] →
      ∀ c : Contents, c.Submitted p st body → c.Full → ∃ b ∈ c.aaguid, b ≠ 0) := by
  constructor
  · intro vetted accepted c submitted full
    by_contra zero
    push Not at zero
    obtain ⟨m, read, state, known, cred, checked⟩ := attestation_result_accepted.mp accepted
    obtain ⟨d, parts, verified, whole, statement, -, is⟩ := verify_attestation_eq_ok.mp checked
    obtain ⟨m', read', parts'⟩ := submitted
    obtain rfl : m = m' := Except.ok.inj (read.symm.trans read')
    obtain rfl : c = d := parts'.unique parts
    -- nothing is registered, and still the statement is accepted
    have accepted' : (Prog.run h (attestation_result p { st with mds := { enabled := true } } body) s).1 = ok_with [] :=
      attestation_result_accepted.mpr ⟨m, read, state, known, cred, verify_attestation_eq_ok.mpr
        ⟨c, parts, verified, whole, statement, check_metadata_zero zero, is⟩⟩
    obtain ⟨entry, registered, -⟩ := vetted { enabled := true } rfl accepted' c ⟨m, read, parts'⟩ full
    cases registered
  · intro nonzero mds enabled accepted c submitted full
    obtain ⟨m, read, state, known, cred, checked⟩ := attestation_result_accepted.mp accepted
    obtain ⟨d, parts, verified, whole, statement, vouched, is⟩ := verify_attestation_eq_ok.mp checked
    have accepted' : (Prog.run h (attestation_result p st.without_mds body) s).1 = ok_with [] :=
      attestation_result_accepted.mpr ⟨m, read, state, known, cred, verify_attestation_eq_ok.mpr
        ⟨d, parts, verified, whole, statement, rfl, is⟩⟩
    obtain ⟨m', read', parts'⟩ := submitted
    obtain rfl : m = m' := Except.ok.inj (read.symm.trans read')
    obtain rfl : c = d := parts'.unique parts
    exact check_metadata_vetted enabled (certified_of_accepted full statement)
      (nonzero accepted' c ⟨m, read, parts'⟩ full) vouched

end chains

/-! ### An identifier of zeros -/

open Reference in
/-- A packed statement with a certificate that nobody knows is accepted, although
    the metadata service is on and has no entry at all. -/
theorem full_attestation_unvetted :
    (Prog.run MemFidoStore.exec (attestation_result certifier vetting (created (base64 creation) (base64 packedAttestation)))
      begun).1 = ok_with [] ∧
    ∃ c : Contents, c.Submitted certifier vetting (created (base64 creation) (base64 packedAttestation)) ∧ c.Full ∧
      ¬ Vetted certifier vetting.mds.cache c := by
  have known : (MemFidoStore.exec (.get_challenge "c") begun).1 = some ⟨"alice", none, 1800000000⟩ := by decide +kernel
  refine ⟨attestation_result_accepted.mpr ⟨_, packed_attested, _, known, _, packed_verified⟩, ?_⟩
  obtain ⟨c, read, -⟩ := verify_attestation_eq_ok.mp packed_verified
  have full : ((parse_attestation_object certifier.toSite packedAttestation).toOption.all fun ao =>
      ao.fmt = "packed" && carries_x5c ao.att_stmt) = true := by decide +kernel
  obtain ⟨att, decoded, parsed⟩ := read.object
  obtain rfl : packedAttestation = att := Except.ok.inj ((base64_decoded _).symm.trans decoded)
  rw [parsed] at full
  simp only [Except.toOption, Option.all_some, Bool.and_eq_true, decide_eq_true_eq] at full
  refine ⟨c, ⟨_, packed_attested, read⟩, ⟨.inl full.1, full.2⟩, ?_⟩
  · rintro ⟨entry, registered, -⟩
    cases registered

end RustOp.Web
