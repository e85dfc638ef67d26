import RustOp.Web.AttestationReference

/-!
What a chain of certificates that is accepted has been checked for: in an
attestation the links that are signed with ECDSA, on the way to a root every
link, and nowhere whether a certificate may sign others.
-/
namespace RustOp.Web
open RustOp.Effects RustOp.Web.fido.verify RustOp.Web.fido.mds

variable {p : Conformance} {now : Nat}

/-! ### The chain of an attestation -/

section packed

variable (p) in
/-- The key of the parent, a point of P-256, signed the child. -/
def Signed (child parent : Certificate) : Prop :=
  ∃ tbs signature x y, p.tbs_to_der child.tbs_certificate = .ok tbs ∧ child.signature.as_bytes = some signature ∧
    ec_p256_xy_from_parsed parent = .ok (x, y) ∧ verify_es256_raw p.toSite x y tbs signature = .ok ()

private theorem check_link_eq_ok {child parent : Certificate} :
    check_link p child parent = .ok () ↔ (child.signature_algorithm = OID_ECDSA_SHA256 → Signed p child parent) := by
  unfold check_link
  by_cases ecdsa : child.signature_algorithm = OID_ECDSA_SHA256
  · simp only [ecdsa, ne_eq, not_true_eq_false, if_false, Checks.bind_eq_ok, Checks.mapError_eq_ok, Checks.ok_or_eq_ok,
      forall_const]
    constructor
    · rintro ⟨tbs, encoded, signature, aligned, ⟨x, y⟩, key, verified⟩
      exact ⟨tbs, signature, x, y, encoded, aligned, key, verified⟩
    · rintro ⟨tbs, signature, x, y, encoded, aligned, key, verified⟩
      exact ⟨tbs, encoded, signature, aligned, (x, y), key, verified⟩
  · simp [ecdsa, pure, Except.pure]

/-- A chain is accepted if its certificates pass one by one, and each that names
    ECDSA with SHA-256 is signed by the next. The other links are not looked at. -/
theorem check_cert_chain_verifies_ecdsa_links (p : Conformance) (now : Nat) (ders : List (List UInt8)) :
    check_cert_chain p now ders = .ok () ↔
      ∃ chain, List.Forall₂ (fun der c => p.certificate_from_der der = .ok c) ders chain ∧
        (∀ c ∈ chain, check_cert p now c = .ok ()) ∧
        chain.IsChain fun child parent => child.signature_algorithm = OID_ECDSA_SHA256 → Signed p child parent := by
  have links : ∀ chain : List Certificate, ((chain.zip chain.tail).forM fun link => check_link p link.1 link.2) = .ok () ↔
      chain.IsChain fun child parent => child.signature_algorithm = OID_ECDSA_SHA256 → Signed p child parent := by
    intro chain
    cases chain with
    | nil => simp [pure, Except.pure]
    | cons leaf issuers => simp only [List.tail_cons, Checks.forM_zip_tail_eq_ok, check_link_eq_ok]
  simp only [check_cert_chain, x5c_parse, Checks.bind_eq_ok, Checks.mapM_eq_ok, Checks.mapError_eq_ok, links]
  constructor
  · rintro ⟨chain, read, ⟨⟩, pass, signed⟩
    exact ⟨chain, read, Checks.forM_eq_ok.mp pass, signed⟩
  · rintro ⟨chain, read, pass, signed⟩
    exact ⟨chain, read, ⟨⟩, Checks.forM_eq_ok.mpr pass, signed⟩

open Reference in
/-- Under a certificate that names RSA nothing has to be signed. -/
theorem unsigned_link_accepted :
    check_cert_chain verifier 1800000000 [unsignedDer, attesterDer] = .ok () ∧
    verifier.certificate_from_der unsignedDer = .ok unsignedCertificate ∧
    verifier.certificate_from_der attesterDer = .ok attesterCertificate ∧
    ¬ Signed verifier unsignedCertificate attesterCertificate := by
  refine ⟨by decide +kernel, by decide +kernel, by decide +kernel, ?_⟩
  rintro ⟨tbs, signature, x, y, -, aligned, -, verified⟩
  obtain rfl : [0x5a] = signature := Option.some.inj aligned
  simp only [verify_es256_raw, Checks.bind_eq_ok, Checks.mapError_eq_ok] at verified
  obtain ⟨vk, -, s, read, -⟩ := verified
  have unread : (verifier.from_der [0x5a]).toOption = none := by decide +kernel
  rw [read] at unread
  cases unread

end packed

/-! ### The way to a root -/

section roots

variable (p now) in
/-- Certificates of which each is signed by the next. The last one is a root or
    signed by one. -/
structure TrustPath (check_validity : Bool) (x5c roots : List (List UInt8)) (chain : List Certificate) : Prop where
  read : List.Forall₂ (fun der c => p.certificate_from_der der = .ok c) x5c chain
  current : check_validity = true → ∀ c ∈ chain, cert_valid_now now c = .ok ()
  signed : chain.IsChain fun child parent => signed_by p child parent = .ok ()
  ends : ∃ last, chain.getLast? = some last ∧ ∃ der ∈ roots, ∃ root, p.certificate_from_der der = .ok root ∧
    (check_validity = true → cert_valid_now now root = .ok ()) ∧
    (last.tbs_certificate = root.tbs_certificate ∨ signed_by p last root = .ok ())

private theorem isSome_toOption {ε : Type} {x : Except ε Unit} : x.toOption.isSome = true ↔ x = .ok () := by
  cases x <;> simp [Except.toOption]

theorem anchors_iff {check_validity : Bool} {last root : Certificate} :
    anchors p now check_validity last root = true ↔ (check_validity = true → cert_valid_now now root = .ok ()) ∧
      (last.tbs_certificate = root.tbs_certificate ∨ signed_by p last root = .ok ()) := by
  unfold anchors
  rw [Bool.and_eq_true, Bool.or_eq_true, decide_eq_true_eq, isSome_toOption, Bool.not_eq_true', Bool.and_eq_false_iff,
    ← Option.not_isSome, Bool.not_eq_false', isSome_toOption]
  cases check_validity <;> simp

/-- The key is that of the first certificate. -/
theorem validate_chain_to_roots_eq_ok {x5c roots : List (List UInt8)} {check_validity : Bool} {key : CertPubKey}
    (valid : validate_chain_to_roots p now x5c roots check_validity = .ok key) :
    ∃ leaf issuers, TrustPath p now check_validity x5c roots (leaf :: issuers) ∧ cert_pubkey p leaf = .ok key := by
  cases x5c with
  | nil => cases valid
  | cons first rest =>
    simp only [validate_chain_to_roots, Checks.bind_eq_ok, Checks.mapError_eq_ok, Checks.mapM_eq_ok] at valid
    obtain ⟨leaf, leaf_read, issuers, issuers_read, parsed, roots_read, valid⟩ := valid
    have checks : (check_validity = true → ∀ c ∈ leaf :: issuers, cert_valid_now now c = .ok ()) ∧
        (((leaf :: issuers).zip issuers).forM fun link => signed_by p link.1 link.2) = .ok () ∧
        parsed.any (anchors p now check_validity (issuers.getLastD leaf)) = true ∧ cert_pubkey p leaf = .ok key := by
      cases check_validity with
      | false =>
        simp only [Bool.false_eq_true, if_false, Checks.bind_eq_ok, Checks.refuse_eq_ok] at valid
        obtain ⟨⟨⟩, signed, ⟨⟩, anchored, key_read⟩ := valid
        exact ⟨fun no => (Bool.false_ne_true no).elim, signed, by simpa using anchored, key_read⟩
      | true =>
        simp only [if_true, Checks.bind_eq_ok, Checks.refuse_eq_ok] at valid
        obtain ⟨⟨⟩, current, ⟨⟩, signed, ⟨⟩, anchored, key_read⟩ := valid
        exact ⟨fun _ => Checks.forM_eq_ok.mp current, signed, by simpa using anchored, key_read⟩
    obtain ⟨current, signed, anchored, key_read⟩ := checks
    rw [List.any_eq_true] at anchored
    obtain ⟨root, listed, ends⟩ := anchored
    obtain ⟨der, among, root_read⟩ := Checks.exists_of_mem_mapM roots_read listed
    obtain ⟨root_current, trusted⟩ := anchors_iff.mp ends
    refine ⟨leaf, issuers, ⟨.cons leaf_read issuers_read, current, Checks.forM_zip_tail_eq_ok.mp signed, ?_⟩, key_read⟩
    have last : (leaf :: issuers).getLast? = some (issuers.getLastD leaf) := by
      rw [List.getLast?_cons, List.getLastD_eq_getLast?]
    exact ⟨_, last, der, among, root, root_read, root_current, trusted⟩

/-- A chain that is accepted leads from signature to signature to a root, and where
    it is asked for all of its certificates are valid now. -/
theorem trusted_chain_signed {x5c roots : List (List UInt8)} {check_validity : Bool} {key : CertPubKey}
    (valid : validate_chain_to_roots p now x5c roots check_validity = .ok key) :
    ∃ chain, TrustPath p now check_validity x5c roots chain := by
  obtain ⟨leaf, issuers, path, -⟩ := validate_chain_to_roots_eq_ok valid
  exact ⟨leaf :: issuers, path⟩

variable (p) in
/-- The basic constraints of a certificate say that it is an authority. -/
def IsAuthority (c : Certificate) : Prop :=
  ∃ exts ext, c.tbs_certificate.extensions = some exts ∧ ext ∈ exts ∧ ext.extn_id = OID_BASIC_CONSTRAINTS ∧
    p.basic_constraints_from_der ext.extn_value = .ok true

open Reference in
private theorem owned_chain_valid :
    validate_chain_to_roots verifier 1800000000 [attesterDer, ownerDer] [ownerDer] true = .ok (.EcP256 attesterX attesterY) := by
  decide +kernel

open Reference in
theorem owned_chain_signed : ∃ chain, TrustPath verifier 1800000000 true [attesterDer, ownerDer] [ownerDer] chain :=
  trusted_chain_signed owned_chain_valid

open Reference in
/-- A certificate that is no authority signs another, which even names somebody
    else as its issuer. -/
theorem owned_chain_accepted :
    (validate_chain_to_roots verifier 1800000000 [attesterDer, ownerDer] [ownerDer] true).isOk = true ∧
    verifier.certificate_from_der attesterDer = .ok attesterCertificate ∧
    verifier.certificate_from_der ownerDer = .ok ownerCertificate ∧
    ¬ IsAuthority verifier ownerCertificate ∧
    attesterCertificate.tbs_certificate.issuer ≠ ownerCertificate.tbs_certificate.subject := by
  refine ⟨by rw [owned_chain_valid]; rfl, by decide +kernel, by decide +kernel, ?_, by decide +kernel⟩
  rintro ⟨exts, ext, is, listed, -, authority⟩
  obtain rfl := Option.some.inj is
  have no : ∀ e ∈ [(⟨OID_BASIC_CONSTRAINTS, [0x30, 0x00]⟩ : Extension)],
      verifier.basic_constraints_from_der e.extn_value ≠ .ok true := by decide +kernel
  exact no ext listed authority

end roots
end RustOp.Web
