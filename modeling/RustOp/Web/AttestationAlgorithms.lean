import RustOp.Web.TpmBinding

/-!
Which algorithms an accepted attestation names. The number of the algorithm is
cut to 32 bits before it is compared.
-/
namespace RustOp.Web
open RustOp.Effects RustOp.Web.fido.verify
open fido.tpm (verify_tpm verify_tpm_attests)

/-- A statement that is accepted names the algorithm it is accepted under. -/
structure NamesAlgorithm (p : Conformance) (now : Nat) (m : List (Cbor × Cbor)) (auth_data client_data : List UInt8)
    (key : CredKey) (aaguid : List UInt8) (alg : Int) : Prop where
  packed : verify_packed p now (.map m) auth_data client_data key aaguid = .ok () →
    alg = if (cbor_text_get m "x5c").isSome then -7 else key.cose_alg
  tpm : verify_tpm p (.map m) auth_data client_data key = .ok () → alg = -257 ∨ alg = -65535
  fits : verify_packed p now (.map m) auth_data client_data key aaguid = .ok () ∨
    verify_tpm p (.map m) auth_data client_data key = .ok () → -2 ^ 31 ≤ alg ∧ alg < 2 ^ 31

/-- The algorithms of passkeys: ES256, RS256, RS1 and EdDSA. -/
def algorithms : List Int := [-7, -257, -65535, -8]

variable {p : Conformance} {now : Nat} {m : List (Cbor × Cbor)} {auth_data client_data aaguid : List UInt8} {key : CredKey}
  {alg : Int}

theorem cose_alg_mem (key : CredKey) : key.cose_alg ∈ algorithms := by
  cases key <;> simp [CredKey.cose_alg, algorithms]

/-- What a packed statement is accepted under, cut to 32 bits. -/
theorem packed_algorithm (named : cbor_text_get m "alg" = some (.integer alg))
    (accepted : verify_packed p now (.map m) auth_data client_data key aaguid = .ok ()) :
    as_i32 alg = if (cbor_text_get m "x5c").isSome then -7 else key.cose_alg := by
  unfold verify_packed at accepted
  simp only [named, Option.bind_some, cbor_integer, Option.map_some, Checks.bind_eq_ok, Checks.ok_or_eq_ok] at accepted
  obtain ⟨a, same, sig, -, accepted⟩ := accepted
  obtain rfl := Option.some.inj same
  split at accepted
  · rename_i first rest certificates
    obtain ⟨⟨⟩, fits, -⟩ := Checks.bind_eq_ok.mp accepted
    rw [certificates, Option.isSome_some, if_pos rfl]
    exact not_not.mp (Checks.refuse_eq_ok.mp fits)
  · cases accepted
  · rename_i none
    obtain ⟨⟨⟩, fits, -⟩ := Checks.bind_eq_ok.mp accepted
    rw [none, if_neg (by simp)]
    exact not_not.mp (Checks.refuse_eq_ok.mp fits)

theorem tpm_algorithm (named : cbor_text_get m "alg" = some (.integer alg))
    (accepted : verify_tpm p (.map m) auth_data client_data key = .ok ()) : as_i32 alg = -257 ∨ as_i32 alg = -65535 := by
  obtain ⟨m', cut, a, c, same, cut_eq, attests⟩ := verify_tpm_attests accepted
  cases same
  simp only [named, Option.bind_some, cbor_integer, Option.map_some, Option.some.injEq] at cut_eq
  obtain ⟨_, _, _, _, _, _, _, -, -, -, -, -, -, -, signed⟩ := attests.signed
  rw [cut_eq]
  exact signed.imp And.left And.left

/-! ### Numbers of 32 bits -/

theorem as_i32_of_fits (fits : -2 ^ 31 ≤ alg ∧ alg < 2 ^ 31) : as_i32 alg = alg := by
  unfold as_i32
  rw [Int.bmod_def]
  split <;> omega

theorem as_i32_eq_iff {a : Int} (fits : -2 ^ 31 ≤ a ∧ a < 2 ^ 31) : as_i32 alg = a ↔ 2 ^ 32 ∣ alg - a := by
  unfold as_i32
  rw [Int.bmod_def]
  split <;> omega

theorem algorithms_fit : ∀ a ∈ algorithms, -2 ^ 31 ≤ a ∧ a < 2 ^ 31 := by decide

/-- A key signs for itself under any number that is cut to its algorithm. -/
theorem packed_self {signature : List UInt8} (cut : as_i32 alg = key.cose_alg)
    (signed : verify_assertion p.toSite key auth_data client_data signature = .ok ()) :
    verify_packed p now (.map [(.text "alg", .integer alg), (.text "sig", .bytes signature)]) auth_data client_data key aaguid =
      .ok () := by
  have alg_found : cbor_text_get [(.text "alg", .integer alg), (.text "sig", .bytes signature)] "alg" = some (.integer alg) := rfl
  have sig_found : cbor_text_get [(.text "alg", .integer alg), (.text "sig", .bytes signature)] "sig" = some (.bytes signature) := rfl
  have x5c_found : cbor_text_get [(.text "alg", .integer alg), (.text "sig", .bytes signature)] "x5c" = none := rfl
  simp only [verify_packed, alg_found, sig_found, x5c_found, Option.bind_some, cbor_integer, cbor_bytes, Option.map_some,
    Checks.bind_eq_ok, Checks.ok_or_eq_ok, Checks.refuse_eq_ok, not_not]
  exact ⟨_, rfl, _, rfl, (), cut, signed⟩

section reference
open Reference

/-- Keys of each algorithm, with what they signed. -/
def signed : List (CredKey × List UInt8) :=
  [(.Es256 attesterX attesterY, attesterSignature), (.Rs256 rsaModulus [1, 0, 1], rs256Signature),
    (.Rs1 rsaModulus [1, 0, 1], rs1Signature), (.Ed25519 edKey, edSignature)]

theorem signed_verified : ∀ s ∈ signed, verify_assertion keychain.toSite s.1 authData creation s.2 = .ok () := by
  decide +kernel

/-- Statements with this number are accepted only under it, exactly if it has 32
    bits or is cut to none of the algorithms. -/
theorem names_algorithm_iff (alg : Int) :
    (∀ p now m auth_data client_data key aaguid, cbor_text_get m "alg" = some (.integer alg) →
      NamesAlgorithm p now m auth_data client_data key aaguid alg) ↔
    (-2 ^ 31 ≤ alg ∧ alg < 2 ^ 31) ∨ ∀ a ∈ algorithms, ¬ 2 ^ 32 ∣ alg - a := by
  constructor
  · intro names
    by_contra! wide
    obtain ⟨wide, a, listed, divides⟩ := wide
    obtain ⟨⟨key, signature⟩, own, rfl⟩ : ∃ s ∈ signed, s.1.cose_alg = a := by
      have keys : ∀ a ∈ algorithms, ∃ s ∈ signed, s.1.cose_alg = a := by decide +kernel
      exact keys a listed
    have accepted : verify_packed keychain 0 (.map [(.text "alg", .integer alg), (.text "sig", .bytes signature)]) authData creation
        key [] = .ok () :=
      packed_self ((as_i32_eq_iff (algorithms_fit _ listed)).mpr divides) (signed_verified _ own)
    have fits := (names keychain 0 _ authData creation key [] rfl).fits (.inl accepted)
    exact absurd fits.2 (not_lt.mpr (wide fits.1))
  · intro condition p now m auth_data client_data key aaguid named
    have exactly : ∀ a ∈ algorithms, as_i32 alg = a → alg = a := by
      intro a listed cut
      rcases condition with fits | other
      · rw [← cut, as_i32_of_fits fits]
      · exact absurd ((as_i32_eq_iff (algorithms_fit a listed)).mp cut) (other a listed)
    have packed : verify_packed p now (.map m) auth_data client_data key aaguid = .ok () →
        alg = if (cbor_text_get m "x5c").isSome then -7 else key.cose_alg := by
      intro accepted
      have cut := packed_algorithm named accepted
      split at cut
      · rw [if_pos ‹_›]
        exact exactly _ (by decide) cut
      · rw [if_neg ‹_›]
        exact exactly _ (cose_alg_mem key) cut
    have tpm : verify_tpm p (.map m) auth_data client_data key = .ok () → alg = -257 ∨ alg = -65535 := fun accepted =>
      (tpm_algorithm named accepted).imp (exactly _ (by decide)) (exactly _ (by decide))
    refine ⟨packed, tpm, ?_⟩
    rintro (accepted | accepted)
    · have algorithm := packed accepted
      split at algorithm
      · rw [algorithm]
        decide
      · rw [algorithm]
        exact algorithms_fit _ (cose_alg_mem key)
    · rcases tpm accepted with rfl | rfl <;> decide

/-- The TPM's statement, with a number above 32 bits. -/
def wideStatement : List (Cbor × Cbor) :=
  [(.text "ver", .text "2.0"), (.text "alg", .integer (2 ^ 32 - 257)), (.text "x5c", .array [.bytes aikDer]),
    (.text "sig", .bytes aikSignature), (.text "certInfo", .bytes certInfo), (.text "pubArea", .bytes pubArea)]

/-- Both verifiers accept numbers that name no algorithm. -/
theorem wide_algorithm_accepted :
    (verify_packed keychain 0 (.map [(.text "alg", .integer (2 ^ 32 - 7)), (.text "sig", .bytes attesterSignature)]) authData creation
      (.Es256 attesterX attesterY) [] = .ok () ∧
      ¬ NamesAlgorithm keychain 0 [(.text "alg", .integer (2 ^ 32 - 7)), (.text "sig", .bytes attesterSignature)] authData creation
        (.Es256 attesterX attesterY) [] (2 ^ 32 - 7)) ∧
    verify_tpm keychain (.map wideStatement) authData creation (.Rs256 rsaModulus [1, 0, 1]) = .ok () ∧
      ¬ NamesAlgorithm keychain 0 wideStatement authData creation (.Rs256 rsaModulus [1, 0, 1]) [] (2 ^ 32 - 257) := by
  have packed : verify_packed keychain 0 (.map [(.text "alg", .integer (2 ^ 32 - 7)), (.text "sig", .bytes attesterSignature)]) authData
      creation (.Es256 attesterX attesterY) [] = .ok () :=
    packed_self rfl (signed_verified (.Es256 attesterX attesterY, attesterSignature) List.mem_cons_self)
  have tpm : verify_tpm keychain (.map wideStatement) authData creation (.Rs256 rsaModulus [1, 0, 1]) = .ok () := by decide +kernel
  refine ⟨⟨packed, fun names => ?_⟩, tpm, fun names => ?_⟩
  · exact absurd (names.fits (.inl packed)).2 (by decide)
  · exact absurd (names.fits (.inr tpm)).2 (by decide)

end reference
end RustOp.Web
