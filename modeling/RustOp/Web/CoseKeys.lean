import RustOp.Web.AttestationReference

/-!
Keys in the encoding of COSE: the grammar of those that the provider means to
accept, and the keys on which its parser says something else.
-/
namespace RustOp.Web
open RustOp.Effects RustOp.Web.fido.verify

/-! ### The curve -/

/-- The points of NIST P-256, other than the one at infinity. -/
def OnP256 (x y : Nat) : Prop :=
  let q := 2 ^ 256 - 2 ^ 224 + 2 ^ 192 + 2 ^ 96 - 1
  let b := 0x5ac635d8aa3a93e7b3ebbd55769886bc651d06b0cc53b0f63bce3c3e27d2604b
  x < q ∧ y < q ∧ y ^ 2 % q = (x ^ 3 + (q - 3) * x + b) % q

instance (x y : Nat) : Decidable (OnP256 x y) := by unfold OnP256; infer_instance

/-- Zeros on the left up to 32 bytes. -/
def left_padded (b : List UInt8) : List UInt8 := List.replicate (32 - b.length) 0 ++ b

/-! ### The grammar -/

/-- The first entry with this integer as its label has this value. -/
def Labelled (m : List (Cbor × Cbor)) (k : Int) (v : Cbor) : Prop :=
  ∃ before after, m = before ++ (.integer k, v) :: after ∧ ∀ e ∈ before, e.1 ≠ .integer k

/-- The coordinates of an EC2 key with the algorithm ES256. -/
structure Ec2Key (m : List (Cbor × Cbor)) (x y : List UInt8) : Prop where
  kty : Labelled m 1 (.integer 2)
  alg : Labelled m 3 (.integer (-7))
  first : Labelled m (-2) (.bytes x)
  second : Labelled m (-3) (.bytes y)
  x_short : x.length ≤ 32
  y_short : y.length ≤ 32
  point : OnP256 (from_be_bytes x) (from_be_bytes y)

/-- Modulus and exponent of an RSA key. -/
structure RsaKey (m : List (Cbor × Cbor)) (alg : Int) (n e : List UInt8) : Prop where
  kty : Labelled m 1 (.integer 3)
  alg : Labelled m 3 (.integer alg)
  modulus : Labelled m (-1) (.bytes n)
  exponent : Labelled m (-2) (.bytes e)

/-- What an OKP key for Ed25519 has as its coordinate. -/
structure OkpKey (m : List (Cbor × Cbor)) (pk : List UInt8) : Prop where
  kty : Labelled m 1 (.integer 1)
  alg : Labelled m 3 (.integer (-8))
  crv : Labelled m (-1) (.integer 6)
  coordinate : Labelled m (-2) (.bytes pk)

/-- The keys of the grammar, with the coordinates that they stand for. -/
inductive CoseKey (m : List (Cbor × Cbor)) : CredKey → Prop where
  | es256 {x y : List UInt8} (key : Ec2Key m x y) (crv : Labelled m (-1) (.integer 1)) :
    CoseKey m (.Es256 (left_padded x) (left_padded y))
  | rs256 {n e : List UInt8} (key : RsaKey m (-257) n e) : CoseKey m (.Rs256 n e)
  | rs1 {n e : List UInt8} (key : RsaKey m (-65535) n e) : CoseKey m (.Rs1 n e)
  | ed25519 {pk : List UInt8} (key : OkpKey m pk) (whole : pk.length = 32) : CoseKey m (.Ed25519 pk)

/-- The bytes are accepted as the keys that the grammar reads from the map at
    their start, with the length of that map. -/
def ReadByGrammar (p : Site) (cose_bytes : List UInt8) : Prop :=
  ∀ key consumed, parse_cose_key p cose_bytes = .ok (key, consumed) ↔
    ∃ m, p.from_reader cose_bytes = .ok (.map m, consumed) ∧ CoseKey m key

/-- An EC2 key that does not name P-256 as its curve. -/
def OffCurve (m : List (Cbor × Cbor)) : Prop := (∃ x y, Ec2Key m x y) ∧ ¬ Labelled m (-1) (.integer 1)

/-- A key for Ed25519 of another length than 32 bytes. -/
def OddLength (m : List (Cbor × Cbor)) : Prop := ∃ pk, OkpKey m pk ∧ pk.length ≠ 32

/-! ### The parser -/

theorem cose_get_int_eq_some {m : List (Cbor × Cbor)} {k : Int} {v : Cbor} :
    cose_get_int m k = some v ↔ Labelled m k v := by
  unfold cose_get_int
  rw [Option.map_eq_some_iff]
  constructor
  · rintro ⟨⟨key, value⟩, found, rfl⟩
    obtain ⟨is, before, after, rfl, others⟩ := List.find?_eq_some_iff_append.mp found
    cases key <;> simp at is
    subst is
    refine ⟨before, after, rfl, fun e listed same => ?_⟩
    have other := others e listed
    simp [same] at other
  · rintro ⟨before, after, rfl, others⟩
    refine ⟨(.integer k, v), List.find?_eq_some_iff_append.mpr ⟨by simp, before, after, rfl, ?_⟩, rfl⟩
    rintro ⟨key, value⟩ listed
    have other := others _ listed
    cases key <;> simp_all

theorem Labelled.unique {m : List (Cbor × Cbor)} {k : Int} {v w : Cbor} (one : Labelled m k v) (other : Labelled m k w) : v = w :=
  Option.some.inj ((cose_get_int_eq_some.mpr one).symm.trans (cose_get_int_eq_some.mpr other))

private theorem int_eq_some {m : List (Cbor × Cbor)} {k n : Int} :
    (cose_get_int m k).bind cbor_integer = some n ↔ Labelled m k (.integer n) := by
  rw [Option.bind_eq_some_iff, ← cose_get_int_eq_some]
  constructor
  · rintro ⟨v, found, is⟩
    cases v <;> simp_all [cbor_integer]
  · intro found
    exact ⟨_, found, rfl⟩

private theorem bytes_eq_some {m : List (Cbor × Cbor)} {k : Int} {b : List UInt8} :
    (cose_get_int m k).bind cbor_bytes = some b ↔ Labelled m k (.bytes b) := by
  rw [Option.bind_eq_some_iff, ← cose_get_int_eq_some]
  constructor
  · rintro ⟨v, found, is⟩
    cases v <;> simp_all [cbor_bytes]
  · intro found
    exact ⟨_, found, rfl⟩

private theorem pad32_eq_ok {b padded : List UInt8} : es256.pad32 b = .ok padded ↔ b.length ≤ 32 ∧ padded = left_padded b := by
  unfold es256.pad32
  by_cases long : b.length > 32
  · rw [if_pos long]
    constructor
    · intro padded
      cases padded
    · rintro ⟨short, -⟩
      omega
  · rw [if_neg long, Except.ok.injEq]
    exact ⟨fun same => ⟨by omega, same.symm⟩, fun ⟨_, same⟩ => same.symm⟩

private theorem left_padded_length {b : List UInt8} (short : b.length ≤ 32) : (left_padded b).length = 32 := by
  simp only [left_padded, List.length_append, List.length_replicate]
  omega

private theorem from_be_bytes_left_padded (b : List UInt8) : from_be_bytes (left_padded b) = from_be_bytes b := by
  have split : from_be_bytes (left_padded b) = from_be_bytes (List.replicate (32 - b.length) 0) * 256 ^ b.length + from_be_bytes b :=
    Positional.value_append ..
  have zeros : from_be_bytes (List.replicate (32 - b.length) 0) = 0 :=
    Positional.value_zeros fun x listed => by rw [List.eq_of_mem_replicate listed]; rfl
  rw [split, zeros, Nat.zero_mul, Nat.zero_add]

/-- The library takes two coordinates for a key if they are a point of the curve. -/
def Points (p : Site) : Prop :=
  ∀ x y : List UInt8, x.length = 32 → y.length = 32 →
    ((∃ vk, p.from_encoded_point x y = .ok vk) ↔ OnP256 (from_be_bytes x) (from_be_bytes y))

private theorem verifying_key_iff {p : Site} (points : Points p) {x y : List UInt8} (x_short : x.length ≤ 32) (y_short : y.length ≤ 32) :
    (∃ vk, es256.verifying_key_from_xy p.toJose (left_padded x) (left_padded y) = .ok vk) ↔
      OnP256 (from_be_bytes x) (from_be_bytes y) := by
  have full : ∀ {b : List UInt8}, b.length ≤ 32 → left_padded (left_padded b) = left_padded b := fun short => by
    rw [left_padded, left_padded_length short]
    rfl
  have known := points _ _ (left_padded_length x_short) (left_padded_length y_short)
  rw [from_be_bytes_left_padded, from_be_bytes_left_padded] at known
  rw [← known]
  simp only [es256.verifying_key_from_xy, Checks.bind_eq_ok, Checks.mapError_eq_ok, pad32_eq_ok, left_padded_length x_short,
    left_padded_length y_short, le_refl, true_and, exists_eq_left, full x_short, full y_short]

/-- What the parser accepts: it does not look at the curve of an EC2 key, nor at
    the length of one for Ed25519. -/
theorem parse_cose_key_eq_ok {p : Site} (points : Points p) {cose_bytes : List UInt8} {key : CredKey} {consumed : Nat} :
    parse_cose_key p cose_bytes = .ok (key, consumed) ↔ ∃ m, p.from_reader cose_bytes = .ok (.map m, consumed) ∧
      ((∃ x y, Ec2Key m x y ∧ key = .Es256 (left_padded x) (left_padded y)) ∨
        (∃ n e, RsaKey m (-257) n e ∧ key = .Rs256 n e) ∨ (∃ n e, RsaKey m (-65535) n e ∧ key = .Rs1 n e) ∨
        ∃ pk, OkpKey m pk ∧ key = .Ed25519 pk) := by
  unfold parse_cose_key
  simp only [Checks.bind_eq_ok, Checks.mapError_eq_ok]
  constructor
  · rintro ⟨⟨cose, n⟩, read, accepted⟩
    cases cose <;> try cases accepted
    rename_i m
    refine ⟨m, ?_⟩
    dsimp only at accepted
    split at accepted
    · rename_i ec2
      simp only [Checks.bind_eq_ok, Checks.refuse_eq_ok, Checks.ok_or_eq_ok, Checks.pure_eq_ok, not_not, ne_eq, int_eq_some,
        bytes_eq_some, pad32_eq_ok] at accepted ec2
      obtain ⟨⟨⟩, alg, x, first, xb, ⟨x_short, rfl⟩, y, second, yb, ⟨y_short, rfl⟩, vk, point, is⟩ := accepted
      cases is
      have on_curve := (verifying_key_iff points x_short y_short).mp ⟨vk, point⟩
      exact ⟨read, .inl ⟨x, y, ⟨ec2, alg, first, second, x_short, y_short, on_curve⟩, rfl⟩⟩
    · split at accepted
      · rename_i rsa
        simp only [Checks.bind_eq_ok, Checks.ok_or_eq_ok, int_eq_some, bytes_eq_some] at accepted rsa
        obtain ⟨modulus, is_modulus, exponent, is_exponent, accepted⟩ := accepted
        split at accepted
        · rename_i alg
          cases accepted
          exact ⟨read, .inr (.inl ⟨modulus, exponent, ⟨rsa, int_eq_some.mp alg, is_modulus, is_exponent⟩, rfl⟩)⟩
        · split at accepted
          · rename_i alg
            cases accepted
            exact ⟨read, .inr (.inr (.inl ⟨modulus, exponent, ⟨rsa, int_eq_some.mp alg, is_modulus, is_exponent⟩, rfl⟩))⟩
          · cases accepted
      · split at accepted
        · rename_i okp
          simp only [Checks.bind_eq_ok, Checks.refuse_eq_ok, Checks.ok_or_eq_ok, Checks.pure_eq_ok, not_not, ne_eq, int_eq_some,
            bytes_eq_some] at accepted okp
          obtain ⟨⟨⟩, alg, ⟨⟩, crv, pk, coordinate, is⟩ := accepted
          cases is
          exact ⟨read, .inr (.inr (.inr ⟨pk, ⟨okp, alg, crv, coordinate⟩, rfl⟩))⟩
        · cases accepted
  · rintro ⟨m, read, keys⟩
    refine ⟨(.map m, consumed), read, ?_⟩
    dsimp only
    rcases keys with ⟨x, y, key, rfl⟩ | ⟨n, e, key, rfl⟩ | ⟨n, e, key, rfl⟩ | ⟨pk, key, rfl⟩
    · obtain ⟨vk, point⟩ := (verifying_key_iff points key.x_short key.y_short).mpr key.point
      rw [if_pos (int_eq_some.mpr key.kty)]
      simp only [Checks.bind_eq_ok, Checks.refuse_eq_ok, Checks.ok_or_eq_ok, Checks.pure_eq_ok, not_not, ne_eq, int_eq_some,
        bytes_eq_some, pad32_eq_ok]
      exact ⟨⟨⟩, key.alg, x, key.first, _, ⟨key.x_short, rfl⟩, y, key.second, _, ⟨key.y_short, rfl⟩, vk, point, rfl⟩
    · rw [int_eq_some.mpr key.kty, if_neg (by decide), if_pos rfl, int_eq_some.mpr key.alg]
      simp only [Checks.bind_eq_ok, Checks.ok_or_eq_ok, bytes_eq_some]
      exact ⟨n, key.modulus, e, key.exponent, rfl⟩
    · rw [int_eq_some.mpr key.kty, if_neg (by decide), if_pos rfl, int_eq_some.mpr key.alg]
      simp only [Checks.bind_eq_ok, Checks.ok_or_eq_ok, bytes_eq_some]
      exact ⟨n, key.modulus, e, key.exponent, rfl⟩
    · rw [int_eq_some.mpr key.kty, if_neg (by decide), if_neg (by decide), if_pos rfl]
      simp only [Checks.bind_eq_ok, Checks.refuse_eq_ok, Checks.ok_or_eq_ok, Checks.pure_eq_ok, not_not, ne_eq, int_eq_some,
        bytes_eq_some]
      exact ⟨⟨⟩, key.alg, ⟨⟩, key.crv, pk, key.coordinate, rfl⟩

/-- The parser reads the bytes as the grammar does, except when they start with an
    otherwise valid key that is not said to be of P-256, or one for Ed25519 of another
    length. -/
theorem read_by_grammar_iff (p : Site) (points : Points p) (cose_bytes : List UInt8) :
    ReadByGrammar p cose_bytes ↔
      ∀ m consumed, p.from_reader cose_bytes = .ok (.map m, consumed) → ¬ OffCurve m ∧ ¬ OddLength m := by
  constructor
  · intro exactly m consumed read
    constructor
    · rintro ⟨⟨x, y, key⟩, off⟩
      have accepted := (parse_cose_key_eq_ok points).mpr ⟨m, read, .inl ⟨x, y, key, rfl⟩⟩
      obtain ⟨m', read', by_grammar⟩ := (exactly _ _).mp accepted
      obtain ⟨⟨⟩, -⟩ := Prod.mk.inj (Except.ok.inj (read.symm.trans read'))
      generalize is : CredKey.Es256 (left_padded x) (left_padded y) = named at by_grammar
      cases by_grammar with
      | es256 _ crv => exact off crv
      | rs256 | rs1 | ed25519 => cases is
    · rintro ⟨pk, key, odd⟩
      have accepted := (parse_cose_key_eq_ok points).mpr ⟨m, read, .inr (.inr (.inr ⟨pk, key, rfl⟩))⟩
      obtain ⟨m', read', by_grammar⟩ := (exactly _ _).mp accepted
      obtain ⟨⟨⟩, -⟩ := Prod.mk.inj (Except.ok.inj (read.symm.trans read'))
      cases by_grammar with
      | ed25519 _ whole => exact odd whole
  · intro sound key consumed
    rw [parse_cose_key_eq_ok points]
    constructor
    · rintro ⟨m, read, keys⟩
      obtain ⟨on_curve, whole⟩ := sound m consumed read
      refine ⟨m, read, ?_⟩
      rcases keys with ⟨x, y, key, rfl⟩ | ⟨n, e, key, rfl⟩ | ⟨n, e, key, rfl⟩ | ⟨pk, key, rfl⟩
      · exact .es256 key (by_contra fun off => on_curve ⟨⟨x, y, key⟩, off⟩)
      · exact .rs256 key
      · exact .rs1 key
      · exact .ed25519 key (by_contra fun odd => whole ⟨pk, key, odd⟩)
    · rintro ⟨m, read, by_grammar⟩
      refine ⟨m, read, ?_⟩
      cases by_grammar with
      | es256 key _ => exact .inl ⟨_, _, key, rfl⟩
      | rs256 key => exact .inr (.inl ⟨_, _, key, rfl⟩)
      | rs1 key => exact .inr (.inr (.inl ⟨_, _, key, rfl⟩))
      | ed25519 key _ => exact .inr (.inr (.inr ⟨_, key, rfl⟩))

/-! ### Keys of another curve or length -/

section reference
open Reference

/-- The library functions, with the ones that know the points of the curve. -/
def keyring : Site :=
  { certifier.toSite with
    from_encoded_point := fun x y =>
      if OnP256 (from_be_bytes x) (from_be_bytes y) then .ok (x ++ y) else .error "signature error" }

theorem keyring_points : Points keyring := by
  intro x y _ _
  simp only [keyring]
  split <;> simp_all

/-- The key of the passkey without its curve. -/
def curvelessKey : List UInt8 := [0xa4, 0x01, 0x02, 0x03, 0x26, 0x21, 0x58, 0x20] ++ pointX ++ [0x22, 0x58, 0x20] ++ pointY

/-- A key for Ed25519 without a single byte. -/
def hollowKey : List UInt8 := [0xa4, 0x01, 0x01, 0x03, 0x27, 0x20, 0x06, 0x21, 0x40]

theorem cose_key_read : ReadByGrammar keyring coseKey ↔
    ∀ m consumed, keyring.from_reader coseKey = .ok (.map m, consumed) → ¬ OffCurve m ∧ ¬ OddLength m :=
  read_by_grammar_iff keyring keyring_points coseKey

/-- Both are accepted, and neither is a key of the grammar. -/
theorem curveless_key_accepted :
    parse_cose_key keyring curvelessKey = .ok (.Es256 pointX pointY, curvelessKey.length) ∧ ¬ ReadByGrammar keyring curvelessKey ∧
    parse_cose_key keyring hollowKey = .ok (.Ed25519 [], hollowKey.length) ∧ ¬ ReadByGrammar keyring hollowKey := by
  have curveless : parse_cose_key keyring curvelessKey = .ok (.Es256 pointX pointY, curvelessKey.length) := by decide +kernel
  have hollow : parse_cose_key keyring hollowKey = .ok (.Ed25519 [], hollowKey.length) := by decide +kernel
  refine ⟨curveless, fun exactly => ?_, hollow, fun exactly => ?_⟩
  · obtain ⟨m, read, by_grammar⟩ := (exactly _ _).mp curveless
    generalize is : CredKey.Es256 pointX pointY = named at by_grammar
    cases by_grammar with
    | es256 _ crv =>
      have entries : keyring.from_reader curvelessKey =
          .ok (.map [(.integer 1, .integer 2), (.integer 3, .integer (-7)), (.integer (-2), .bytes pointX),
            (.integer (-3), .bytes pointY)], curvelessKey.length) := by rfl
      obtain ⟨⟨⟩, -⟩ := Prod.mk.inj (Except.ok.inj (read.symm.trans entries))
      cases (cose_get_int_eq_some.mpr crv)
    | rs256 | rs1 | ed25519 => cases is
  · obtain ⟨m, -, by_grammar⟩ := (exactly _ _).mp hollow
    cases by_grammar with
    | ed25519 _ whole => cases whole

end reference
end RustOp.Web
