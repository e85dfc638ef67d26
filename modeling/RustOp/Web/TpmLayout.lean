import RustOp.Web.Tpm

/-!
The structures of a TPM as bytes, and that the reader takes exactly these apart.
A read is known by the bytes it takes (`Reads`); reads one after the other take
their bytes one after the other.
-/
namespace RustOp.Web.fido.tpm
open RustOp.Effects RustOp.Web.fido.verify

/-! ### Numbers -/

theorem from_be_bytes_cons (b : UInt8) (bytes : List UInt8) :
    from_be_bytes (b :: bytes) = b.toNat * 256 ^ bytes.length + from_be_bytes bytes := Positional.value_cons ..

theorem from_be_bytes_inj {a b : List UInt8} (length : a.length = b.length) (same : from_be_bytes a = from_be_bytes b) : a = b := by
  induction a generalizing b with
  | nil => exact (List.eq_nil_of_length_eq_zero length.symm).symm
  | cons x a ih =>
    cases b with
    | nil => cases length
    | cons y b =>
      have length : a.length = b.length := by simpa using length
      have less := from_be_bytes_lt a
      have less' := from_be_bytes_lt b
      rw [from_be_bytes_cons, from_be_bytes_cons, length] at same
      rw [length] at less
      have positive : 0 < 256 ^ b.length := Nat.pow_pos (by decide)
      have first : x.toNat = y.toNat := by
        have left := Nat.add_mul_div_right (from_be_bytes a) x.toNat positive
        have right := Nat.add_mul_div_right (from_be_bytes b) y.toNat positive
        rw [Nat.div_eq_of_lt less, Nat.add_comm] at left
        rw [Nat.div_eq_of_lt less', Nat.add_comm] at right
        rw [same] at left
        omega
      rw [first] at same
      rw [UInt8.toNat_inj.mp first, ih length (by omega)]

theorem to_be_bytes_length (width n : Nat) : (to_be_bytes width n).length = width := by simp [to_be_bytes]

theorem to_be_bytes_succ (width n : Nat) :
    to_be_bytes (width + 1) n = UInt8.ofNat (n / 256 ^ width) :: to_be_bytes width n := by
  simp [to_be_bytes, List.range_succ]

theorem from_be_bytes_to_be_bytes {width n : Nat} (fits : n < 256 ^ width) : from_be_bytes (to_be_bytes width n) = n := by
  have reduced : ∀ width, from_be_bytes (to_be_bytes width n) = n % 256 ^ width := by
    intro width
    induction width with
    | zero => simp [to_be_bytes, from_be_bytes, Nat.mod_one]
    | succ width ih =>
      have byte : (UInt8.ofNat (n / 256 ^ width)).toNat = n / 256 ^ width % 256 := UInt8.toNat_ofNat'
      rw [to_be_bytes_succ, from_be_bytes_cons, to_be_bytes_length, ih, byte, Nat.mod_pow_succ]
      ring
  rw [reduced, Nat.mod_eq_of_lt fits]

theorem to_be_bytes_from_be_bytes (bytes : List UInt8) : to_be_bytes bytes.length (from_be_bytes bytes) = bytes :=
  from_be_bytes_inj (to_be_bytes_length _ _) (from_be_bytes_to_be_bytes (from_be_bytes_lt bytes))

theorem from_be_bytes_trim0 (bytes : List UInt8) : from_be_bytes (trim0 bytes) = from_be_bytes bytes := by
  induction bytes with
  | nil => rfl
  | cons b bytes ih =>
    rw [trim0, List.dropWhile_cons]
    by_cases zero : b = 0
    · rw [if_pos (by simpa using zero), from_be_bytes_cons, zero]
      simpa [trim0] using ih
    · rw [if_neg (by simpa using zero)]

/-! ### Layouts -/

/-- A number of a width in bytes. -/
abbrev Word (width : Nat) := Fin (256 ^ width)

def Word.serialise {width : Nat} (n : Word width) : List UInt8 := to_be_bytes width n

/-- Data behind two bytes of size. -/
structure Sized where
  data : List UInt8
  fits : data.length < 256 ^ 2

def Sized.serialise (s : Sized) : List UInt8 := to_be_bytes 2 s.data.length ++ s.data

/-- The symmetric algorithm, with the length of its key and its mode. -/
inductive Symmetric where
  | null
  | algorithm (alg : Word 2) (is : alg.val ≠ TPM_ALG_NULL) (key_bits mode : Word 2)

def Symmetric.serialise : Symmetric → List UInt8
  | .null => to_be_bytes 2 TPM_ALG_NULL
  | .algorithm alg _ key_bits mode => Word.serialise alg ++ (Word.serialise key_bits ++ Word.serialise mode)

/-- The scheme, with its hash. -/
inductive Scheme where
  | null
  | hashed (alg : Word 2) (is : alg.val ≠ TPM_ALG_NULL) (hash : Word 2)

def Scheme.serialise : Scheme → List UInt8
  | .null => to_be_bytes 2 TPM_ALG_NULL
  | .hashed alg _ hash => Word.serialise alg ++ Word.serialise hash

/-- The public area of an RSA key. -/
structure PubArea where
  name_alg : Word 2
  object_attributes : Word 4
  auth_policy : Sized
  symmetric : Symmetric
  scheme : Scheme
  key_bits : Word 2
  exponent : Word 4
  modulus : Sized

def PubArea.serialise (a : PubArea) : List UInt8 :=
  to_be_bytes 2 TPM_ALG_RSA ++ (Word.serialise a.name_alg ++ (Word.serialise a.object_attributes ++ (a.auth_policy.serialise ++
    (a.symmetric.serialise ++ (a.scheme.serialise ++ (Word.serialise a.key_bits ++ (Word.serialise a.exponent ++
      a.modulus.serialise)))))))

/-- What is attested of a key. -/
structure Certify where
  magic : Word 4
  typ : Word 2
  qualified_signer : Sized
  extra_data : Sized
  clock_info : List UInt8
  clock_info_length : clock_info.length = 17
  firmware_version : List UInt8
  firmware_version_length : firmware_version.length = 8
  attested_name : Sized
  qualified_name : Sized

def Certify.serialise (c : Certify) : List UInt8 :=
  Word.serialise c.magic ++ (Word.serialise c.typ ++ (c.qualified_signer.serialise ++ (c.extra_data.serialise ++
    (c.clock_info ++ (c.firmware_version ++ (c.attested_name.serialise ++ c.qualified_name.serialise))))))

/-! ### Reads -/

/-- A read from inside the bytes succeeds exactly if the next bytes are what it
    takes for a value, and goes on behind them. -/
def Reads {α : Type} (read : Read α) (takes : α → List UInt8 → Prop) : Prop :=
  ∀ (b : List UInt8) (i : Nat), i ≤ b.length → ∀ x r, read ⟨b, i⟩ = .ok (x, r) ↔
    ∃ bytes rest, b.drop i = bytes ++ rest ∧ takes x bytes ∧ r = ⟨b, i + bytes.length⟩

variable {α β : Type}

theorem Reads.congr {read : Read α} {takes takes' : α → List UInt8 → Prop} (reads : Reads read takes)
    (same : ∀ x bytes, takes x bytes ↔ takes' x bytes) : Reads read takes' := by
  intro b i inside x r
  rw [reads b i inside x r]
  simp only [same]

theorem Reads.pure (a : α) : Reads (pure a : Read α) fun x bytes => x = a ∧ bytes = [] := by
  intro b i inside x r
  constructor
  · intro read
    obtain ⟨rfl, rfl⟩ := Prod.mk.inj (Except.ok.inj read)
    exact ⟨[], b.drop i, rfl, ⟨rfl, rfl⟩, rfl⟩
  · rintro ⟨bytes, rest, -, ⟨rfl, rfl⟩, rfl⟩
    rfl

theorem Reads.throw (e : String) : Reads (throw e : Read α) fun _ _ => False := by
  intro b i inside x r
  refine iff_of_false (fun read => ?_) ?_
  · cases read
  · rintro ⟨bytes, rest, -, no, -⟩
    exact no

theorem Reads.bind {read : Read α} {next : α → Read β} {takes : α → List UInt8 → Prop} {takes' : α → β → List UInt8 → Prop}
    (reads : Reads read takes) (nexts : ∀ a, Reads (next a) (takes' a)) :
    Reads (read >>= next) fun x bytes => ∃ a front back, takes a front ∧ takes' a x back ∧ bytes = front ++ back := by
  intro b i inside x r
  have step : (read >>= next) ⟨b, i⟩ = .ok (x, r) ↔ ∃ a r', read ⟨b, i⟩ = .ok (a, r') ∧ next a r' = .ok (x, r) := by
    show (read ⟨b, i⟩ >>= fun y => next y.1 y.2) = .ok (x, r) ↔ _
    rw [Checks.bind_eq_ok, Prod.exists]
  rw [step]
  constructor
  · rintro ⟨a, r', first, second⟩
    obtain ⟨front, rest, whole, taken, rfl⟩ := (reads b i inside a r').mp first
    have length := congrArg List.length whole
    rw [List.length_drop, List.length_append] at length
    obtain ⟨back, rest', whole', taken', rfl⟩ := (nexts a b (i + front.length) (by omega) x r).mp second
    rw [← List.drop_drop, whole, List.drop_left] at whole'
    exact ⟨front ++ back, rest', by rw [whole, whole', List.append_assoc], ⟨a, front, back, taken, taken', rfl⟩,
      by rw [List.length_append, Nat.add_assoc]⟩
  · rintro ⟨bytes, rest, whole, ⟨a, front, back, taken, taken', rfl⟩, rfl⟩
    rw [List.append_assoc] at whole
    have length := congrArg List.length whole
    rw [List.length_drop, List.length_append] at length
    have first := (reads b i inside a ⟨b, i + front.length⟩).mpr ⟨front, back ++ rest, whole, taken, rfl⟩
    have behind : b.drop (i + front.length) = back ++ rest := by rw [← List.drop_drop, whole, List.drop_left]
    refine ⟨a, _, first, (nexts a b _ (by omega) x _).mpr ⟨back, rest, behind, taken', ?_⟩⟩
    rw [List.length_append, Nat.add_assoc]

theorem Reads.ite {c : Prop} [Decidable c] {read read' : Read α} {takes takes' : α → List UInt8 → Prop}
    (reads : Reads read takes) (reads' : Reads read' takes') :
    Reads (if c then read else read') fun x bytes => c ∧ takes x bytes ∨ ¬ c ∧ takes' x bytes := by
  by_cases holds : c
  · rw [if_pos holds]
    exact reads.congr fun x bytes => by simp [holds]
  · rw [if_neg holds]
    exact reads'.congr fun x bytes => by simp [holds]

theorem reads_take (n : Nat) : Reads (take n) fun x bytes => x = bytes ∧ bytes.length = n := by
  intro b i inside x r
  unfold take
  constructor
  · intro read
    split at read
    · cases read
    · obtain ⟨rfl, rfl⟩ := Prod.mk.inj (Except.ok.inj read)
      have length : ((b.drop i).take n).length = n := by
        rw [List.length_take, List.length_drop]
        dsimp only at *
        omega
      exact ⟨_, (b.drop i).drop n, (List.take_append_drop n _).symm, ⟨rfl, length⟩, by rw [length]⟩
  · rintro ⟨bytes, rest, whole, ⟨rfl, rfl⟩, rfl⟩
    have length := congrArg List.length whole
    rw [List.length_drop, List.length_append] at length
    rw [if_neg (by dsimp only; omega), whole, List.take_left]

private theorem reads_number (width : Nat) :
    Reads (do return from_be_bytes (← take width)) fun n bytes => ∃ w : Word width, n = w.val ∧ bytes = Word.serialise w := by
  refine ((reads_take width).bind fun bytes => Reads.pure (from_be_bytes bytes)).congr fun n bytes => ?_
  constructor
  · rintro ⟨read, front, back, ⟨rfl, rfl⟩, ⟨rfl, rfl⟩, rfl⟩
    refine ⟨⟨from_be_bytes read, from_be_bytes_lt read⟩, rfl, ?_⟩
    rw [List.append_nil]
    exact (to_be_bytes_from_be_bytes read).symm
  · rintro ⟨w, rfl, rfl⟩
    exact ⟨_, _, [], ⟨rfl, to_be_bytes_length _ _⟩, ⟨(from_be_bytes_to_be_bytes w.isLt).symm, rfl⟩, (List.append_nil _).symm⟩

theorem reads_u16 : Reads u16 fun n bytes => ∃ w : Word 2, n = w.val ∧ bytes = Word.serialise w := reads_number 2
theorem reads_u32 : Reads u32 fun n bytes => ∃ w : Word 4, n = w.val ∧ bytes = Word.serialise w := reads_number 4

theorem reads_tpm2b : Reads tpm2b fun x bytes => ∃ s : Sized, x = s.data ∧ bytes = s.serialise := by
  refine (reads_u16.bind fun n => reads_take n).congr fun x bytes => ?_
  constructor
  · rintro ⟨n, front, back, ⟨w, rfl, rfl⟩, ⟨rfl, length⟩, rfl⟩
    have fits : x.length < 256 ^ 2 := by
      rw [length]
      exact w.isLt
    have size : to_be_bytes 2 x.length = Word.serialise w := congrArg (to_be_bytes 2) length
    exact ⟨⟨x, fits⟩, rfl, congrArg (· ++ x) size.symm⟩
  · rintro ⟨s, rfl, rfl⟩
    exact ⟨_, _, s.data, ⟨⟨s.data.length, s.fits⟩, rfl, rfl⟩, ⟨rfl, rfl⟩, rfl⟩

/-! ### The structures -/

/-- The exponent, where 0 stands for the default. -/
def PubArea.e (a : PubArea) : List UInt8 := if a.exponent.val = 0 then [0x01, 0x00, 0x01] else to_be_bytes 4 a.exponent

theorem reads_certinfo : Reads read_certinfo fun x bytes => ∃ c : Certify,
    x = ⟨c.magic, c.typ, c.extra_data.data, c.attested_name.data⟩ ∧ bytes = c.serialise := by
  unfold read_certinfo
  refine (reads_u32.bind fun magic => reads_u16.bind fun typ => reads_tpm2b.bind fun signer => reads_tpm2b.bind fun extra =>
    (reads_take 17).bind fun clock => (reads_take 8).bind fun firmware => reads_tpm2b.bind fun name =>
    reads_tpm2b.bind fun qualified => Reads.pure _).congr fun x bytes => ?_
  constructor
  · rintro ⟨_, _, _, ⟨magic, rfl, rfl⟩, ⟨_, _, _, ⟨typ, rfl, rfl⟩, ⟨_, _, _, ⟨signer, rfl, rfl⟩, ⟨_, _, _, ⟨extra, rfl, rfl⟩,
      ⟨clock, _, _, ⟨rfl, clock_length⟩, ⟨firmware, _, _, ⟨rfl, firmware_length⟩, ⟨_, _, _, ⟨name, rfl, rfl⟩, ⟨_, _, _, ⟨qualified, rfl, rfl⟩,
      ⟨rfl, rfl⟩, rfl⟩, rfl⟩, rfl⟩, rfl⟩, rfl⟩, rfl⟩, rfl⟩, rfl⟩
    refine ⟨⟨magic, typ, signer, extra, clock, clock_length, firmware, firmware_length, name, qualified⟩, rfl, ?_⟩
    simp only [Certify.serialise, List.append_nil]
  · rintro ⟨c, rfl, rfl⟩
    refine ⟨_, _, _, ⟨c.magic, rfl, rfl⟩, ⟨_, _, _, ⟨c.typ, rfl, rfl⟩, ⟨_, _, _, ⟨c.qualified_signer, rfl, rfl⟩,
      ⟨_, _, _, ⟨c.extra_data, rfl, rfl⟩, ⟨_, _, _, ⟨rfl, c.clock_info_length⟩, ⟨_, _, _, ⟨rfl, c.firmware_version_length⟩,
      ⟨_, _, _, ⟨c.attested_name, rfl, rfl⟩, ⟨_, _, _, ⟨c.qualified_name, rfl, rfl⟩, ⟨rfl, rfl⟩, rfl⟩, rfl⟩, rfl⟩, rfl⟩, rfl⟩, rfl⟩, rfl⟩, ?_⟩
    simp only [Certify.serialise, List.append_nil]

def read_symmetric : Read Unit := do
  let symmetric ← u16
  if symmetric ≠ TPM_ALG_NULL then
    let _key_bits ← u16
    let _mode ← u16

def read_scheme : Read Unit := do
  let scheme ← u16
  if scheme ≠ TPM_ALG_NULL then
    let _hash_alg ← u16

/-- The parts of the public area, one after the other. -/
theorem read_pubarea_rsa_eq : read_pubarea_rsa = u16 >>= fun typ =>
    if typ ≠ TPM_ALG_RSA then throw ("tpm pubArea type " ++ hex16 typ ++ " != RSA")
    else u16 >>= fun name_alg => u32 >>= fun _ => tpm2b >>= fun _ => read_symmetric >>= fun _ => read_scheme >>= fun _ =>
      u16 >>= fun _ => u32 >>= fun exponent => tpm2b >>= fun modulus =>
        pure (modulus, if exponent = 0 then [0x01, 0x00, 0x01] else to_be_bytes 4 exponent, name_alg) := by
  have branch : ∀ {α : Type} (c : Prop) [Decidable c] (x y : Read Unit) (f : Unit → Read α),
      (if c then x else y) >>= f = if c then x >>= f else y >>= f := by
    intro α c _ x y f
    split <;> rfl
  unfold read_pubarea_rsa read_symmetric read_scheme
  refine congrArg (u16 >>= ·) (funext fun typ => ?_)
  dsimp only
  split
  · rfl
  · simp only [bind_assoc, branch, pure_bind]

theorem reads_symmetric : Reads read_symmetric fun _ bytes => ∃ s : Symmetric, bytes = s.serialise := by
  refine (reads_u16.bind fun alg => Reads.ite (reads_u16.bind fun _ => reads_u16.bind fun _ => Reads.pure ())
    (Reads.pure ())).congr fun x bytes => ?_
  constructor
  · rintro ⟨_, front, back, ⟨alg, rfl, rfl⟩, ⟨other, _, _, _, ⟨key_bits, rfl, rfl⟩, ⟨_, _, _, ⟨mode, rfl, rfl⟩, ⟨-, rfl⟩, rfl⟩, rfl⟩ |
      ⟨null, -, rfl⟩, rfl⟩
    · exact ⟨.algorithm alg other key_bits mode, by simp only [Symmetric.serialise, List.append_nil]⟩
    · exact ⟨.null, by rw [Symmetric.serialise, List.append_nil, Word.serialise, not_not.mp null]⟩
  · rintro ⟨s, rfl⟩
    cases s with
    | null =>
      exact ⟨_, _, [], ⟨⟨TPM_ALG_NULL, by decide⟩, rfl, rfl⟩, .inr ⟨not_not.mpr rfl, rfl, rfl⟩, (List.append_nil _).symm⟩
    | algorithm alg other key_bits mode =>
      refine ⟨_, _, _, ⟨alg, rfl, rfl⟩, .inl ⟨other, _, _, _, ⟨key_bits, rfl, rfl⟩, ⟨_, _, [], ⟨mode, rfl, rfl⟩, ⟨rfl, rfl⟩, rfl⟩, rfl⟩, ?_⟩
      simp only [Symmetric.serialise, List.append_nil]

theorem reads_scheme : Reads read_scheme fun _ bytes => ∃ s : Scheme, bytes = s.serialise := by
  refine (reads_u16.bind fun alg => Reads.ite (reads_u16.bind fun _ => Reads.pure ()) (Reads.pure ())).congr fun x bytes => ?_
  constructor
  · rintro ⟨_, front, back, ⟨alg, rfl, rfl⟩, ⟨other, _, _, _, ⟨hash, rfl, rfl⟩, ⟨-, rfl⟩, rfl⟩ | ⟨null, -, rfl⟩, rfl⟩
    · exact ⟨.hashed alg other hash, by simp only [Scheme.serialise, List.append_nil]⟩
    · exact ⟨.null, by rw [Scheme.serialise, List.append_nil, Word.serialise, not_not.mp null]⟩
  · rintro ⟨s, rfl⟩
    cases s with
    | null =>
      exact ⟨_, _, [], ⟨⟨TPM_ALG_NULL, by decide⟩, rfl, rfl⟩, .inr ⟨not_not.mpr rfl, rfl, rfl⟩, (List.append_nil _).symm⟩
    | hashed alg other hash =>
      refine ⟨_, _, _, ⟨alg, rfl, rfl⟩, .inl ⟨other, _, _, [], ⟨hash, rfl, rfl⟩, ⟨rfl, rfl⟩, rfl⟩, ?_⟩
      simp only [Scheme.serialise, List.append_nil]

theorem reads_pubarea_rsa : Reads read_pubarea_rsa fun x bytes => ∃ a : PubArea,
    x = (a.modulus.data, a.e, a.name_alg.val) ∧ bytes = a.serialise := by
  rw [read_pubarea_rsa_eq]
  refine (reads_u16.bind fun typ => Reads.ite (Reads.throw _) (reads_u16.bind fun name_alg => reads_u32.bind fun _ =>
    reads_tpm2b.bind fun _ => reads_symmetric.bind fun _ => reads_scheme.bind fun _ => reads_u16.bind fun _ =>
    reads_u32.bind fun exponent => reads_tpm2b.bind fun modulus => Reads.pure _)).congr fun x bytes => ?_
  constructor
  · rintro ⟨_, _, _, ⟨typ, rfl, rfl⟩, ⟨-, no⟩ | ⟨rsa, _, _, _, ⟨name_alg, rfl, rfl⟩, ⟨_, _, _, ⟨attributes, rfl, rfl⟩, ⟨_, _, _,
      ⟨policy, rfl, rfl⟩, ⟨_, _, _, ⟨symmetric, rfl⟩, ⟨_, _, _, ⟨scheme, rfl⟩, ⟨_, _, _, ⟨key_bits, rfl, rfl⟩, ⟨_, _, _,
      ⟨exponent, rfl, rfl⟩, ⟨_, _, _, ⟨modulus, rfl, rfl⟩, ⟨rfl, rfl⟩, rfl⟩, rfl⟩, rfl⟩, rfl⟩, rfl⟩, rfl⟩, rfl⟩, rfl⟩, rfl⟩
    · exact no.elim
    · refine ⟨⟨name_alg, attributes, policy, symmetric, scheme, key_bits, exponent, modulus⟩, rfl, ?_⟩
      simp only [PubArea.serialise, List.append_nil, Word.serialise, not_not.mp rsa]
  · rintro ⟨a, rfl, rfl⟩
    refine ⟨_, _, _, ⟨⟨TPM_ALG_RSA, by decide⟩, rfl, rfl⟩, .inr ⟨not_not.mpr rfl, _, _, _, ⟨a.name_alg, rfl, rfl⟩, ⟨_, _, _,
      ⟨a.object_attributes, rfl, rfl⟩, ⟨_, _, _, ⟨a.auth_policy, rfl, rfl⟩, ⟨(), _, _, ⟨a.symmetric, rfl⟩, ⟨(), _, _, ⟨a.scheme, rfl⟩,
      ⟨_, _, _, ⟨a.key_bits, rfl, rfl⟩, ⟨_, _, _, ⟨a.exponent, rfl, rfl⟩, ⟨_, _, [], ⟨a.modulus, rfl, rfl⟩, ⟨rfl, rfl⟩, rfl⟩, rfl⟩, rfl⟩,
      rfl⟩, rfl⟩, rfl⟩, rfl⟩, rfl⟩, ?_⟩
    simp only [PubArea.serialise, List.append_nil, Word.serialise]

/-- What is read from the beginning of bytes. -/
private theorem run_of_reads {read : Read α} {takes : α → List UInt8 → Prop} (reads : Reads read takes) {b : List UInt8} {x : α} :
    read.run' ⟨b, 0⟩ = .ok x ↔ ∃ bytes, bytes <+: b ∧ takes x bytes := by
  have run : read.run' ⟨b, 0⟩ = .ok x ↔ ∃ r, read ⟨b, 0⟩ = .ok (x, r) := by
    show (read ⟨b, 0⟩).map Prod.fst = .ok x ↔ _
    cases read ⟨b, 0⟩ with
    | error e => simp [Except.map]
    | ok y => simp [Except.map, Prod.ext_iff]
  rw [run]
  constructor
  · rintro ⟨r, done⟩
    obtain ⟨bytes, rest, whole, taken, -⟩ := (reads b 0 (Nat.zero_le _) x r).mp done
    exact ⟨bytes, ⟨rest, whole.symm⟩, taken⟩
  · rintro ⟨bytes, ⟨rest, whole⟩, taken⟩
    exact ⟨_, (reads b 0 (Nat.zero_le _) x _).mpr ⟨bytes, rest, whole.symm, taken, rfl⟩⟩

theorem parse_pubarea_rsa_iff {b modulus e : List UInt8} {name_alg : Nat} : parse_pubarea_rsa b = .ok (modulus, e, name_alg) ↔
    ∃ a : PubArea, a.serialise <+: b ∧ modulus = a.modulus.data ∧ e = a.e ∧ name_alg = a.name_alg := by
  rw [parse_pubarea_rsa, run_of_reads reads_pubarea_rsa]
  constructor
  · rintro ⟨_, within, a, fields, rfl⟩
    obtain ⟨rfl, rfl, rfl⟩ : modulus = a.modulus.data ∧ e = a.e ∧ name_alg = a.name_alg := by simpa using fields
    exact ⟨a, within, rfl, rfl, rfl⟩
  · rintro ⟨a, within, rfl, rfl, rfl⟩
    exact ⟨_, within, a, rfl, rfl⟩

theorem parse_certinfo_iff {b : List UInt8} {info : CertInfo} : parse_certinfo b = .ok info ↔
    ∃ c : Certify, c.serialise <+: b ∧ info = ⟨c.magic, c.typ, c.extra_data.data, c.attested_name.data⟩ := by
  rw [parse_certinfo, run_of_reads reads_certinfo]
  constructor
  · rintro ⟨_, within, c, fields, rfl⟩
    exact ⟨c, within, fields⟩
  · rintro ⟨c, within, rfl⟩
    exact ⟨_, within, c, rfl, rfl⟩

/-- The exponent as a number. -/
theorem PubArea.from_be_bytes_e (a : PubArea) :
    from_be_bytes a.e = if a.exponent.val = 0 then 65537 else a.exponent.val := by
  unfold PubArea.e
  split
  · rfl
  · exact from_be_bytes_to_be_bytes a.exponent.isLt

/-- Only bytes that are there are taken. -/
theorem take_inside {n : Nat} {r r' : Reader} {x : List UInt8} (taken : take n r = .ok (x, r')) :
    r.i + n ≤ r.b.length ∧ x.length = n ∧ r' = { r with i := r.i + n } := by
  unfold take at taken
  split at taken
  · cases taken
  · obtain ⟨rfl, rfl⟩ := Prod.mk.inj (Except.ok.inj taken)
    refine ⟨by omega, ?_, rfl⟩
    rw [List.length_take, List.length_drop]
    omega

end RustOp.Web.fido.tpm
