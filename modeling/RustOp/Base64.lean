import Mathlib

/-!
Base64 with the URL alphabet and without padding: three bytes are four symbols
of six bits. Decoding accepts what encoding gives, and nothing with loose bits.
-/
namespace RustOp.Base64

/-! ### Symbols -/

/-- The symbol of a number below 64. -/
def symbol (n : Nat) : Char :=
  if n < 26 then Char.ofNat (65 + n)
  else if n < 52 then Char.ofNat (71 + n)
  else if n < 62 then Char.ofNat (n - 4)
  else if n = 62 then '-' else '_'

def value (c : Char) : Option Nat :=
  if 65 ≤ c.toNat ∧ c.toNat ≤ 90 then some (c.toNat - 65)
  else if 97 ≤ c.toNat ∧ c.toNat ≤ 122 then some (c.toNat - 71)
  else if 48 ≤ c.toNat ∧ c.toNat ≤ 57 then some (c.toNat + 4)
  else if c = '-' then some 62
  else if c = '_' then some 63 else none

/-- Letters, digits, the hyphen and the underscore. -/
def IsSymbol (c : Char) : Prop := c.isAlphanum = true ∨ c = '-' ∨ c = '_'

instance (c : Char) : Decidable (IsSymbol c) := by
  unfold IsSymbol
  infer_instance

theorem value_symbol {n : Nat} (small : n < 64) : value (symbol n) = some n := by
  revert n
  decide

theorem isSymbol_symbol {n : Nat} (small : n < 64) : IsSymbol (symbol n) := by
  revert n
  decide

/-! ### Bytes -/

def encode : List UInt8 → List Char
  | [] => []
  | [a] => [symbol (a.toNat / 4), symbol (a.toNat % 4 * 16)]
  | [a, b] => [symbol (a.toNat / 4), symbol (a.toNat % 4 * 16 + b.toNat / 16), symbol (b.toNat % 16 * 4)]
  | a :: b :: c :: rest =>
    symbol (a.toNat / 4) :: symbol (a.toNat % 4 * 16 + b.toNat / 16) :: symbol (b.toNat % 16 * 4 + c.toNat / 64) ::
      symbol (c.toNat % 64) :: encode rest

/-- The bytes of a text. Its last symbol may not carry bits that belong to no byte. -/
def decode : List Char → Option (List UInt8)
  | [] => some []
  | [_] => none
  | [w, x] => do
    let i ← value w
    let j ← value x
    if j % 16 = 0 then some [.ofNat (i * 4 + j / 16)] else none
  | [w, x, y] => do
    let i ← value w
    let j ← value x
    let k ← value y
    if k % 4 = 0 then some [.ofNat (i * 4 + j / 16), .ofNat (j % 16 * 16 + k / 4)] else none
  | w :: x :: y :: z :: rest => do
    let i ← value w
    let j ← value x
    let k ← value y
    let l ← value z
    let bytes ← decode rest
    some (.ofNat (i * 4 + j / 16) :: .ofNat (j % 16 * 16 + k / 4) :: .ofNat (k % 4 * 64 + l) :: bytes)

private theorem ofNat_eq {b : UInt8} {n : Nat} (same : n = b.toNat) : UInt8.ofNat n = b := by
  rw [same, UInt8.ofNat_toNat]

private theorem toNat_lt (b : UInt8) : b.toNat < 256 := b.toNat_lt

/-- Decoding gives back the bytes. -/
theorem decode_encode (bytes : List UInt8) : decode (encode bytes) = some bytes := by
  induction bytes using encode.induct with
  | case1 => rfl
  | case2 a =>
    have small := toNat_lt a
    have high : a.toNat / 4 < 64 := by omega
    have low : a.toNat % 4 * 16 < 64 := by omega
    have closed : a.toNat % 4 * 16 % 16 = 0 := by omega
    simp only [encode, decode, value_symbol high, value_symbol low, Option.bind_eq_bind, Option.bind_some, closed,
      ↓reduceIte]
    rw [ofNat_eq (b := a) (by omega)]
  | case3 a b =>
    have smallA := toNat_lt a
    have smallB := toNat_lt b
    have first : a.toNat / 4 < 64 := by omega
    have second : a.toNat % 4 * 16 + b.toNat / 16 < 64 := by omega
    have third : b.toNat % 16 * 4 < 64 := by omega
    have closed : b.toNat % 16 * 4 % 4 = 0 := by omega
    simp only [encode, decode, value_symbol first, value_symbol second, value_symbol third, Option.bind_eq_bind,
      Option.bind_some, closed, ↓reduceIte]
    rw [ofNat_eq (b := a) (by omega), ofNat_eq (b := b) (by omega)]
  | case4 a b c rest ih =>
    have smallA := toNat_lt a
    have smallB := toNat_lt b
    have smallC := toNat_lt c
    have first : a.toNat / 4 < 64 := by omega
    have second : a.toNat % 4 * 16 + b.toNat / 16 < 64 := by omega
    have third : b.toNat % 16 * 4 + c.toNat / 64 < 64 := by omega
    have fourth : c.toNat % 64 < 64 := by omega
    simp only [encode, decode, value_symbol first, value_symbol second, value_symbol third, value_symbol fourth,
      Option.bind_eq_bind, Option.bind_some, ih]
    rw [ofNat_eq (b := a) (by omega), ofNat_eq (b := b) (by omega), ofNat_eq (b := c) (by omega)]

theorem isSymbol_of_mem_encode {bytes : List UInt8} {c : Char} (listed : c ∈ encode bytes) : IsSymbol c := by
  induction bytes using encode.induct with
  | case1 => cases listed
  | case2 a =>
    have small := toNat_lt a
    simp only [encode, List.mem_cons, List.not_mem_nil, or_false] at listed
    rcases listed with rfl | rfl <;> exact isSymbol_symbol (by omega)
  | case3 a b =>
    have smallA := toNat_lt a
    have smallB := toNat_lt b
    simp only [encode, List.mem_cons, List.not_mem_nil, or_false] at listed
    rcases listed with rfl | rfl | rfl <;> exact isSymbol_symbol (by omega)
  | case4 a b c' rest ih =>
    have smallA := toNat_lt a
    have smallB := toNat_lt b
    have smallC := toNat_lt c'
    simp only [encode, List.mem_cons] at listed
    rcases listed with rfl | rfl | rfl | rfl | later
    · exact isSymbol_symbol (by omega)
    · exact isSymbol_symbol (by omega)
    · exact isSymbol_symbol (by omega)
    · exact isSymbol_symbol (by omega)
    · exact ih later

theorem dot_not_mem_encode (bytes : List UInt8) : '.' ∉ encode bytes := by
  intro listed
  have symbol := isSymbol_of_mem_encode listed
  revert symbol
  decide

theorem isSymbol_of_value {c : Char} {n : Nat} (is : value c = some n) : IsSymbol c := by
  unfold value at is
  have alphanum : ∀ {low high : Nat}, (low = 65 ∧ high = 90) ∨ (low = 97 ∧ high = 122) ∨ (low = 48 ∧ high = 57) →
      low ≤ c.toNat ∧ c.toNat ≤ high → c.isAlphanum = true := by
    intro low high range inside
    simp only [Char.isAlphanum, Char.isAlpha, Char.isUpper, Char.isLower, Char.isDigit, Bool.or_eq_true, Bool.and_eq_true,
      decide_eq_true_eq, UInt32.le_iff_toNat_le]
    change (65 ≤ c.toNat ∧ c.toNat ≤ 90 ∨ 97 ≤ c.toNat ∧ c.toNat ≤ 122) ∨ 48 ≤ c.toNat ∧ c.toNat ≤ 57
    omega
  split at is
  · rename_i upper
    exact .inl (alphanum (.inl ⟨rfl, rfl⟩) upper)
  · split at is
    · rename_i lower
      exact .inl (alphanum (.inr (.inl ⟨rfl, rfl⟩)) lower)
    · split at is
      · rename_i digit
        exact .inl (alphanum (.inr (.inr ⟨rfl, rfl⟩)) digit)
      · split at is
        · rename_i hyphen
          exact .inr (.inl hyphen)
        · split at is
          · rename_i underscore
            exact .inr (.inr underscore)
          · cases is

/-- Decoding takes symbols only. -/
theorem isSymbol_of_decode {text : List Char} {bytes : List UInt8} (decoded : decode text = some bytes) {c : Char}
    (listed : c ∈ text) : IsSymbol c := by
  induction text using decode.induct generalizing bytes with
  | case1 => cases listed
  | case2 a => cases decoded
  | case3 w x =>
    simp only [decode, Option.bind_eq_bind, Option.bind_eq_some_iff] at decoded
    obtain ⟨i, first, j, second, -⟩ := decoded
    simp only [List.mem_cons, List.not_mem_nil, or_false] at listed
    rcases listed with rfl | rfl
    · exact isSymbol_of_value first
    · exact isSymbol_of_value second
  | case4 w x y =>
    simp only [decode, Option.bind_eq_bind, Option.bind_eq_some_iff] at decoded
    obtain ⟨i, first, j, second, k, third, -⟩ := decoded
    simp only [List.mem_cons, List.not_mem_nil, or_false] at listed
    rcases listed with rfl | rfl | rfl
    · exact isSymbol_of_value first
    · exact isSymbol_of_value second
    · exact isSymbol_of_value third
  | case5 w x y z rest ih =>
    simp only [decode, Option.bind_eq_bind, Option.bind_eq_some_iff] at decoded
    obtain ⟨i, first, j, second, k, third, l, fourth, rest_bytes, others, -⟩ := decoded
    simp only [List.mem_cons] at listed
    rcases listed with rfl | rfl | rfl | rfl | later
    · exact isSymbol_of_value first
    · exact isSymbol_of_value second
    · exact isSymbol_of_value third
    · exact isSymbol_of_value fourth
    · exact ih others later

end RustOp.Base64
