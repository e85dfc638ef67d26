import Mathlib

/-!
Numbers written in a base, the highest digit first, as they are read by going
over the digits once.
-/
namespace RustOp.Positional

variable {α : Type} (base : Nat) (digit : α → Nat)

/-- The number that digits write. -/
def value (digits : List α) : Nat := digits.foldl (fun n x => n * base + digit x) 0

/-- Reading on from a number puts it in front. -/
theorem foldl_eq (digits : List α) (n : Nat) :
    digits.foldl (fun n x => n * base + digit x) n = n * base ^ digits.length + value base digit digits := by
  induction digits generalizing n with
  | nil => simp [value]
  | cons x digits ih =>
    have head : value base digit (x :: digits) = digit x * base ^ digits.length + value base digit digits := by
      rw [value, List.foldl_cons, ih, Nat.zero_mul, Nat.zero_add]
    rw [List.foldl_cons, ih, head, List.length_cons, pow_succ']
    ring

theorem value_append (digits digits' : List α) :
    value base digit (digits ++ digits') = value base digit digits * base ^ digits'.length + value base digit digits' := by
  rw [value, List.foldl_append, foldl_eq]
  rfl

theorem value_cons (x : α) (digits : List α) :
    value base digit (x :: digits) = digit x * base ^ digits.length + value base digit digits := by
  rw [value, List.foldl_cons, foldl_eq, Nat.zero_mul, Nat.zero_add]

variable {base digit}

/-- Digits below the base write a number below its power. -/
theorem value_lt {digits : List α} (below : ∀ x ∈ digits, digit x < base) : value base digit digits < base ^ digits.length := by
  induction digits with
  | nil => simp [value]
  | cons x digits ih =>
    have first : digit x + 1 ≤ base := below x (by simp)
    rw [value_cons, List.length_cons, pow_succ']
    calc digit x * base ^ digits.length + value base digit digits
        < digit x * base ^ digits.length + base ^ digits.length := by
          exact Nat.add_lt_add_left (ih fun x listed => below x (by simp [listed])) _
      _ = (digit x + 1) * base ^ digits.length := by ring
      _ ≤ base * base ^ digits.length := Nat.mul_le_mul_right _ first

theorem value_zeros {digits : List α} (zeros : ∀ x ∈ digits, digit x = 0) : value base digit digits = 0 := by
  induction digits with
  | nil => rfl
  | cons x digits ih =>
    rw [value_cons, zeros x (by simp), ih fun x listed => zeros x (by simp [listed]), Nat.zero_mul]

/-- What the decimal digits stand for is below ten. -/
theorem decimal_digit_lt {c : Char} (digit : c.isDigit = true) : c.toNat - '0'.toNat < 10 := by
  simp only [Char.isDigit, Bool.and_eq_true, decide_eq_true_eq, UInt32.le_iff_toNat_le] at digit
  have high : c.toNat ≤ 57 := digit.2
  have zero : '0'.toNat = 48 := rfl
  omega

end RustOp.Positional
