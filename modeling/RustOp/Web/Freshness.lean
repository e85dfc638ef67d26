import RustOp.Web.Jws

/-!
The time of a DPoP proof in 64 bits. The source subtracts it from the clock and
takes the absolute value, and a proof may name any time that 64 bits hold.
-/
namespace RustOp.Web.Es256Dpop
open RustOp.Effects

/-- The values of `i64`. -/
def Fits (n : Int) : Prop := -2 ^ 63 ≤ n ∧ n < 2 ^ 63

instance (n : Int) : Decidable (Fits n) := inferInstanceAs (Decidable (_ ∧ _))

/-- The result of an operation where overflow is checked; without one it panics. -/
def checked (n : Int) : Option Int := if Fits n then some n else none

/-- The result of an operation where overflow is not checked. -/
def wrapped (n : Int) : Int := n.bmod (2 ^ 64)

/-- `(now_secs() - iat).abs() > IAT_SKEW_SECS` -/
def out_of_window_checked (now iat : Int) : Option Bool := do
  let difference ← checked (now - iat)
  let distance ← checked |difference|
  return distance > IAT_SKEW_SECS

/-- The same in a release build. -/
def out_of_window (now iat : Int) : Bool := wrapped |wrapped (now - iat)| > IAT_SKEW_SECS

/-- The check does not overflow, in either build, and is that of the distance. -/
def ExactWindow (now iat : Int) : Prop :=
  ∃ out, out_of_window_checked now iat = some out ∧ out_of_window now iat = out ∧ (out = false ↔ |now - iat| ≤ 60)

section window
variable {now iat : Int}

theorem checked_eq_some {n m : Int} : checked n = some m ↔ Fits n ∧ n = m := by
  unfold checked
  by_cases fits : Fits n <;> simp [fits]

theorem wrapped_of_fits {n : Int} (fits : Fits n) : wrapped n = n := by
  obtain ⟨low, high⟩ := fits
  unfold wrapped
  exact Int.bmod_eq_of_le_mul_two (by omega) (by omega)

/-- The distance fits where the difference does, the least value apart. -/
theorem abs_fits {n : Int} (fits : Fits n) (least : n ≠ -2 ^ 63) : Fits |n| := by
  obtain ⟨low, high⟩ := fits
  constructor <;> rcases abs_cases n with ⟨same, -⟩ | ⟨same, -⟩ <;> omega

theorem get_i64_fits {j : Json} {name : String} {n : Int} (claimed : j.get_i64 name = some n) : Fits n := by
  obtain ⟨v, -, is⟩ := Option.bind_eq_some_iff.mp claimed
  cases v with
  | num m =>
    rw [Json.as_i64] at is
    split at is
    · rename_i fits
      cases is
      unfold Fits
      omega
    · cases is
  | _ => cases is

/-- For these clocks the difference fits from one time on. -/
theorem difference_fits_iff (clock : 0 ≤ now) (early : now < 2 ^ 40) (fits : Fits iat) :
    Fits (now - iat) ↔ now - 2 ^ 63 < iat := by
  obtain ⟨low, high⟩ := fits
  unfold Fits
  constructor
  · rintro ⟨-, small⟩
    omega
  · intro late
    constructor <;> omega

/-- Where the difference fits, both builds answer alike. -/
theorem exactWindow_of_fits (clock : 0 ≤ now) (fits : Fits iat) (difference : Fits (now - iat)) : ExactWindow now iat := by
  have distance : Fits |now - iat| := by
    apply abs_fits difference
    intro least
    obtain ⟨-, high⟩ := fits
    omega
  refine ⟨decide (|now - iat| > IAT_SKEW_SECS), ?_, ?_, ?_⟩
  · simp [out_of_window_checked, checked, difference, distance]
  · rw [out_of_window, wrapped_of_fits difference, wrapped_of_fits distance]
  · simp [IAT_SKEW_SECS]

/-- The check takes the distance in 64 bits exactly of proofs that do not name a time
    too far in the past for that. -/
theorem window_exact_iff {payload : Json} (clock : 0 ≤ now) (early : now < 2 ^ 40) (claimed : payload.get_i64 "iat" = some iat) :
    ExactWindow now iat ↔ now - 2 ^ 63 < iat := by
  have fits := get_i64_fits claimed
  rw [← difference_fits_iff clock early fits]
  constructor
  · rintro ⟨out, evaluates, -⟩
    obtain ⟨d, difference, -⟩ := Option.bind_eq_some_iff.mp evaluates
    exact (checked_eq_some.mp difference).1
  · exact exactWindow_of_fits clock fits

theorem window_exact_recent : ExactWindow 1800000030 1800000000 ↔ (1800000030 : Int) - 2 ^ 63 < 1800000000 := by
  have claimed : (Json.obj [("iat", .num 1800000000)]).get_i64 "iat" = some 1800000000 := by decide
  exact window_exact_iff (by decide) (by decide) claimed

/-- A release build lets one such time pass. -/
theorem window_overflows :
    (Json.obj [("iat", .num (1800000000 - 2 ^ 63))]).get_i64 "iat" = some (1800000000 - 2 ^ 63) ∧
    out_of_window_checked 1800000000 (1800000000 - 2 ^ 63) = none ∧
    out_of_window 1800000000 (1800000000 - 2 ^ 63) = false ∧ ¬ ExactWindow 1800000000 (1800000000 - 2 ^ 63) := by
  have overflows : out_of_window_checked 1800000000 (1800000000 - 2 ^ 63) = none := by decide
  refine ⟨by decide, overflows, by decide, ?_⟩
  rintro ⟨out, evaluates, -⟩
  rw [overflows] at evaluates
  cases evaluates

/-- One time apart, a release build refuses the proofs that are too far from the
    clock, those whose distance overflows among them. -/
theorem out_of_window_iff (clock : 0 ≤ now) (early : now < 2 ^ 40) (fits : Fits iat) (other : iat ≠ now - 2 ^ 63) :
    out_of_window now iat = true ↔ |now - iat| > IAT_SKEW_SECS := by
  by_cases difference : Fits (now - iat)
  · obtain ⟨out, -, rfl, exact_⟩ := exactWindow_of_fits clock fits difference
    rw [← Bool.not_eq_false, exact_, not_le]
    rfl
  · have past : iat < now - 2 ^ 63 := by
      have overflows := mt (difference_fits_iff clock early fits).mpr difference
      omega
    obtain ⟨low, -⟩ := fits
    have around : wrapped (now - iat) = now - iat - 2 ^ 64 := by
      have turn : wrapped (now - iat) = wrapped (now - iat - 2 ^ 64) := (Int.sub_bmod_right _ (2 ^ 64)).symm
      rw [turn]
      apply wrapped_of_fits
      constructor <;> omega
    have distance : |now - iat - 2 ^ 64| = 2 ^ 64 - (now - iat) := by
      rw [abs_of_nonpos (by omega)]
      omega
    have small : Fits (2 ^ 64 - (now - iat)) := by
      constructor <;> omega
    rw [out_of_window, around, distance, wrapped_of_fits small, decide_eq_true_eq, abs_of_nonneg (by omega), IAT_SKEW_SECS]
    constructor <;> intro <;> omega

/-- The check of a verification is the one of a release build, that time apart. -/
theorem fresh_refuses_iff {payload : Json} {expected_ath : Option String} (clock : 0 ≤ now) (early : now < 2 ^ 40)
    (fits : Fits iat) (other : iat ≠ now - 2 ^ 63) :
    fresh payload iat now expected_ath = .error "iat out of window" ↔ out_of_window now iat = true := by
  rw [out_of_window_iff clock early fits other]
  unfold fresh
  constructor
  · intro refused
    by_contra near
    rw [refuse, if_neg near] at refused
    by_cases bound : expected_ath.isSome ∧ payload.get_str "ath" ≠ expected_ath
    · rw [refuse, if_pos bound] at refused
      simp [bind, Except.bind] at refused
    · rw [refuse, if_neg bound] at refused
      cases named : payload.get_str "jti" <;> simp [named, ok_or, bind, Except.bind] at refused
  · intro far
    rw [refuse, if_pos far]
    rfl

end window
end RustOp.Web.Es256Dpop
