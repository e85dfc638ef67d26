import Mathlib

/-!
The proleptic Gregorian calendar: its dates, and the number of days before each
of them. Dates follow each other as their numbers do.
-/
namespace RustOp.Gregorian

/-- Every fourth year, and of the centuries every fourth one. -/
def IsLeap (y : Nat) : Prop := y % 4 = 0 ∧ (y % 100 = 0 → y % 400 = 0)

instance : DecidablePred IsLeap := fun y => by unfold IsLeap; infer_instance

def year_length (y : Nat) : Nat := if IsLeap y then 366 else 365

def month_length (y m : Nat) : Nat :=
  if m = 2 then (if IsLeap y then 29 else 28)
  else if m ∈ [4, 6, 9, 11] then 30 else 31

theorem month_length_le (y m : Nat) : month_length y m ≤ 31 := by
  unfold month_length
  split_ifs <;> decide

/-- A day of the calendar. -/
@[ext] structure Date where
  year : Nat
  month : Nat
  day : Nat
  is_month : 1 ≤ month ∧ month ≤ 12
  is_day : 1 ≤ day ∧ day ≤ month_length year month
deriving DecidableEq, Repr

def days_before_year (y : Nat) : Nat := ∑ i ∈ Finset.range y, year_length i
def days_before_month (y m : Nat) : Nat := ∑ i ∈ Finset.Ico 1 m, month_length y i

/-- The days from the beginning of the year 0 to a date. -/
def Date.number (date : Date) : Nat :=
  days_before_year date.year + days_before_month date.year date.month + (date.day - 1)

/-- One date is earlier than another. -/
def Date.Before (a b : Date) : Prop :=
  a.year < b.year ∨ a.year = b.year ∧ (a.month < b.month ∨ a.month = b.month ∧ a.day < b.day)

/-! ### Years -/

theorem days_before_year_succ (y : Nat) : days_before_year (y + 1) = days_before_year y + year_length y :=
  Finset.sum_range_succ year_length y

theorem days_before_year_eq (y : Nat) : days_before_year y + (y + 99) / 100 = 365 * y + (y + 3) / 4 + (y + 399) / 400 := by
  induction y with
  | zero => rfl
  | succ y ih =>
    have leap : year_length y = 365 + ((y + 4) / 4 - (y + 3) / 4) + ((y + 400) / 400 - (y + 399) / 400) -
        ((y + 100) / 100 - (y + 99) / 100) := by
      unfold year_length
      by_cases leap : IsLeap y
      · obtain ⟨fourth, century⟩ := leap
        rw [if_pos ⟨fourth, century⟩]
        omega
      · rw [if_neg leap]
        unfold IsLeap at leap
        omega
    rw [days_before_year_succ, leap]
    omega

/-- The years repeat every four centuries. -/
theorem isLeap_add_era (y era : Nat) : IsLeap (y + era * 400) ↔ IsLeap y := by
  unfold IsLeap
  rw [show (y + era * 400) % 4 = y % 4 by omega, show (y + era * 400) % 100 = y % 100 by omega,
    show (y + era * 400) % 400 = y % 400 by omega]

theorem year_length_add_era (y era : Nat) : year_length (y + era * 400) = year_length y := by
  simp only [year_length, isLeap_add_era]

theorem days_before_year_mono {y z : Nat} (le : y ≤ z) : days_before_year y ≤ days_before_year z :=
  Finset.sum_le_sum_of_subset (Finset.range_mono le)

/-! ### Months -/

theorem days_before_month_succ (y : Nat) {m : Nat} (some : 1 ≤ m) :
    days_before_month y (m + 1) = days_before_month y m + month_length y m :=
  Finset.sum_Ico_succ_top some (month_length y)

theorem days_before_month_mono (y : Nat) {m n : Nat} (le : m ≤ n) : days_before_month y m ≤ days_before_month y n :=
  Finset.sum_le_sum_of_subset (Finset.Ico_subset_Ico le_rfl le)

/-- Counted from March on, the months alternate in their lengths. -/
theorem days_before_month_eq (y : Nat) {m : Nat} (march : 3 ≤ m) (december : m ≤ 13) :
    days_before_month y m + 306 = year_length y + (153 * (m - 3) + 2) / 5 := by
  have months : ∀ n ≤ 10, days_before_month y (n + 3) + 306 = year_length y + (153 * n + 2) / 5 := by
    intro n few
    induction n with
    | zero =>
      rw [days_before_month_succ y (by omega), days_before_month_succ y (by omega)]
      simp [days_before_month, month_length, year_length]
      split <;> rfl
    | succ n ih =>
      have before := ih (by omega)
      rw [show n + 1 + 3 = n + 3 + 1 by omega, days_before_month_succ y (by omega)]
      have length : month_length y (n + 3) = (153 * (n + 1) + 2) / 5 - (153 * n + 2) / 5 := by
        have small : n < 10 := by omega
        interval_cases n <;> rfl
      omega
  have found := months (m - 3) (by omega)
  rwa [Nat.sub_add_cancel march] at found

theorem days_before_month_13 (y : Nat) : days_before_month y 13 = year_length y := by
  have all := days_before_month_eq y (m := 13) (by omega) le_rfl
  omega

theorem days_before_february (y : Nat) : days_before_month y 2 = 31 := by
  rw [days_before_month_succ y le_rfl]
  simp [days_before_month, month_length]

/-! ### The order of dates -/

namespace Date
variable {a b : Date}

theorem before_month_end (a : Date) :
    days_before_month a.year a.month + (a.day - 1) < days_before_month a.year (a.month + 1) := by
  have day := a.is_day
  rw [days_before_month_succ _ a.is_month.1]
  omega

theorem before_year_end (a : Date) : a.number < days_before_year (a.year + 1) := by
  have inside := a.before_month_end
  have months := days_before_month_mono a.year (m := a.month + 1) (n := 13) (by have := a.is_month.2; omega)
  rw [days_before_month_13] at months
  rw [number, days_before_year_succ]
  omega

/-- An earlier date has a smaller number. -/
theorem Before.number_lt (before : a.Before b) : a.number < b.number := by
  rcases before with year | ⟨year, month | ⟨month, day⟩⟩
  · have years := days_before_year_mono (y := a.year + 1) (z := b.year) (by omega)
    have inside := a.before_year_end
    unfold number at *
    omega
  · have months := days_before_month_mono b.year (m := a.month + 1) (n := b.month) (by omega)
    have inside := a.before_month_end
    rw [year] at inside
    unfold number
    rw [year]
    omega
  · have first := a.is_day.1
    unfold number
    rw [year, month]
    omega

theorem before_total (a b : Date) : a.Before b ∨ a = b ∨ b.Before a := by
  by_cases same : a = b
  · exact .inr (.inl same)
  · have different : ¬ (a.year = b.year ∧ a.month = b.month ∧ a.day = b.day) :=
      fun ⟨year, month, day⟩ => same (Date.ext year month day)
    unfold Before
    omega

theorem number_lt_iff : a.number < b.number ↔ a.Before b := by
  constructor
  · intro less
    rcases a.before_total b with before | rfl | after
    · exact before
    · exact absurd less (lt_irrefl _)
    · exact absurd after.number_lt (by omega)
  · exact Before.number_lt

theorem number_inj (same : a.number = b.number) : a = b := by
  rcases a.before_total b with before | equal | after
  · exact absurd before.number_lt (by omega)
  · exact equal
  · exact absurd after.number_lt (by omega)

end Date
end RustOp.Gregorian
