import RustOp.Gregorian
import RustOp.Firestore.Timestamp

/-!
Timestamps as dates. What is printed for a second is its day in the calendar, and
texts are ordered as the seconds that they stand for.
-/
namespace RustOp.Firestore
open Gregorian

/-- The day that days are counted from. -/
def epoch : Date := ⟨1970, 1, 1, by decide, by decide⟩

theorem epoch_number : epoch.number = 719528 := by
  have years := days_before_year_eq 1970
  simp only [Date.number, epoch, days_before_month, Finset.Ico_self, Finset.sum_empty]
  omega

/-! ### Days -/

/-- March begins a number of days before the end of the year. -/
private theorem year_before_month (y : Nat) {n : Nat} (december : n ≤ 10) :
    days_before_year y + days_before_month y (n + 3) + 306 = days_before_year (y + 1) + (153 * n + 2) / 5 := by
  have months := days_before_month_eq y (m := n + 3) (by omega) (by omega)
  rw [Nat.add_sub_cancel] at months
  rw [days_before_year_succ]
  omega

private theorem from_march {start y m d : Nat} (years : days_before_year (y + 1) + d = start + 306) (march : m < 10)
    (date : m = (5 * d + 2) / 153) : ∃ date : Date, date.year = y ∧ date.month = m + 3 ∧ date.day = d - (153 * m + 2) / 5 + 1 ∧
      date.number = start := by
  have begins := year_before_month y (n := m) (by omega)
  have ends := year_before_month y (n := m + 1) (by omega)
  have length := days_before_month_succ y (m := m + 3) (by omega)
  rw [show m + 1 + 3 = m + 3 + 1 by omega] at ends
  have is_day : 1 ≤ d - (153 * m + 2) / 5 + 1 ∧ d - (153 * m + 2) / 5 + 1 ≤ month_length y (m + 3) := by omega
  refine ⟨⟨y, m + 3, d - (153 * m + 2) / 5 + 1, by omega, is_day⟩, rfl, rfl, rfl, ?_⟩
  simp only [Date.number]
  omega

private theorem to_march {start y m d : Nat} (years : days_before_year y + d = start + 306) (inside : d < year_length y)
    (january : 10 ≤ m) (date : m = (5 * d + 2) / 153) : ∃ date : Date, date.year = y ∧ date.month = m - 9 ∧
      date.day = d - (153 * m + 2) / 5 + 1 ∧ date.number = start := by
  have length : year_length y ≤ 366 := by
    unfold year_length
    split <;> omega
  obtain rfl | rfl : m = 10 ∨ m = 11 := by omega
  · have is_day : 1 ≤ d - 306 + 1 ∧ d - 306 + 1 ≤ month_length y 1 := by
      have days : month_length y 1 = 31 := rfl
      omega
    refine ⟨⟨y, 1, d - 306 + 1, by omega, is_day⟩, rfl, rfl, rfl, ?_⟩
    simp only [Date.number, days_before_month, Finset.Ico_self, Finset.sum_empty]
    omega
  · have is_day : 1 ≤ d - 337 + 1 ∧ d - 337 + 1 ≤ month_length y 2 := by
      have days : month_length y 2 + 337 = year_length y := by
        unfold month_length year_length
        by_cases leap : IsLeap y
        · simp [leap]
        · simp [leap]
      omega
    refine ⟨⟨y, 2, d - 337 + 1, by omega, is_day⟩, rfl, rfl, rfl, ?_⟩
    simp only [Date.number, days_before_february]
    omega

/-- The days before the March of a year, counted by eras. -/
private theorem days_before_era (era : Nat) {yoe : Nat} (inEra : yoe < 400) :
    days_before_year (yoe + era * 400 + 1) = 366 + era * 146097 + (365 * yoe + yoe / 4 - yoe / 100) := by
  have closed := days_before_year_eq (yoe + era * 400 + 1)
  have centuries : (yoe + era * 400 + 1 + 99) / 100 = yoe / 100 + era * 4 + 1 := by omega
  have fourths : (yoe + era * 400 + 1 + 3) / 4 = yoe / 4 + era * 100 + 1 := by omega
  have eras : (yoe + era * 400 + 1 + 399) / 400 = era + 1 := by omega
  rw [centuries, fourths, eras] at closed
  omega

private theorem days_within_era (era : Nat) {yoe : Nat} (inEra : yoe < 400) :
    365 * (yoe + 1) + (yoe + 1) / 4 - (yoe + 1) / 100 + (yoe + 1) / 400 =
      365 * yoe + yoe / 4 - yoe / 100 + year_length (yoe + era * 400 + 1) := by
  have length : year_length (yoe + era * 400 + 1) = year_length (yoe + 1) := by
    rw [Nat.add_right_comm, year_length_add_era]
  have first := days_before_year_eq (yoe + 1)
  have last := days_before_year_eq (yoe + 1 + 1)
  rw [days_before_year_succ] at last
  rw [length]
  omega

/-- The date of a day is the one with its number. -/
theorem civil_from_days_date (days : Nat) : ∃ date : Date,
    civil_from_days days = ((date.year : Int), date.month, date.day) ∧ date.number = epoch.number + days := by
  obtain ⟨era, yoe, doy, mp, whole, inEra, inside, -, month, found⟩ := civil_from_days_spec days
  have first := days_before_era era inEra
  have years : days_before_year (yoe + era * 400 + 1) + doy = epoch.number + days + 306 := by
    rw [epoch_number]
    omega
  rw [found]
  by_cases march : mp < 10
  · obtain ⟨date, year, month, day, number⟩ := from_march years march month
    refine ⟨date, ?_, number⟩
    rw [if_pos march, if_pos march, year, month, day]
  · have short : doy < year_length (yoe + era * 400 + 1) := by
      rw [days_within_era era inEra] at inside
      omega
    obtain ⟨date, year, month, day, number⟩ := to_march years short (by omega) month
    refine ⟨date, ?_, number⟩
    rw [if_neg march, if_neg march, year, month, day]

/-! ### The order of texts -/

private theorem digit_lt {a b : Nat} (less : a % 10 < b % 10) : digit a < digit b := by
  have all : ∀ i < 10, ∀ j < 10, i < j → Nat.digitChar i < Nat.digitChar j := by decide
  exact all _ (Nat.mod_lt _ (by decide)) _ (Nat.mod_lt _ (by decide)) less

/-- Numbers of one width are ordered as their digits, whatever follows them. -/
theorem padded_lt {width a b : Nat} (less : a < b) (fits : b < 10 ^ width) (x y : List Char) :
    padded width a ++ x < padded width b ++ y := by
  induction width generalizing a b x y with
  | zero =>
    rw [pow_zero] at fits
    omega
  | succ width ih =>
    rw [pow_succ] at fits
    by_cases one : width = 0
    · subst one
      have single : ∀ n < 10, padded 1 n = [digit n] := by
        intro n small
        rw [padded, Nat.toDigits_of_lt_base small, digit, Nat.mod_eq_of_lt small]
        rfl
      rw [single a (by omega), single b (by omega)]
      exact List.cons_lt_cons_iff.mpr (.inl (digit_lt (by omega)))
    · rw [padded_succ (by omega), padded_succ (by omega), List.append_assoc, List.append_assoc]
      by_cases tens : a / 10 < b / 10
      · exact ih tens (by omega) _ _
      · rw [show a / 10 = b / 10 by omega]
        exact List.append_left_lt (List.cons_lt_cons_iff.mpr (.inl (digit_lt (by omega))))

/-- What a date and what follows it look like. -/
def date_text (date : Date) (rest : List Char) : List Char :=
  padded 4 date.year ++ '-' :: (padded 2 date.month ++ '-' :: (padded 2 date.day ++ 'T' :: rest))

def clock_text (rem : Nat) : List Char :=
  padded 2 (rem / 3600) ++ ':' :: (padded 2 (rem % 3600 / 60) ++ ':' :: (padded 2 (rem % 60) ++ ['Z']))

private theorem behind_lt {p x y : List Char} (c : Char) (less : x < y) : p ++ c :: x < p ++ c :: y :=
  List.append_left_lt (List.cons_lt_cons_iff.mpr (.inr ⟨rfl, less⟩))

theorem date_text_lt {a b : Date} (before : a.Before b) (fits : b.year < 10000) (x y : List Char) :
    date_text a x < date_text b y := by
  have month := b.is_month
  have day := b.is_day
  have short : month_length b.year b.month ≤ 31 := month_length_le _ _
  unfold date_text
  rcases before with year | ⟨year, earlier | ⟨same, earlier⟩⟩
  · exact padded_lt year fits _ _
  · rw [year]
    exact behind_lt _ (padded_lt earlier (by omega) _ _)
  · rw [year, same]
    exact behind_lt _ (behind_lt _ (padded_lt earlier (by omega) _ _))

theorem date_text_append_lt (date : Date) {x y : List Char} (less : x < y) : date_text date x < date_text date y :=
  behind_lt _ (behind_lt _ (behind_lt _ less))

theorem clock_text_lt {a b : Nat} (less : a < b) (day : b < 86400) : clock_text a < clock_text b := by
  unfold clock_text
  by_cases hours : a / 3600 < b / 3600
  · exact padded_lt hours (by omega) _ _
  · rw [show a / 3600 = b / 3600 by omega]
    apply behind_lt
    by_cases minutes : a % 3600 / 60 < b % 3600 / 60
    · exact padded_lt minutes (by omega) _ _
    · rw [show a % 3600 / 60 = b % 3600 / 60 by omega]
      exact behind_lt _ (padded_lt (by omega) (by omega) _ _)

/-! ### The codec -/

/-- The text of a second is that of its date and its time of day. -/
theorem rfc3339_text_of_date (t : Nat) : ∃ date : Date, date.number = epoch.number + t / 86400 ∧
    (rfc3339 t).toList = date_text date (clock_text (t % 86400)) := by
  obtain ⟨date, found, number⟩ := civil_from_days_date (t / 86400)
  refine ⟨date, number, ?_⟩
  unfold rfc3339
  simp only [found, Int.toNat_natCast, String.toList_ofList, date_text, clock_text, List.append_assoc, List.cons_append]

theorem year_of_early {t : Nat} (early : t < YEAR_10000) {date : Date} (number : date.number = epoch.number + t / 86400) :
    date.year < 10000 := by
  obtain ⟨y, m, d, found, small, -, -⟩ := @civil_from_days_range (t / 86400) (by omega)
  obtain ⟨date', found', number'⟩ := civil_from_days_date (t / 86400)
  obtain rfl := Date.number_inj (number.trans number'.symm)
  have year : (y : Int) = date.year := congrArg Prod.fst (found.symm.trans found')
  omega

/-- Up to the year 9999 a text stands for its second, shows its date, and comes
    before the texts of later seconds. -/
theorem rfc3339_codec {t : Nat} (early : t < YEAR_10000) :
    parse_rfc3339_secs (rfc3339 t) = some t ∧
    (∃ date : Date, date.number = epoch.number + t / 86400 ∧ ∃ rest, (rfc3339 t).toList =
      padded 4 date.year ++ '-' :: (padded 2 date.month ++ '-' :: (padded 2 date.day ++ 'T' :: rest))) ∧
    ∀ s < t, rfc3339 s < rfc3339 t := by
  obtain ⟨date, number, text⟩ := rfc3339_text_of_date t
  refine ⟨parse_rfc3339 early, ⟨date, number, _, text⟩, fun s less => ?_⟩
  obtain ⟨date', number', text'⟩ := rfc3339_text_of_date s
  rw [String.lt_iff, text, text']
  by_cases day : s / 86400 < t / 86400
  · have before : date'.Before date := Date.number_lt_iff.mp (by omega)
    exact date_text_lt before (year_of_early early number) _ _
  · have same : s / 86400 = t / 86400 := by omega
    obtain rfl : date' = date := Date.number_inj (by rw [number', number, same])
    exact date_text_append_lt _ (clock_text_lt (by omega) (Nat.mod_lt _ (by decide)))

theorem rfc3339_codec_2023 :
    parse_rfc3339_secs (rfc3339 1700000000) = some 1700000000 ∧
    (∃ date : Date, date.number = epoch.number + 1700000000 / 86400 ∧ ∃ rest, (rfc3339 1700000000).toList =
      padded 4 date.year ++ '-' :: (padded 2 date.month ++ '-' :: (padded 2 date.day ++ 'T' :: rest))) ∧
    ∀ s < 1700000000, rfc3339 s < rfc3339 1700000000 :=
  rfc3339_codec (by decide)

end RustOp.Firestore
