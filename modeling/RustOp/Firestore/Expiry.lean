import RustOp.Firestore.Dates
import RustOp.Positional

/-!
What the timestamp parser makes of any text. Numbers are cut out at fixed offsets
and are not looked at any further, so that not every text that is no timestamp
is read as 0.
-/
namespace RustOp.Firestore
open Gregorian

/-! ### The numbers of a text -/

/-- The number between two bytes, 0 if there is none; nothing if a character is cut. -/
def num (s : String) (a b : Nat) : Option Int := do
  let rest ← dropBytes a s.toList
  let part ← takeBytes (b - a) rest
  some ((parse_i64 part).getD 0)

/-- The six numbers that are read. -/
structure Numbers where
  y : Int
  mo : Int
  d : Int
  h : Int
  mi : Int
  sec : Int
deriving DecidableEq, Repr

def numbers (s : String) : Option Numbers := do
  return ⟨← num s 0 4, ← num s 5 7, ← num s 8 10, ← num s 11 13, ← num s 14 16, ← num s 17 19⟩

/-- The day of the numbers, counted from the epoch. -/
def Numbers.days (n : Numbers) : Int := days_from_civil n.y (as_u32 n.mo) (as_u32 n.d)

/-- The length in bytes. -/
def len (s : String) : Nat := (s.toList.map Char.utf8Size).sum

theorem parse_rfc3339_secs_eq (s : String) : parse_rfc3339_secs s =
    if len s < 19 then some 0
    else (numbers s).map fun n =>
      (as_u64 n.days * 86400 + as_u64 n.h * 3600 + as_u64 n.mi * 60 + as_u64 n.sec) % 2 ^ 64 := by
  unfold parse_rfc3339_secs numbers len num
  split
  · rfl
  · simp only [Option.bind_eq_bind, Option.map_bind, Option.pure_def, Function.comp_def, Option.map_some]
    rfl

/-! ### Overflow -/

/-- An unsigned result of a build with overflow checks. -/
def checked (n : Nat) : Option Nat := if n < 2 ^ 64 then some n else none

/-- The products and sums, one after the other. -/
def add_up (days hours minutes seconds : Nat) : Option Nat := do
  let days ← checked days
  let hours ← checked hours
  let sum ← checked (days + hours)
  let minutes ← checked minutes
  let sum ← checked (sum + minutes)
  checked (sum + seconds)

theorem add_up_eq_some {days hours minutes seconds t : Nat} :
    add_up days hours minutes seconds = some t ↔ t < 2 ^ 64 ∧ t = days + hours + minutes + seconds := by
  simp only [add_up, checked, Option.bind_eq_bind, Option.bind_eq_some_iff, Option.ite_none_right_eq_some, Option.some.injEq]
  constructor
  · rintro ⟨_, ⟨-, rfl⟩, _, ⟨-, rfl⟩, _, ⟨-, rfl⟩, _, ⟨-, rfl⟩, _, ⟨-, rfl⟩, fits, rfl⟩
    exact ⟨fits, rfl⟩
  · rintro ⟨fits, rfl⟩
    exact ⟨days, ⟨by omega, rfl⟩, hours, ⟨by omega, rfl⟩, days + hours, ⟨by omega, rfl⟩, minutes, ⟨by omega, rfl⟩,
      days + hours + minutes, ⟨by omega, rfl⟩, fits, rfl⟩

/-- The parser in a build with overflow checks; nothing if it panics. The day is
    counted in numbers too small to overflow. -/
def parse_rfc3339_checked (s : String) : Option Nat :=
  if len s < 19 then some 0
  else do
    let n ← numbers s
    add_up (as_u64 n.days * 86400) (as_u64 n.h * 3600) (as_u64 n.mi * 60) (as_u64 n.sec)

theorem parse_rfc3339_checked_eq_some {s : String} (long : 19 ≤ len s) {t : Nat} :
    parse_rfc3339_checked s = some t ↔ ∃ n, numbers s = some n ∧ t < 2 ^ 64 ∧
      t = as_u64 n.days * 86400 + as_u64 n.h * 3600 + as_u64 n.mi * 60 + as_u64 n.sec := by
  unfold parse_rfc3339_checked
  rw [if_neg (by omega), Option.bind_eq_bind, Option.bind_eq_some_iff]
  exact exists_congr fun n => and_congr_right fun _ => add_up_eq_some

/-- Without overflow every build gives the same. -/
theorem secs_of_checked {s : String} {t : Nat} (read : parse_rfc3339_checked s = some t) : parse_rfc3339_secs s = some t := by
  rw [parse_rfc3339_secs_eq]
  by_cases short : len s < 19
  · rw [parse_rfc3339_checked, if_pos short] at read
    rw [if_pos short, ← read]
  · obtain ⟨n, found, fits, sum⟩ := (parse_rfc3339_checked_eq_some (by omega)).mp read
    rw [if_neg short, found, Option.map_some, ← sum, Nat.mod_eq_of_lt fits]

/-! ### How large the numbers are -/

private theorem parse_digits_lt {cs : List Char} {n : Nat} (read : parse_digits cs = some n) : n < 10 ^ cs.length := by
  unfold parse_digits at read
  split at read
  · cases read
  · rename_i proper
    obtain rfl := Option.some.inj read
    have digits : ∀ c ∈ cs, c.isDigit = true := by
      simp only [Bool.or_eq_true, Bool.not_eq_true', not_or, Bool.not_eq_false] at proper
      exact List.all_eq_true.mp proper.2
    have bound : Positional.value 10 (fun c : Char => c.toNat - '0'.toNat) cs < 10 ^ cs.length :=
      Positional.value_lt fun c listed => Positional.decimal_digit_lt (digits c listed)
    simpa only [Positional.value, Nat.mul_comm] using bound

private theorem parse_i64_lt {cs : List Char} {x : Int} (read : parse_i64 cs = some x) : x.natAbs < 10 ^ cs.length := by
  have plain : ∀ {cs : List Char} {x : Int}, ((parse_digits cs).bind fun n => some (n : Int)) = some x → x.natAbs < 10 ^ cs.length := by
    intro cs x read
    obtain ⟨n, digits, is⟩ := Option.bind_eq_some_iff.mp read
    obtain rfl := Option.some.inj is
    exact parse_digits_lt digits
  have longer : ∀ (c : Char) (rest : List Char), 10 ^ rest.length ≤ 10 ^ (c :: rest).length :=
    fun c rest => Nat.pow_le_pow_right (by decide) (by simp)
  unfold parse_i64 at read
  split at read
  · obtain ⟨n, digits, rfl⟩ := Option.map_eq_some_iff.mp read
    rw [Int.natAbs_neg]
    exact (plain digits).trans_le (longer _ _)
  · obtain ⟨n, digits, rfl⟩ := Option.map_eq_some_iff.mp read
    exact (plain digits).trans_le (longer _ _)
  · obtain ⟨n, digits, rfl⟩ := Option.map_eq_some_iff.mp read
    exact plain digits

private theorem takeBytes_length {n : Nat} {cs part : List Char} (taken : takeBytes n cs = some part) : part.length ≤ n := by
  induction cs generalizing n part with
  | nil =>
    cases n with
    | zero =>
      obtain rfl := Option.some.inj taken
      exact le_rfl
    | succ n => cases taken
  | cons c cs ih =>
    cases n with
    | zero =>
      obtain rfl := Option.some.inj taken
      exact le_rfl
    | succ n =>
      rw [takeBytes] at taken
      split at taken
      · obtain ⟨rest, later, rfl⟩ := Option.map_eq_some_iff.mp taken
        have short := ih later
        have some := c.utf8Size_pos
        rw [List.length_cons]
        omega
      · cases taken

/-- A number has no more digits than bytes. -/
theorem num_lt {s : String} {a b : Nat} {x : Int} (read : num s a b = some x) : x.natAbs < 10 ^ (b - a) := by
  simp only [num, Option.bind_eq_bind, Option.bind_eq_some_iff] at read
  obtain ⟨rest, -, part, taken, is⟩ := read
  obtain rfl := Option.some.inj is
  cases number : parse_i64 part with
  | none => simp
  | some x => exact (parse_i64_lt number).trans_le (Nat.pow_le_pow_right (by decide) (takeBytes_length taken))

theorem days_from_civil_lt {y : Int} {m d : Nat} (year : y.natAbs < 10000) (month : m < 2 ^ 32) (day : d < 2 ^ 32) :
    (days_from_civil y m d).natAbs < 2 ^ 40 := by
  have divided : ∀ a k : Int, (a.tdiv k).natAbs ≤ a.natAbs := by
    intro a k
    rw [Int.natAbs_tdiv]
    exact Nat.div_le_self _ _
  unfold days_from_civil
  dsimp only
  have small : (if m ≤ 2 then y - 1 else y).natAbs ≤ 10000 := by split <;> omega
  generalize (if m ≤ 2 then y - 1 else y) = y' at *
  have from_march : (if m > 2 then (m : Int) - 3 else m + 9).natAbs < 2 ^ 32 := by split <;> omega
  generalize (if m > 2 then (m : Int) - 3 else m + 9) = mp at *
  have shifted : (if y' ≥ 0 then y' else y' - 399).natAbs ≤ 10399 := by split <;> omega
  generalize (if y' ≥ 0 then y' else y' - 399) = z at *
  have eras := divided z 400
  generalize z.tdiv 400 = era at *
  have fourths := divided (y' - era * 400) 4
  have centuries := divided (y' - era * 400) 100
  have months := divided (153 * mp + 2) 5
  generalize (y' - era * 400).tdiv 4 = f at *
  generalize (y' - era * 400).tdiv 100 = c at *
  generalize (153 * mp + 2).tdiv 5 = n at *
  omega

/-! ### The numbers of a timestamp -/

/-- A second of the year 1970 to 9999, whatever follows it. -/
def IsTimestamp (s : String) : Prop :=
  ∃ (date : Date) (h mi sec : Nat) (rest : List Char), date.year < 10000 ∧ epoch.number ≤ date.number ∧
    h < 24 ∧ mi < 60 ∧ sec < 60 ∧ s.toList = padded 4 date.year ++ '-' :: (padded 2 date.month ++ '-' ::
      (padded 2 date.day ++ 'T' :: (padded 2 h ++ ':' :: (padded 2 mi ++ ':' :: (padded 2 sec ++ rest)))))

/-- A number behind single bytes. -/
private theorem num_of_ascii {s : String} {cs rest : List Char} (text : s.toList = cs ++ rest)
    (ascii : ∀ c ∈ cs, c.utf8Size = 1) {a b : Nat} (ordered : a ≤ b) (inside : b ≤ cs.length) :
    num s a b = some ((parse_i64 ((cs.drop a).take (b - a))).getD 0) := by
  have dropped := dropBytes_ascii ascii (n := a) (by omega) rest
  have taken := takeBytes_ascii (fun c listed => ascii c (List.mem_of_mem_drop listed) : ∀ c ∈ cs.drop a, _)
    (n := b - a) (by rw [List.length_drop]; omega) rest
  simp only [num, Option.bind_eq_bind, text, dropped, taken, Option.bind_some]

private theorem numbers_of_timestamp {s : String} {y mo d h mi sec : Nat} {rest : List Char} (fourY : y < 10000)
    (twoMo : mo < 100) (twoD : d < 100) (twoH : h < 100) (twoMi : mi < 100) (twoSec : sec < 100)
    (text : s.toList = padded 4 y ++ '-' :: (padded 2 mo ++ '-' ::
      (padded 2 d ++ 'T' :: (padded 2 h ++ ':' :: (padded 2 mi ++ ':' :: (padded 2 sec ++ rest)))))) :
    19 ≤ len s ∧ numbers s = some ⟨y, mo, d, h, mi, sec⟩ := by
  let cs : List Char := [digit (y / 1000), digit (y / 100), digit (y / 10), digit y, '-', digit (mo / 10), digit mo,
    '-', digit (d / 10), digit d, 'T', digit (h / 10), digit h, ':', digit (mi / 10), digit mi, ':', digit (sec / 10),
    digit sec]
  have shape : s.toList = cs ++ rest := by
    rw [text, padded_four fourY, padded_two twoMo, padded_two twoD, padded_two twoH, padded_two twoMi, padded_two twoSec]
    rfl
  have ascii : ∀ c ∈ cs, c.utf8Size = 1 := by
    have signs : '-'.utf8Size = 1 ∧ 'T'.utf8Size = 1 ∧ ':'.utf8Size = 1 := by decide
    simp [cs, digit_spec, signs]
  have length : cs.length = 19 := rfl
  refine ⟨?_, ?_⟩
  · rw [len, shape, List.map_append, List.sum_append, size_ascii ascii]
    omega
  · unfold numbers
    rw [num_of_ascii shape ascii (by decide) (by omega), num_of_ascii shape ascii (by decide) (by omega),
      num_of_ascii shape ascii (by decide) (by omega), num_of_ascii shape ascii (by decide) (by omega),
      num_of_ascii shape ascii (by decide) (by omega), num_of_ascii shape ascii (by decide) (by omega)]
    simp only [cs, Nat.reduceSub, List.drop_zero, List.drop_succ_cons, List.take_succ_cons, List.take_zero,
      parse_four fourY, parse_two twoMo, parse_two twoD, parse_two twoH, parse_two twoMi, parse_two twoSec,
      Option.getD_some, Option.pure_def, Option.bind_eq_bind, Option.bind_some]

/-- The days of a date from the epoch on. -/
theorem days_from_civil_date {date : Date} (late : epoch.number ≤ date.number) :
    days_from_civil date.year date.month date.day = (date.number - epoch.number : Nat) := by
  obtain ⟨date', found, number⟩ := civil_from_days_date (date.number - epoch.number)
  obtain rfl : date' = date := Date.number_inj (by omega)
  have back := days_from_civil_from_days (date'.number - epoch.number)
  rwa [found] at back

theorem numbers_of_isTimestamp {s : String} (timestamp : IsTimestamp s) : 19 ≤ len s ∧ ∃ n, numbers s = some n ∧
    as_u64 n.days * 86400 + as_u64 n.h * 3600 + as_u64 n.mi * 60 + as_u64 n.sec < 2 ^ 64 := by
  obtain ⟨date, h, mi, sec, rest, year, late, hour, minute, second, text⟩ := timestamp
  have month := date.is_month
  have day := date.is_day
  have short : month_length date.year date.month ≤ 31 := month_length_le _ _
  obtain ⟨long, found⟩ := numbers_of_timestamp year (by omega) (by omega) (by omega) (by omega) (by omega) text
  refine ⟨long, _, found, ?_⟩
  have bound := days_from_civil_lt (y := date.year) (m := date.month) (d := date.day) (by omega) (by omega) (by omega)
  have days := days_from_civil_date late
  simp only [Numbers.days, as_u32_natCast (show date.month < 2 ^ 32 by omega), as_u32_natCast (show date.day < 2 ^ 32 by omega)]
  rw [days] at bound ⊢
  rw [as_u64_natCast (by omega), as_u64_natCast (by omega), as_u64_natCast (by omega), as_u64_natCast (by omega)]
  omega

/-! ### The day of the epoch -/

/-- The dates of one number that is four bytes long and two of two bytes that are
    counted as the day of the epoch. -/
def EPOCH_DATES : List (Int × Int × Int) :=
  [(1970, 1, 1), (1970, 0, 32), (1969, 13, 1), (1969, 12, 32), (1969, 11, 62), (1969, 10, 93), (1968, 24, 29),
    (1968, 23, 60), (1968, 22, 91), (1967, 36, 28), (1967, 35, 59), (1967, 34, 89), (1966, 48, 26), (1966, 47, 57),
    (1966, 46, 87), (1965, 60, 24), (1965, 59, 54), (1965, 58, 85), (1964, 72, 22), (1964, 71, 52), (1964, 70, 83),
    (1963, 84, 20), (1963, 83, 51), (1963, 82, 82), (1962, 96, 18), (1962, 95, 49), (1962, 94, 79)]

/-- The day without eras, with the quotients rounded down. -/
private theorem days_from_civil_eq (y : Int) (m d : Nat) : days_from_civil y m d =
    365 * (if m ≤ 2 then y - 1 else y) + (if m ≤ 2 then y - 1 else y) / 4 - (if m ≤ 2 then y - 1 else y) / 100 +
      (if m ≤ 2 then y - 1 else y) / 400 + (153 * (if m > 2 then (m : Int) - 3 else m + 9) + 2) / 5 + d - 719469 := by
  have eras : ∀ y : Int, (if y ≥ 0 then y else y - 399).tdiv 400 = y / 400 := by
    intro y
    split
    · rw [Int.tdiv_eq_ediv_of_nonneg (by omega)]
    · obtain ⟨n, rfl⟩ : ∃ n : Nat, y = -(n : Int) := ⟨y.natAbs, by omega⟩
      rw [show -(n : Int) - 399 = -((n + 399 : Nat) : Int) by omega, Int.neg_tdiv, Int.tdiv_eq_ediv_of_nonneg (by omega)]
      omega
  unfold days_from_civil
  dsimp only
  have from_march : 0 ≤ (if m > 2 then (m : Int) - 3 else m + 9) := by split <;> omega
  generalize (if m > 2 then (m : Int) - 3 else m + 9) = mp at *
  generalize (if m ≤ 2 then y - 1 else y) = y' at *
  rw [eras, Int.tdiv_eq_ediv_of_nonneg (by omega), Int.tdiv_eq_ediv_of_nonneg (by omega),
    Int.tdiv_eq_ediv_of_nonneg (by omega)]
  omega

private theorem days_from_civil_day (y : Int) (m d : Nat) : days_from_civil y m d = days_from_civil y m 0 + d := by
  rw [days_from_civil_eq, days_from_civil_eq]
  omega

/-- Numbers of two bytes, as they are once converted. -/
private def Short (n : Nat) : Prop := n < 100 ∨ 2 ^ 32 - 100 < n

private theorem short_of_natAbs {x : Int} (small : x.natAbs < 100) : Short (as_u32 x) ∧ (as_u32 x < 100 → x = (as_u32 x : Nat)) := by
  unfold Short as_u32
  omega

/-- Numbers that were negative make the day far too large. -/
private theorem near_epoch {y : Int} {m d : Nat} (year : y.natAbs < 10000) (month : Short m) (day : Short d)
    (zero : days_from_civil y m d = 0) : m < 100 ∧ d < 100 ∧ 1960 ≤ y ∧ y < 1973 := by
  unfold Short at month day
  rw [days_from_civil_eq] at zero
  by_cases january : m ≤ 2
  · rw [if_pos january, if_neg (by omega)] at zero
    omega
  · rw [if_neg january, if_pos (by omega)] at zero
    omega

private theorem EPOCH_DATES_counted :
    ∀ date ∈ EPOCH_DATES, days_from_civil date.1 (as_u32 date.2.1) (as_u32 date.2.2) = 0 := by
  decide

private theorem EPOCH_DATES_all : ∀ k < 13, ∀ m < 100, 0 < days_from_civil (1960 + (k : Nat)) m 0 ∨
    days_from_civil (1960 + (k : Nat)) m 0 ≤ -100 ∨
    ((1960 + (k : Nat) : Int), (m : Int), -days_from_civil (1960 + (k : Nat)) m 0) ∈ EPOCH_DATES := by
  decide +kernel

theorem mem_EPOCH_DATES {y mo d : Int} (year : y.natAbs < 10000) (month : mo.natAbs < 100) (day : d.natAbs < 100) :
    days_from_civil y (as_u32 mo) (as_u32 d) = 0 ↔ (y, mo, d) ∈ EPOCH_DATES := by
  refine ⟨fun zero => ?_, EPOCH_DATES_counted _⟩
  obtain ⟨shortMo, plainMo⟩ := short_of_natAbs month
  obtain ⟨shortD, plainD⟩ := short_of_natAbs day
  obtain ⟨twoMo, twoD, late, early⟩ := near_epoch year shortMo shortD zero
  have dayOf := days_from_civil_day y (as_u32 mo) (as_u32 d)
  obtain ⟨k, rfl⟩ : ∃ k : Nat, y = 1960 + (k : Nat) := ⟨(y - 1960).toNat, by omega⟩
  have listed := ((EPOCH_DATES_all k (by omega) (as_u32 mo) twoMo).resolve_left (by omega)).resolve_left (by omega)
  rw [plainMo twoMo, plainD twoD]
  rwa [show -days_from_civil (1960 + (k : Nat)) (as_u32 mo) 0 = (as_u32 d : Nat) by omega] at listed

/-! ### Failing to zero -/

/-- The parser returns in every build, and returns 0 for what is no timestamp. -/
def FailsToZero (s : String) : Prop :=
  ∃ t, parse_rfc3339_checked s = some t ∧ parse_rfc3339_secs s = some t ∧ (¬ IsTimestamp s → t = 0)

private theorem as_u64_eq_zero {x : Int} (small : x.natAbs < 2 ^ 40) : as_u64 x = 0 ↔ x = 0 := by
  unfold as_u64
  omega

/-- The numbers add up to 0 at midnight of the day of the epoch only. -/
private theorem adds_up_to_zero {s : String} {n : Numbers} (found : numbers s = some n) :
    as_u64 n.days * 86400 + as_u64 n.h * 3600 + as_u64 n.mi * 60 + as_u64 n.sec = 0 ↔
      (n.y, n.mo, n.d) ∈ EPOCH_DATES ∧ n.h = 0 ∧ n.mi = 0 ∧ n.sec = 0 := by
  simp only [numbers, Option.bind_eq_bind, Option.bind_eq_some_iff] at found
  obtain ⟨y, readY, mo, readMo, d, readD, h, readH, mi, readMi, sec, readSec, is⟩ := found
  obtain rfl := Option.some.inj is
  have year := num_lt readY
  have month := num_lt readMo
  have day := num_lt readD
  have hour := num_lt readH
  have minute := num_lt readMi
  have second := num_lt readSec
  have converted : ∀ x : Int, as_u32 x < 2 ^ 32 := fun x => by unfold as_u32; omega
  have bound := days_from_civil_lt year (converted mo) (converted d)
  rw [← mem_EPOCH_DATES year month day, ← as_u64_eq_zero bound, ← as_u64_eq_zero (x := h) (by omega),
    ← as_u64_eq_zero (x := mi) (by omega), ← as_u64_eq_zero (x := sec) (by omega)]
  simp only [Numbers.days]
  omega

/-- The parser fails to zero on texts that are too short, on timestamps, and on
    texts whose numbers are midnight of the day of the epoch. -/
theorem fails_to_zero_iff (s : String) : FailsToZero s ↔ len s < 19 ∨ IsTimestamp s ∨
    ∃ date ∈ EPOCH_DATES, numbers s = some ⟨date.1, date.2.1, date.2.2, 0, 0, 0⟩ := by
  constructor
  · rintro ⟨t, read, -, zero⟩
    by_cases timestamp : IsTimestamp s
    · exact .inr (.inl timestamp)
    by_cases short : len s < 19
    · exact .inl short
    obtain ⟨n, found, -, sum⟩ := (parse_rfc3339_checked_eq_some (by omega)).mp read
    rw [zero timestamp] at sum
    obtain ⟨listed, hour, minute, second⟩ := (adds_up_to_zero found).mp sum.symm
    refine .inr (.inr ⟨_, listed, ?_⟩)
    obtain ⟨y, mo, d, h, mi, sec⟩ := n
    simp only at hour minute second
    rw [found, hour, minute, second]
  · rintro (short | timestamp | ⟨date, listed, found⟩)
    · have read : parse_rfc3339_checked s = some 0 := if_pos short
      exact ⟨0, read, secs_of_checked read, fun _ => rfl⟩
    · obtain ⟨long, n, found, fits⟩ := numbers_of_isTimestamp timestamp
      have read := (parse_rfc3339_checked_eq_some long).mpr ⟨n, found, fits, rfl⟩
      exact ⟨_, read, secs_of_checked read, fun no => absurd timestamp no⟩
    · by_cases short : len s < 19
      · have read : parse_rfc3339_checked s = some 0 := if_pos short
        exact ⟨0, read, secs_of_checked read, fun _ => rfl⟩
      have sum := (adds_up_to_zero found).mpr ⟨listed, rfl, rfl, rfl⟩
      have read := (parse_rfc3339_checked_eq_some (by omega)).mpr ⟨_, found, by decide, sum.symm⟩
      exact ⟨0, read, secs_of_checked read, fun _ => rfl⟩

/-- A text cut inside a character panics; the last second before the epoch, and
    numbers out of range between any separators, are read as times to come. -/
theorem not_fails_to_zero :
    parse_rfc3339_secs "2024-01-01Ｔ00:00:00Z" = none ∧
    (parse_rfc3339_checked "1969-12-31T23:59:59Z" = none ∧ parse_rfc3339_secs "1969-12-31T23:59:59Z" = some (2 ^ 64 - 1)) ∧
    (¬ IsTimestamp "9999/99/99 99:99:99" ∧ parse_rfc3339_checked "9999/99/99 99:99:99" = some 253638535239) ∧
    ¬ ∀ s, FailsToZero s := by
  have cut : parse_rfc3339_secs "2024-01-01Ｔ00:00:00Z" = none := by decide +kernel
  refine ⟨cut, by decide +kernel, ⟨?_, by decide +kernel⟩, fun all => ?_⟩
  · rintro ⟨date, h, mi, sec, rest, year, -, -, -, -, text⟩
    rw [padded_four year] at text
    simp at text
  · obtain ⟨t, -, read, -⟩ := all "2024-01-01Ｔ00:00:00Z"
    cases read.symm.trans cut

end RustOp.Firestore
