import Mathlib

/-!
The timestamp codec: epoch seconds to RFC 3339 text and back, with the calendar
computed by hand. Up to the year 9999 reading gives back what was written.
-/
namespace RustOp.Firestore

/-- The first second that needs a fifth digit for its year. -/
def YEAR_10000 : Nat := 253402300800

/-! ### The calendar -/

/-- A signed number cast to 32 or to 64 unsigned bits. -/
def as_u32 (x : Int) : Nat := (x % 2 ^ 32).toNat
def as_u64 (x : Int) : Nat := (x % 2 ^ 64).toNat

/-- Year, month and day of a day counted from the epoch. -/
def civil_from_days (z : Int) : Int × Nat × Nat :=
  let z := z + 719468
  let era := (if z ≥ 0 then z else z - 146096).tdiv 146097
  let doe := z - era * 146097
  let yoe := (doe - doe.tdiv 1460 + doe.tdiv 36524 - doe.tdiv 146096).tdiv 365
  let y := yoe + era * 400
  let doy := doe - (365 * yoe + yoe.tdiv 4 - yoe.tdiv 100)
  let mp := (5 * doy + 2).tdiv 153
  let d := as_u32 (doy - (153 * mp + 2).tdiv 5 + 1)
  let m := as_u32 (if mp < 10 then mp + 3 else mp - 9)
  (if m ≤ 2 then y + 1 else y, m, d)

/-- The day of a date, counted from the epoch. -/
def days_from_civil (y : Int) (m d : Nat) : Int :=
  let y := if m ≤ 2 then y - 1 else y
  let era := (if y ≥ 0 then y else y - 399).tdiv 400
  let yoe := y - era * 400
  let mp : Int := if m > 2 then m - 3 else m + 9
  let doy := (153 * mp + 2).tdiv 5 + d - 1
  let doe := yoe * 365 + yoe.tdiv 4 - yoe.tdiv 100 + doy
  era * 146097 + doe - 719468

/-! ### Text -/

/-- A number in decimal, filled up with zeros on the left. -/
def padded (width n : Nat) : List Char := (Nat.toDigits 10 n).leftpad width '0'

/-- RFC 3339 text of an epoch second, in UTC. -/
def rfc3339 (epoch_secs : Nat) : String :=
  let days := epoch_secs / 86400
  let rem := epoch_secs % 86400
  let (y, mo, d) := civil_from_days days
  -- A day counted forwards from the epoch has a positive year.
  String.ofList (padded 4 y.toNat ++ '-' :: padded 2 mo ++ '-' :: padded 2 d ++ 'T' :: padded 2 (rem / 3600) ++
    ':' :: padded 2 (rem % 3600 / 60) ++ ':' :: padded 2 (rem % 60) ++ ['Z'])

/-- The characters from byte `n` on, if `n` does not cut a character. -/
def dropBytes : Nat → List Char → Option (List Char)
  | 0, cs => some cs
  | _ + 1, [] => none
  | n + 1, c :: cs => if c.utf8Size ≤ n + 1 then dropBytes (n + 1 - c.utf8Size) cs else none

/-- The characters up to byte `n`, if `n` does not cut a character. -/
def takeBytes : Nat → List Char → Option (List Char)
  | 0, _ => some []
  | _ + 1, [] => none
  | n + 1, c :: cs => if c.utf8Size ≤ n + 1 then (takeBytes (n + 1 - c.utf8Size) cs).map (c :: ·) else none

def parse_digits (cs : List Char) : Option Nat :=
  if cs.isEmpty || !cs.all Char.isDigit then none
  else some (cs.foldl (fun n c => 10 * n + (c.toNat - '0'.toNat)) 0)

/-- `str::parse::<i64>`: an optional sign and digits. The texts parsed here are
    too short to overflow. -/
def parse_i64 : List Char → Option Int
  | '-' :: cs => (parse_digits cs).map fun n => -n
  | '+' :: cs => (parse_digits cs).map fun n => n
  | cs => (parse_digits cs).map fun n => n

/-- Epoch seconds of RFC 3339 text, or `none` where slicing the text cuts a
    character and the code panics. Unsigned arithmetic wraps. -/
def parse_rfc3339_secs (s : String) : Option Nat :=
  if (s.toList.map Char.utf8Size).sum < 19 then some 0
  else do
    let num (a b : Nat) : Option Int := do
      let rest ← dropBytes a s.toList
      let part ← takeBytes (b - a) rest
      some ((parse_i64 part).getD 0)
    let y ← num 0 4
    let mo ← num 5 7
    let d ← num 8 10
    let h ← num 11 13
    let mi ← num 14 16
    let sec ← num 17 19
    some ((as_u64 (days_from_civil y (as_u32 mo) (as_u32 d)) * 86400 + as_u64 h * 3600 + as_u64 mi * 60 +
      as_u64 sec) % 2 ^ 64)

/-! ### The round trip -/

/-- The year within a century that starts `k` days into a cycle of leap years. -/
private theorem year_of_century {k r : Nat} (small : k ≤ 96) (inside : r < 36524) :
    let s := (k + r) / 1460
    let y := (r - s) / 365
    s ≤ r ∧ y < 100 ∧ 365 * y + y / 4 ≤ r ∧ r ≤ 365 * y + y / 4 + 365 ∧ (y < 99 → r < 365 * (y + 1) + (y + 1) / 4) := by
  intro s y
  have cycle : 1460 * s ≤ k + r ∧ k + r < 1460 * s + 1460 := by omega
  have le : s ≤ r := by omega
  have year : 365 * y + s ≤ r ∧ r < 365 * y + s + 365 := by omega
  clear_value s y
  have leap : 4 * (y / 4) ≤ y ∧ y < 4 * (y / 4) + 4 := by omega
  refine ⟨le, by omega, by omega, by omega, by omega⟩

/-- The year of the era is below 400, and the day falls into it. -/
private theorem year_of_era {doe : Nat} (inEra : doe < 146097) :
    let yoe := (doe - doe / 1460 + doe / 36524 - doe / 146096) / 365
    yoe < 400 ∧ 365 * yoe + yoe / 4 - yoe / 100 ≤ doe ∧ doe ≤ 365 * yoe + yoe / 4 - yoe / 100 + 365 ∧
      doe < 365 * (yoe + 1) + (yoe + 1) / 4 - (yoe + 1) / 100 + (yoe + 1) / 400 := by
  intro yoe
  have century : doe / 36524 ≤ 4 := by omega
  have rest : doe % 36524 < 36524 := by omega
  have split : doe = 36524 * (doe / 36524) + doe % 36524 := by omega
  generalize doe / 36524 = q at *
  generalize doe % 36524 = r at *
  by_cases last : q = 4
  · -- The last day of the era is alone in its fifth century.
    subst last
    have alone : r = 0 := by omega
    subst alone
    subst split
    decide
  · have ⟨le, short, low, high, next⟩ := year_of_century (k := 24 * q) (r := r) (by omega) (by omega)
    have cycles : doe / 1460 = 25 * q + (24 * q + r) / 1460 := by omega
    have eras : doe / 146096 = 0 := by omega
    have years : yoe = 100 * q + (r - (24 * q + r) / 1460) / 365 := by omega
    clear_value yoe
    generalize (24 * q + r) / 1460 = s at *
    generalize (r - s) / 365 = y at *
    have leaps : yoe / 4 = 25 * q + y / 4 := by omega
    have centuries : yoe / 100 = q := by omega
    have next_leaps : (yoe + 1) / 4 = 25 * q + (y + 1) / 4 := by omega
    refine ⟨by omega, by omega, by omega, ?_⟩
    by_cases inside : y < 99
    · have next_century : (yoe + 1) / 100 = q := by omega
      omega
    · omega

theorem as_u32_natCast {n : Nat} (small : n < 2 ^ 32) : as_u32 n = n := by
  unfold as_u32
  omega

theorem as_u64_natCast {n : Nat} (small : n < 2 ^ 64) : as_u64 n = n := by
  unfold as_u64
  omega

/-- Where a day stands: its era, year and day of the year from March on, and its
    month counted from March. -/
theorem civil_from_days_spec (days : Nat) : ∃ era yoe doy mp : Nat,
    days + 719468 = era * 146097 + (365 * yoe + yoe / 4 - yoe / 100) + doy ∧ yoe < 400 ∧
    365 * yoe + yoe / 4 - yoe / 100 + doy < 365 * (yoe + 1) + (yoe + 1) / 4 - (yoe + 1) / 100 + (yoe + 1) / 400 ∧ doy ≤ 365 ∧
    mp = (5 * doy + 2) / 153 ∧
    civil_from_days days = (((if mp < 10 then yoe + era * 400 else yoe + era * 400 + 1 : Nat) : Int),
      if mp < 10 then mp + 3 else mp - 9, doy - (153 * mp + 2) / 5 + 1) := by
  have ⟨low, start, stop, next⟩ := year_of_era (Nat.mod_lt (days + 719468) (by decide : 0 < 146097))
  have whole : days + 719468 = (days + 719468) / 146097 * 146097 + (days + 719468) % 146097 := by omega
  unfold civil_from_days
  have positive : ((days : Int) + 719468) ≥ 0 := by omega
  have era : ((days : Int) + 719468).tdiv 146097 = ((days + 719468) / 146097 : Nat) := rfl
  have doe : (days : Int) + 719468 - ((days + 719468) / 146097 : Nat) * 146097 = ((days + 719468) % 146097 : Nat) := by
    omega
  simp only [positive, ↓reduceIte, era, doe]
  generalize (days + 719468) / 146097 = e at *
  generalize (days + 719468) % 146097 = r at *
  have year : ((r : Int) - (r : Int).tdiv 1460 + (r : Int).tdiv 36524 - (r : Int).tdiv 146096).tdiv 365 =
      ((r - r / 1460 + r / 36524 - r / 146096) / 365 : Nat) := by
    have cast : (r : Int) - (r / 1460 : Nat) + (r / 36524 : Nat) - (r / 146096 : Nat) =
        (r - r / 1460 + r / 36524 - r / 146096 : Nat) := by omega
    exact congrArg (fun x : Int => x.tdiv 365) cast
  simp only [year]
  generalize (r - r / 1460 + r / 36524 - r / 146096) / 365 = y at *
  have doy : (r : Int) - (365 * (y : Int) + (y : Int).tdiv 4 - (y : Int).tdiv 100) =
      (r - (365 * y + y / 4 - y / 100) : Nat) := by
    have cast : (r : Int) - (365 * (y : Int) + (y / 4 : Nat) - (y / 100 : Nat)) =
        (r - (365 * y + y / 4 - y / 100) : Nat) := by omega
    exact cast
  simp only [doy]
  have bound : r - (365 * y + y / 4 - y / 100) ≤ 365 := by omega
  have inside : 365 * y + y / 4 - y / 100 + (r - (365 * y + y / 4 - y / 100)) <
      365 * (y + 1) + (y + 1) / 4 - (y + 1) / 100 + (y + 1) / 400 := by
    rw [Nat.add_sub_cancel' start]
    exact next
  have total : days + 719468 = e * 146097 + (365 * y + y / 4 - y / 100) + (r - (365 * y + y / 4 - y / 100)) := by
    rw [whole, Nat.add_assoc, Nat.add_sub_cancel' start]
  generalize r - (365 * y + y / 4 - y / 100) = n at *
  refine ⟨e, y, n, (5 * n + 2) / 153, total, low, inside, bound, rfl, ?_⟩
  have month : (5 * (n : Int) + 2).tdiv 153 = ((5 * n + 2) / 153 : Nat) := rfl
  simp only [month]
  have last : (5 * n + 2) / 153 ≤ 11 := by omega
  have before : (153 * ((5 * n + 2) / 153) + 2) / 5 ≤ n := by omega
  generalize (5 * n + 2) / 153 = k at *
  have day : as_u32 ((n : Int) - (153 * (k : Int) + 2).tdiv 5 + 1) = n - (153 * k + 2) / 5 + 1 := by
    have cast : (n : Int) - ((153 * k + 2) / 5 : Nat) + 1 = (n - (153 * k + 2) / 5 + 1 : Nat) := by omega
    exact (congrArg as_u32 cast).trans (as_u32_natCast (by omega))
  have number : as_u32 (if (k : Int) < 10 then (k : Int) + 3 else (k : Int) - 9) = if k < 10 then k + 3 else k - 9 := by
    have cast : (if (k : Int) < 10 then (k : Int) + 3 else (k : Int) - 9) = (if k < 10 then k + 3 else k - 9 : Nat) := by
      split <;> split <;> omega
    rw [cast]
    exact as_u32_natCast (by split <;> omega)
  rw [day, number]
  refine Prod.ext ?_ rfl
  by_cases early : k < 10
  · have late : ¬ k + 3 ≤ 2 := by omega
    simp [early, late]
  · have january : k - 9 ≤ 2 := by omega
    simp [early, january]

/-- The day of the date of a day. -/
theorem days_from_civil_from_days (days : Nat) :
    days_from_civil (civil_from_days days).1 (civil_from_days days).2.1 (civil_from_days days).2.2 = days := by
  obtain ⟨era, yoe, doy, mp, whole, inEra, -, inYear, month, date⟩ := civil_from_days_spec days
  rw [date]
  unfold days_from_civil
  have year : (if (if mp < 10 then mp + 3 else mp - 9) ≤ 2 then
      ((if mp < 10 then yoe + era * 400 else yoe + era * 400 + 1 : Nat) : Int) - 1
      else ((if mp < 10 then yoe + era * 400 else yoe + era * 400 + 1 : Nat) : Int)) = (yoe + era * 400 : Nat) := by
    split <;> split <;> omega
  have back : (if (if mp < 10 then mp + 3 else mp - 9) > 2 then
      (((if mp < 10 then mp + 3 else mp - 9 : Nat) : Int)) - 3
      else (((if mp < 10 then mp + 3 else mp - 9 : Nat) : Int)) + 9) = (mp : Nat) := by
    split <;> split <;> omega
  have positive : ((yoe + era * 400 : Nat) : Int) ≥ 0 := by omega
  have eras : ((yoe + era * 400 : Nat) : Int).tdiv 400 = (era : Nat) := by
    have cast : (yoe + era * 400) / 400 = era := by omega
    exact congrArg Int.ofNat cast
  have years : ((yoe + era * 400 : Nat) : Int) - (era : Int) * 400 = (yoe : Nat) := by omega
  simp only [year, back, positive, ↓reduceIte, eras, years]
  have leaps : (yoe : Int).tdiv 4 = (yoe / 4 : Nat) := rfl
  have centuries : (yoe : Int).tdiv 100 = (yoe / 100 : Nat) := rfl
  have months : (153 * (mp : Int) + 2).tdiv 5 = ((153 * mp + 2) / 5 : Nat) := rfl
  simp only [leaps, centuries, months]
  omega

/-- Before the year 10000 the date has four, two and two digits. -/
theorem civil_from_days_range {days : Nat} (early : days * 86400 < YEAR_10000) :
    ∃ y m d : Nat, civil_from_days days = ((y : Int), m, d) ∧ y < 10000 ∧ m < 100 ∧ d < 100 := by
  obtain ⟨era, yoe, doy, mp, whole, inEra, -, inYear, month, date⟩ := civil_from_days_spec days
  refine ⟨_, _, _, date, ?_, ?_, ?_⟩
  · unfold YEAR_10000 at early
    split <;> omega
  · split <;> omega
  · omega

/-- The last digit of a number. -/
def digit (n : Nat) : Char := Nat.digitChar (n % 10)

/-- One more column shows the last digit. -/
theorem padded_succ {width : Nat} (some : 0 < width) (n : Nat) :
    padded (width + 1) n = padded width (n / 10) ++ [digit n] := by
  unfold padded
  rw [Nat.toDigits_eq_if (n := n) (by decide)]
  by_cases single : n < 10
  · obtain ⟨w, rfl⟩ : ∃ w, width = w + 1 := ⟨width - 1, by omega⟩
    have gone : n / 10 = 0 := by omega
    simp [single, gone, digit, List.leftpad, Nat.mod_eq_of_lt single, List.replicate_succ', Nat.toDigits_zero]
  · simp [single, digit, List.leftpad]

theorem padded_two {n : Nat} (small : n < 100) : padded 2 n = [digit (n / 10), digit n] := by
  have tens : Nat.toDigits 10 (n / 10) = [digit (n / 10)] := by
    rw [Nat.toDigits_of_lt_base (by omega), digit, Nat.mod_eq_of_lt (by omega)]
  rw [padded_succ (by decide), padded, tens]
  rfl

theorem padded_four {n : Nat} (small : n < 10000) :
    padded 4 n = [digit (n / 1000), digit (n / 100), digit (n / 10), digit n] := by
  rw [padded_succ (by decide), padded_succ (by decide), padded_two (by omega)]
  simp [Nat.div_div_eq_div_mul]

theorem digit_spec (n : Nat) :
    (digit n).utf8Size = 1 ∧ (digit n).isDigit = true ∧ (digit n).toNat - '0'.toNat = n % 10 := by
  have all : ∀ k < 10, (Nat.digitChar k).utf8Size = 1 ∧ (Nat.digitChar k).isDigit = true ∧
      (Nat.digitChar k).toNat - '0'.toNat = k := by decide
  exact all (n % 10) (Nat.mod_lt _ (by decide))

private theorem parse_digits_two (a b : Nat) : parse_digits [digit a, digit b] = some (10 * (a % 10) + b % 10) := by
  simp only [parse_digits, List.isEmpty_cons, List.all_cons, List.all_nil, digit_spec, List.foldl_cons, List.foldl_nil,
    Nat.mul_zero, Nat.zero_add]
  rfl

/-- Neither sign is a digit. -/
private theorem parse_i64_digit (a : Nat) (cs : List Char) :
    parse_i64 (digit a :: cs) = (parse_digits (digit a :: cs)).map fun n => (n : Int) := by
  have noMinus : digit a ≠ '-' := fun same => by simpa [same] using (digit_spec a).2.1
  have noPlus : digit a ≠ '+' := fun same => by simpa [same] using (digit_spec a).2.1
  unfold parse_i64
  split
  · rename_i rest same
    exact absurd (List.cons.inj same).1 noMinus
  · rename_i rest same
    exact absurd (List.cons.inj same).1 noPlus
  · rfl

theorem parse_two {n : Nat} (small : n < 100) : parse_i64 [digit (n / 10), digit n] = some (n : Int) := by
  have value : 10 * (n / 10 % 10) + n % 10 = n := by omega
  rw [parse_i64_digit, parse_digits_two, value]
  rfl

theorem parse_four {n : Nat} (small : n < 10000) :
    parse_i64 [digit (n / 1000), digit (n / 100), digit (n / 10), digit n] = some (n : Int) := by
  have value : 10 * (10 * (10 * (n / 1000 % 10) + n / 100 % 10) + n / 10 % 10) + n % 10 = n := by omega
  rw [parse_i64_digit]
  simp only [parse_digits, List.isEmpty_cons, List.all_cons, List.all_nil, digit_spec, List.foldl_cons, List.foldl_nil,
    Nat.mul_zero, Nat.zero_add, value]
  rfl

/-- Where text begins with single bytes, bytes are characters. -/
theorem dropBytes_ascii {cs : List Char} (ascii : ∀ c ∈ cs, c.utf8Size = 1) {n : Nat} (inside : n ≤ cs.length)
    (rest : List Char) : dropBytes n (cs ++ rest) = some (cs.drop n ++ rest) := by
  induction n generalizing cs with
  | zero => rw [dropBytes, List.drop_zero]
  | succ n ih =>
    cases cs with
    | nil => simp at inside
    | cons c cs =>
      have single := ascii c (by simp)
      rw [List.cons_append, dropBytes, if_pos (by omega), single]
      exact ih (fun x listed => ascii x (by simp [listed])) (by simpa using inside)

theorem takeBytes_ascii {cs : List Char} (ascii : ∀ c ∈ cs, c.utf8Size = 1) {n : Nat} (inside : n ≤ cs.length)
    (rest : List Char) : takeBytes n (cs ++ rest) = some (cs.take n) := by
  induction n generalizing cs with
  | zero => rw [takeBytes, List.take_zero]
  | succ n ih =>
    cases cs with
    | nil => simp at inside
    | cons c cs =>
      have single := ascii c (by simp)
      have later : takeBytes n (cs ++ rest) = some (cs.take n) :=
        ih (fun x listed => ascii x (by simp [listed])) (by simpa using inside)
      rw [List.cons_append, takeBytes, if_pos (by omega), single, Nat.add_sub_cancel, later]
      rfl

theorem size_ascii {cs : List Char} (ascii : ∀ c ∈ cs, c.utf8Size = 1) :
    (cs.map Char.utf8Size).sum = cs.length := by
  induction cs with
  | nil => rfl
  | cons c cs ih =>
    rw [List.map_cons, List.sum_cons, ascii c (by simp), ih fun x listed => ascii x (by simp [listed]),
      List.length_cons, Nat.add_comm]

/-- The twenty characters of a second before the year 10000. -/
private theorem rfc3339_text {t y mo d : Nat} (date : civil_from_days (t / 86400 : Nat) = ((y : Int), mo, d))
    (fourY : y < 10000) (twoM : mo < 100) (twoD : d < 100) :
    (rfc3339 t).toList = [digit (y / 1000), digit (y / 100), digit (y / 10), digit y, '-', digit (mo / 10), digit mo,
      '-', digit (d / 10), digit d, 'T', digit (t % 86400 / 3600 / 10), digit (t % 86400 / 3600), ':',
      digit (t % 86400 % 3600 / 60 / 10), digit (t % 86400 % 3600 / 60), ':', digit (t % 86400 % 60 / 10),
      digit (t % 86400 % 60), 'Z'] := by
  unfold rfc3339
  simp only [date, Int.toNat_natCast, padded_four fourY, padded_two twoM, padded_two twoD,
    padded_two (n := t % 86400 / 3600) (by omega), padded_two (n := t % 86400 % 3600 / 60) (by omega),
    padded_two (n := t % 86400 % 60) (by omega), String.toList_ofList, List.cons_append, List.nil_append]

/-- Days, hours, minutes and seconds add up. -/
private theorem seconds_add {t : Nat} (early : t < YEAR_10000) :
    (as_u64 (t / 86400 : Nat) * 86400 + as_u64 (t % 86400 / 3600 : Nat) * 3600 +
      as_u64 (t % 86400 % 3600 / 60 : Nat) * 60 + as_u64 (t % 86400 % 60 : Nat)) % 2 ^ 64 = t := by
  unfold YEAR_10000 at early
  have whole : t / 86400 * 86400 + t % 86400 / 3600 * 3600 + t % 86400 % 3600 / 60 * 60 + t % 86400 % 60 = t := by omega
  rw [as_u64_natCast (by omega), as_u64_natCast (by omega), as_u64_natCast (by omega), as_u64_natCast (by omega), whole]
  exact Nat.mod_eq_of_lt (by omega)

/-- Reading gives back every second before the year 10000. -/
theorem parse_rfc3339 {t : Nat} (early : t < YEAR_10000) : parse_rfc3339_secs (rfc3339 t) = some t := by
  have inRange : t / 86400 * 86400 < YEAR_10000 := by omega
  obtain ⟨y, mo, d, date, fourY, twoM, twoD⟩ := civil_from_days_range inRange
  have back := days_from_civil_from_days (t / 86400)
  have text := rfc3339_text date fourY twoM twoD
  rw [date] at back
  have ascii : ∀ c ∈ (rfc3339 t).toList, c.utf8Size = 1 := by
    have signs : '-'.utf8Size = 1 ∧ 'T'.utf8Size = 1 ∧ ':'.utf8Size = 1 ∧ 'Z'.utf8Size = 1 := by decide
    simp [text, digit_spec, signs]
  have length : (rfc3339 t).toList.length = 20 := by simp [text]
  have num : ∀ a b, a ≤ b → b ≤ 20 → (dropBytes a (rfc3339 t).toList).bind (fun rest => (takeBytes (b - a) rest).bind
      fun part => some ((parse_i64 part).getD 0)) =
      some ((parse_i64 (((rfc3339 t).toList.drop a).take (b - a))).getD 0) := by
    intro a b ordered inside
    have dropped := dropBytes_ascii ascii (n := a) (by omega) []
    have taken := takeBytes_ascii (fun c listed => ascii c (List.mem_of_mem_drop listed) : ∀ c ∈ (rfc3339 t).toList.drop a, _)
      (n := b - a) (by rw [List.length_drop]; omega) []
    rw [List.append_nil, List.append_nil] at dropped
    rw [List.append_nil] at taken
    rw [dropped, Option.bind_some, taken, Option.bind_some]
  have hours : t % 86400 / 3600 < 100 := by omega
  have minutes : t % 86400 % 3600 / 60 < 100 := by omega
  have seconds : t % 86400 % 60 < 100 := by omega
  unfold parse_rfc3339_secs
  rw [if_neg (by rw [size_ascii ascii]; omega)]
  simp only [Option.bind_eq_bind, num 0 4 (by decide) (by decide), num 5 7 (by decide) (by decide),
    num 8 10 (by decide) (by decide), num 11 13 (by decide) (by decide), num 14 16 (by decide) (by decide),
    num 17 19 (by decide) (by decide), Option.bind_some]
  simp only [text, Nat.reduceSub, List.drop_zero, List.drop_succ_cons, List.take_succ_cons, List.take_zero,
    parse_four fourY, parse_two twoM, parse_two twoD, parse_two hours, parse_two minutes, parse_two seconds,
    Option.getD_some]
  rw [as_u32_natCast (by omega), as_u32_natCast (by omega), back, seconds_add early]

end RustOp.Firestore
