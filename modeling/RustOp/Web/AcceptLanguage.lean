import RustOp.Positional
import RustOp.Text

/-!
The language of a response, from the `Accept-Language` header. The sorted ranges
begin with the first of the greatest weight (`head_mergeSort`).
-/
namespace RustOp.Web
open Text

inductive Lang where
  | En
  | Ja
deriving DecidableEq, Repr

def Lang.code : Lang → String
  | .En => "en"
  | .Ja => "ja"

/-- The weight of a range in thousandths, up to three places behind the point. -/
def parse_q (v : String) : Option Nat :=
  let parts := (split_once '.' v).getD (v, "")
  let frac := parts.2
  if byte_len frac > 3 || !frac.toList.all Char.isDigit then none
  else if parts.1 = "0" then parse_u64 (String.ofList (frac.toList.rightpad 3 '0'))
  else if parts.1 = "1" ∧ frac.toList.all (· == '0') then some 1000
  else none

/-- The weight after the parameters of a range; a later one replaces an earlier
    one, and nothing is left of a malformed one. -/
def weight : Nat → List (List Char) → Option Nat
  | q, [] => some q
  | q, param :: params =>
    match strip_prefix "q=" (trim (String.ofList param)) with
    | some v => (parse_q (trim v)).bind fun q => weight q params
    | none => weight q params

/-- The supported language of a subtag in lower case. -/
def supported (primary : List Char) : Option Lang :=
  if primary = ['e', 'n'] then some .En else if primary = ['j', 'a'] then some .Ja else none

/-- The language and weight of a range, if it is one that can be accepted. -/
def range (item : List Char) : Option (Nat × Lang) :=
  match split ';' item with
  | [] => none
  | tag :: parts => do
    let primary ← (split '-' (trim (String.ofList tag)).toList).head?
    let lang ← supported (primary.map Char.toLower)
    let q ← weight 1000 parts
    if q > 0 then some (q, lang) else none

def Lang.from_accept_language (value : String) : Lang :=
  let ranges := ((split ',' value.toList).filterMap range).mergeSort fun a b => b.1 ≤ a.1
  ranges.head?.elim .En Prod.snd

/-! ### Weights -/

/-- The number that digits write. -/
def decimal (digits : List Char) : Nat := digits.foldl (fun n c => n * 10 + (c.toNat - '0'.toNat)) 0

/-- The thousandths of a number from 0 to 1 with at most three places. -/
inductive QValue : List Char → Nat → Prop
  | zero : QValue ['0'] 0
  | one : QValue ['1'] 1000
  | fraction {frac : List Char} {n : Nat} (short : frac.length ≤ 3) (digits : ∀ c ∈ frac, c.isDigit)
      (thousandths : n * 10 ^ frac.length = decimal frac * 1000) : QValue ('0' :: '.' :: frac) n
  | whole {frac : List Char} (short : frac.length ≤ 3) (zeros : ∀ c ∈ frac, c = '0') : QValue ('1' :: '.' :: frac) 1000

private theorem decimal_append (digits digits' : List Char) :
    decimal (digits ++ digits') = decimal digits * 10 ^ digits'.length + decimal digits' := Positional.value_append ..

private theorem decimal_zeros (n : Nat) : decimal (List.replicate n '0') = 0 :=
  Positional.value_zeros fun c listed => by rw [List.eq_of_mem_replicate listed, Nat.sub_self]

private theorem decimal_lt {digits : List Char} (all : ∀ c ∈ digits, c.isDigit) : decimal digits < 10 ^ digits.length :=
  Positional.value_lt fun c listed => Positional.decimal_digit_lt (all c listed)

/-- Reading digits gives their number. -/
private theorem parse_u64_digits {digits : List Char} (some : digits ≠ []) (short : digits.length ≤ 3)
    (all : ∀ c ∈ digits, c.isDigit) : parse_u64 (String.ofList digits) = .some (decimal digits) := by
  have bound : decimal digits < 18446744073709551616 := by
    calc decimal digits < 10 ^ digits.length := decimal_lt all
      _ ≤ 10 ^ 3 := Nat.pow_le_pow_right (by decide) short
      _ < 18446744073709551616 := by decide
  unfold parse_u64
  rw [String.toList_ofList]
  split
  · exact absurd (all '+' (by simp)) (by decide)
  · rw [if_pos ⟨some, List.all_eq_true.mpr all⟩]
    exact if_pos bound

/-- Places that are filled up count thousandths. -/
private theorem parse_u64_rightpad {frac : List Char} (short : frac.length ≤ 3) (digits : ∀ c ∈ frac, c.isDigit) :
    parse_u64 (String.ofList (frac.rightpad 3 '0')) = some (decimal frac * 10 ^ (3 - frac.length)) := by
  have zero : ∀ c ∈ List.replicate (3 - frac.length) '0', c.isDigit := fun c listed => by
    rw [List.eq_of_mem_replicate listed]
    rfl
  have length : (frac.rightpad 3 '0').length = 3 := by
    rw [List.rightpad, List.length_append, List.length_replicate]
    omega
  have read := @parse_u64_digits (frac.rightpad 3 '0') (fun none => by rw [none] at length; cases length)
    length.le fun c listed => (List.mem_append.mp listed).elim (digits c) (zero c)
  rw [read, List.rightpad, decimal_append, decimal_zeros, List.length_replicate, Nat.add_zero]

private theorem byte_len_digits {text : String} (digits : ∀ c ∈ text.toList, c.isDigit) : byte_len text = text.toList.length := by
  have single : ∀ c ∈ text.toList, c.utf8Size = 1 := by
    intro c listed
    have is := digits c listed
    simp only [Char.isDigit, Bool.and_eq_true, decide_eq_true_eq] at is
    exact Char.utf8Size_eq_one_iff.mpr (UInt32.le_trans is.2 (by decide))
  rw [byte_len, List.map_congr_left single, List.map_const', List.sum_replicate, smul_eq_mul, Nat.mul_one]

/-- The weight that stands before and after a point. -/
private theorem parse_q_parts {v int frac : String} (parts : (split_once '.' v).getD (v, "") = (int, frac)) {n : Nat} :
    parse_q v = some n ↔ frac.toList.length ≤ 3 ∧ (∀ c ∈ frac.toList, c.isDigit) ∧
      (int = "0" ∧ n * 10 ^ frac.toList.length = decimal frac.toList * 1000 ∨
        int = "1" ∧ (∀ c ∈ frac.toList, c = '0') ∧ n = 1000) := by
  unfold parse_q
  rw [parts]
  dsimp only
  by_cases digits : ∀ c ∈ frac.toList, c.isDigit
  · have all : frac.toList.all Char.isDigit = true := List.all_eq_true.mpr digits
    by_cases short : frac.toList.length ≤ 3
    · rw [if_neg (by simpa [byte_len_digits digits, all] using short)]
      by_cases zero : int = "0"
      · have one : int ≠ "1" := by
          rw [zero]
          decide
        have scale : 10 ^ (3 - frac.toList.length) * 10 ^ frac.toList.length = 1000 := by
          rw [← pow_add, Nat.sub_add_cancel short]
          rfl
        have positive : 0 < 10 ^ frac.toList.length := Nat.pow_pos (by decide)
        have value : n * 10 ^ frac.toList.length = decimal frac.toList * 1000 ↔
            decimal frac.toList * 10 ^ (3 - frac.toList.length) = n := by
          rw [← scale, ← mul_assoc, Nat.mul_left_inj positive.ne']
          exact eq_comm
        rw [if_pos zero, parse_u64_rightpad short digits, Option.some.injEq, value]
        exact ⟨fun is => ⟨short, digits, .inl ⟨zero, is⟩⟩, fun ⟨_, _, is⟩ => (is.resolve_right fun no => one no.1).2⟩
      · rw [if_neg zero]
        simp only [List.all_eq_true, beq_iff_eq, Option.ite_none_right_eq_some, Option.some.injEq]
        constructor
        · rintro ⟨⟨one, zeros⟩, rfl⟩
          exact ⟨short, digits, .inr ⟨one, zeros, rfl⟩⟩
        · rintro ⟨-, -, ⟨no, -⟩ | ⟨one, zeros, rfl⟩⟩
          · exact absurd no zero
          · exact ⟨⟨one, zeros⟩, rfl⟩
    · rw [if_pos (by simpa [byte_len_digits digits, all] using short)]
      exact ⟨fun no => (by cases no), fun ⟨is, _⟩ => absurd is short⟩
  · have not_all : frac.toList.all Char.isDigit = false := by
      rw [← Bool.not_eq_true, List.all_eq_true]
      exact digits
    rw [if_pos (by rw [not_all, Bool.not_false, Bool.or_true])]
    exact ⟨fun no => (by cases no), fun ⟨_, is, _⟩ => absurd is digits⟩

theorem parse_q_iff {v : String} {n : Nat} : parse_q v = some n ↔ QValue v.toList n := by
  constructor
  · intro read
    cases found : split_once '.' v with
    | some parts =>
      obtain ⟨int, frac⟩ := parts
      obtain ⟨whole, -⟩ := split_once_eq_some.mp found
      have parts : (split_once '.' v).getD (v, "") = (int, frac) := by
        rw [found]
        rfl
      rw [whole]
      obtain ⟨short, digits, ⟨rfl, value⟩ | ⟨rfl, zeros, rfl⟩⟩ := (parse_q_parts parts).mp read
      · exact .fraction short digits value
      · exact .whole short zeros
    | none =>
      have parts : (split_once '.' v).getD (v, "") = (v, "") := by
        rw [found]
        rfl
      obtain ⟨-, -, ⟨rfl, value⟩ | ⟨rfl, -, rfl⟩⟩ := (parse_q_parts parts).mp read
      · have none : n = 0 := by simpa [decimal] using value
        rw [none]
        exact .zero
      · exact .one
  · intro value
    have parts : ∀ int frac : String, v.toList = int.toList ++ '.' :: frac.toList → '.' ∉ int.toList →
        (split_once '.' v).getD (v, "") = (int, frac) := by
      intro int frac whole absent
      rw [split_once_eq_some.mpr ⟨whole, absent⟩]
      rfl
    generalize text : v.toList = cs at value
    cases value with
    | zero =>
      obtain rfl : v = "0" := String.toList_injective text
      rfl
    | one =>
      obtain rfl : v = "1" := String.toList_injective text
      rfl
    | @fraction frac n short digits value =>
      have found := parts "0" (String.ofList frac) (by simp [text]) (by decide)
      rw [parse_q_parts found, String.toList_ofList]
      exact ⟨short, digits, .inl ⟨rfl, value⟩⟩
    | @whole frac short zeros =>
      have found := parts "1" (String.ofList frac) (by simp [text]) (by decide)
      have digits : ∀ c ∈ frac, c.isDigit := fun c listed => by
        rw [zeros c listed]
        rfl
      rw [parse_q_parts found, String.toList_ofList]
      exact ⟨short, digits, .inr ⟨rfl, zeros, rfl⟩⟩

/-! ### Ranges -/

/-- The subtag before the first hyphen of what stands before the parameters. -/
def primary (item : List Char) : List Char :=
  (trim (String.ofList (item.takeWhile (· ≠ ';')))).toList.takeWhile (· ≠ '-')

/-- The values of weight parameters, in order. -/
def q_values (params : List (List Char)) : List String :=
  params.filterMap fun param => ( strip_prefix "q=" (trim (String.ofList param))).map trim

/-- A range that can be accepted: its language is supported, all its weights are
    well formed, and the last of them, or 1 without any, is positive. -/
structure Candidate (item : List Char) (lang : Lang) (q : Nat) : Prop where
  language : eq_ignore_ascii_case (String.ofList (primary item)) lang.code = true
  parsed : ∀ v ∈ q_values (split ';' item).tail, (parse_q v).isSome
  effective : ((q_values (split ';' item).tail).getLast?.bind parse_q).getD 1000 = q
  positive : 0 < q

theorem weight_iff {q : Nat} {params : List (List Char)} {n : Nat} : weight q params = some n ↔
    (∀ v ∈ q_values params, (parse_q v).isSome) ∧ ((q_values params).getLast?.bind parse_q).getD q = n := by
  induction params generalizing q with
  | nil => simp [weight, q_values]
  | cons param params ih =>
    have values : q_values (param :: params) =
        (( strip_prefix "q=" (trim (String.ofList param))).map trim).toList ++ q_values params := by
      unfold q_values
      cases found : strip_prefix "q=" (trim (String.ofList param)) with
      | none => simp [found]
      | some v => simp [found]
    rw [weight, values]
    cases found : strip_prefix "q=" (trim (String.ofList param)) with
    | none => simpa using ih
    | some v =>
      cases read : parse_q (trim v) with
      | none => simp [read]
      | some first =>
        simp only [read, Option.bind_some, Option.map_some, Option.toList_some, List.singleton_append, List.forall_mem_cons,
          Option.isSome_some, true_and, ih]
        refine and_congr_right fun parsed => ?_
        cases last : (q_values params).getLast? with
        | none =>
          rw [List.getLast?_eq_none_iff.mp last]
          simp [read]
        | some w =>
          obtain ⟨m, later⟩ := Option.isSome_iff_exists.mp (parsed w (List.mem_of_getLast? last))
          rw [List.getLast?_cons, last]
          simp [later]

/-- The first piece of a split text. -/
private theorem split_head (separator : Char) (text : List Char) :
    ∃ pieces, split separator text = text.takeWhile (· ≠ separator) :: pieces := by
  induction text with
  | nil => exact ⟨[], rfl⟩
  | cons c text ih =>
    obtain ⟨pieces, first⟩ := ih
    by_cases same : c = separator
    · exact ⟨split separator text, by simp [split, same]⟩
    · exact ⟨pieces, by simp [split, same, first]⟩

private theorem supported_iff {cs : List Char} {lang : Lang} :
    supported (cs.map Char.toLower) = some lang ↔ eq_ignore_ascii_case (String.ofList cs) lang.code = true := by
  unfold eq_ignore_ascii_case
  rw [String.toList_ofList, beq_iff_eq, supported]
  generalize cs.map Char.toLower = lower
  have en : Lang.En.code.toList.map Char.toLower = ['e', 'n'] := by decide
  have ja : Lang.Ja.code.toList.map Char.toLower = ['j', 'a'] := by decide
  cases lang with
  | En =>
    rw [en]
    split
    · simp [*]
    · split <;> simp [*]
  | Ja =>
    rw [ja]
    split
    · simp [*]
    · split <;> simp [*]

theorem range_iff {item : List Char} {q : Nat} {lang : Lang} : range item = some (q, lang) ↔ Candidate item lang q := by
  obtain ⟨parts, pieces⟩ := split_head ';' item
  obtain ⟨subtags, first⟩ := split_head '-' (trim (String.ofList (item.takeWhile (· ≠ ';')))).toList
  have params : (split ';' item).tail = parts := by rw [pieces, List.tail_cons]
  have read : range item = (supported ((primary item).map Char.toLower)).bind fun lang =>
      (weight 1000 parts).bind fun q => if q > 0 then some (q, lang) else none := by
    unfold range primary
    rw [pieces]
    dsimp only
    rw [first]
    simp only [List.head?_cons, Option.bind_eq_bind, Option.bind_some]
  simp only [read, Option.bind_eq_some_iff, supported_iff, weight_iff, Option.ite_none_right_eq_some, Option.some.injEq,
    Prod.mk.injEq]
  constructor
  · rintro ⟨lang, language, q, ⟨parsed, effective⟩, positive, rfl, rfl⟩
    rw [← params] at parsed effective
    exact ⟨language, parsed, effective, positive⟩
  · rintro ⟨language, parsed, effective, positive⟩
    rw [params] at parsed effective
    exact ⟨lang, language, q, ⟨parsed, effective⟩, positive, rfl, rfl⟩

/-! ### The first of the greatest weight -/

/-- A stable sort begins with the first of the elements that come before no other. -/
theorem head_mergeSort {α : Type} {le : α → α → Bool} (trans : ∀ a b c, le a b → le b c → le a c)
    (total : ∀ a b, le a b || le b a) {l : List α} {a : α} (first : (l.mergeSort le).head? = some a) :
    ∃ before after, l = before ++ a :: after ∧ (∀ b ∈ before, ¬ le b a) ∧ ∀ b ∈ after, le a b := by
  obtain ⟨rest, sorted⟩ : ∃ rest, l.mergeSort le = a :: rest := by
    cases found : l.mergeSort le with
    | nil => simp [found] at first
    | cons b rest =>
      obtain rfl : b = a := by simpa [found] using first
      exact ⟨rest, rfl⟩
  have ordered := List.pairwise_mergeSort trans total l
  rw [sorted, List.pairwise_cons] at ordered
  have same : (a :: rest).Perm l := sorted ▸ List.mergeSort_perm l le
  have self : le a a = true := by simpa using total a a
  have least : ∀ b ∈ l, le a b := fun b listed => by
    rcases List.mem_cons.mp (same.mem_iff.mpr listed) with rfl | later
    · exact self
    · exact ordered.1 b later
  -- The elements before none keep their order, so the first of them stays first.
  have kept : l.filter (le · a) = (a :: rest).filter (le · a) := by
    have alike : (l.filter (le · a)).Pairwise fun b c => le b c := by
      refine List.pairwise_of_forall_mem_list fun b listed c listed' => ?_
      exact trans b a c (List.mem_filter.mp listed).2 (least c (List.mem_filter.mp listed').1)
    have sub := (List.sublist_mergeSort trans total alike List.filter_sublist).filter (le · a)
    rw [sorted, List.filter_filter] at sub
    simp only [Bool.and_self] at sub
    exact sub.eq_of_length (same.filter _).length_eq.symm
  rw [List.filter_cons_of_pos (p := (le · a)) self] at kept
  obtain ⟨before, after, whole, none, -, -⟩ := List.filter_eq_cons_iff.mp kept
  exact ⟨before, after, whole, none, fun b listed => least b (by simp [whole, listed])⟩

/-- The language of the first range whose weight is the greatest. -/
def Negotiated (value : String) (lang : Lang) : Prop :=
  (∃ before item after q, split ',' value.toList = before ++ item :: after ∧ Candidate item lang q ∧
    (∀ other ∈ before, ∀ l q', Candidate other l q' → q' < q) ∧ ∀ other ∈ after, ∀ l q', Candidate other l q' → q' ≤ q) ∨
  (∀ item ∈ split ',' value.toList, ∀ l q, ¬ Candidate item l q) ∧ lang = .En

/-- What is returned. -/
private theorem negotiated (value : String) : Negotiated value (Lang.from_accept_language value) := by
  have trans : ∀ a b c : Nat × Lang, decide (b.1 ≤ a.1) = true → decide (c.1 ≤ b.1) = true → decide (c.1 ≤ a.1) = true := by
    simp only [decide_eq_true_eq]
    omega
  have total : ∀ a b : Nat × Lang, (decide (b.1 ≤ a.1) || decide (a.1 ≤ b.1)) = true := by
    simp only [Bool.or_eq_true, decide_eq_true_eq]
    omega
  unfold Lang.from_accept_language
  dsimp only
  cases first : (((split ',' value.toList).filterMap range).mergeSort fun a b => b.1 ≤ a.1).head? with
  | none =>
    have nothing : (split ',' value.toList).filterMap range = [] := by
      have length := (List.mergeSort_perm ((split ',' value.toList).filterMap range) fun a b => decide (b.1 ≤ a.1)).length_eq
      rw [List.head?_eq_none_iff.mp first] at length
      exact List.eq_nil_of_length_eq_zero length.symm
    refine .inr ⟨fun item listed l q candidate => ?_, rfl⟩
    rw [List.filterMap_eq_nil_iff] at nothing
    cases (nothing item listed).symm.trans (range_iff.mpr candidate)
  | some r =>
    obtain ⟨q, lang⟩ := r
    obtain ⟨before, after, whole, less, atMost⟩ := head_mergeSort trans total first
    obtain ⟨items, later, items_whole, rfl, behind⟩ := List.filterMap_eq_append_iff.mp whole
    obtain ⟨skipped, item, rest, rfl, none, found, rfl⟩ := List.filterMap_eq_cons_iff.mp behind
    refine .inl ⟨items ++ skipped, item, rest, q, by rw [items_whole, List.append_assoc], range_iff.mp found, ?_, ?_⟩
    · intro other listed l q' candidate
      have ranged := range_iff.mpr candidate
      rcases List.mem_append.mp listed with early | gone
      · simpa using less _ (List.mem_filterMap.mpr ⟨other, early, ranged⟩)
      · cases (none other gone).symm.trans ranged
    · intro other listed l q' candidate
      simpa using atMost _ (List.mem_filterMap.mpr ⟨other, listed, range_iff.mpr candidate⟩)

/-- No range is both behind the first of the greatest weight and the first of it. -/
private theorem same_language {item item' : List Char} {after after' between : List (List Char)} {lang lang' : Lang} {q q' : Nat}
    (whole : item :: after = between ++ item' :: after') (candidate : Candidate item lang q)
    (candidate' : Candidate item' lang' q') (less : ∀ other ∈ between, ∀ l p, Candidate other l p → p < q')
    (atMost : ∀ other ∈ after, ∀ l p, Candidate other l p → p ≤ q) : lang = lang' := by
  cases between with
  | nil =>
    obtain ⟨rfl, -⟩ := List.cons.inj whole
    have same := (range_iff.mpr candidate).symm.trans (range_iff.mpr candidate')
    exact (Prod.mk.inj (Option.some.inj same)).2
  | cons first between =>
    obtain ⟨rfl, rest⟩ := List.cons.inj whole
    have before := less item (by simp) lang q candidate
    have behind := atMost item' (by simp [rest]) lang' q' candidate'
    omega

/-- Only one language is negotiated. -/
private theorem negotiated_unique {value : String} {lang lang' : Lang} (one : Negotiated value lang)
    (other : Negotiated value lang') : lang = lang' := by
  rcases one with ⟨before, item, after, q, whole, candidate, less, atMost⟩ | ⟨none, rfl⟩
  · rcases other with ⟨before', item', after', q', whole', candidate', less', atMost'⟩ | ⟨none, -⟩
    · rcases List.append_eq_append_iff.mp (whole.symm.trans whole') with ⟨between, rfl, rest⟩ | ⟨between, rfl, rest⟩
      · exact same_language rest candidate candidate' (fun o listed => less' o (by simp [listed])) atMost
      · exact (same_language rest candidate' candidate (fun o listed => less o (by simp [listed])) atMost').symm
    · exact absurd candidate (none item (by simp [whole]) lang q)
  · rcases other with ⟨before', item', after', q', whole', candidate', -, -⟩ | ⟨-, rfl⟩
    · exact absurd candidate' (none item' (by simp [whole']) lang' q')
    · rfl

/-- The language of a response is the negotiated one, and weights are read as
    they are written. -/
theorem language_negotiation :
    (∀ value lang, Lang.from_accept_language value = lang ↔ Negotiated value lang) ∧
    ∀ v n, parse_q v = some n ↔ QValue v.toList n :=
  ⟨fun value _ => ⟨fun is => is ▸ negotiated value, fun spec => negotiated_unique (negotiated value) spec⟩,
    fun _ _ => parse_q_iff⟩

end RustOp.Web
