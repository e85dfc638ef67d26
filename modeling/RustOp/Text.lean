import Mathlib

/-!
The text operations the provider relies on: splitting at Unicode white space,
reading a form parameter, and the prefixes and separators of header values.
-/
namespace RustOp.Text

/-- The Unicode `White_Space` property, as `char::is_whitespace` decides it. -/
def is_whitespace (c : Char) : Bool :=
  (0x09 ≤ c.toNat && c.toNat ≤ 0x0d) || c.toNat == 0x20 || c.toNat == 0x85 || c.toNat == 0xa0 ||
  c.toNat == 0x1680 || (0x2000 ≤ c.toNat && c.toNat ≤ 0x200a) || c.toNat == 0x2028 ||
  c.toNat == 0x2029 || c.toNat == 0x202f || c.toNat == 0x205f || c.toNat == 0x3000

/-- Maximal runs of characters that are not separators; `word` holds the
    current run backwards. -/
def wordsFrom (separator : Char → Bool) (word : List Char) : List Char → List (List Char)
  | [] => if word.isEmpty then [] else [word.reverse]
  | c :: rest =>
    if separator c then
      if word.isEmpty then wordsFrom separator [] rest else word.reverse :: wordsFrom separator [] rest
    else wordsFrom separator (c :: word) rest

/-- `str::split_whitespace`: the non-empty words of a text, in order. -/
def split_whitespace (text : String) : List String :=
  (wordsFrom is_whitespace [] text.toList).map String.ofList

/-- A decoded form or query: the pairs in the order they were sent. -/
abbrev Form := List (String × String)

/-- `HashMap::get` after collecting the pairs: a later pair replaces an earlier
    one of the same name. -/
def Form.get (form : Form) (name : String) : Option String :=
  (form.reverse.find? fun pair => pair.1 == name).map Prod.snd

/-! ### Pieces of a text -/

/-- `str::split` at a character: the pieces between the separators, empty ones
    too. -/
def split (separator : Char) : List Char → List (List Char)
  | [] => [[]]
  | c :: rest =>
    if c = separator then [] :: split separator rest
    else match split separator rest with
      | [] => [[c]]
      | piece :: pieces => (c :: piece) :: pieces

theorem split_absent {separator : Char} {text : List Char} (absent : separator ∉ text) : split separator text = [text] := by
  induction text with
  | nil => rfl
  | cons c rest ih =>
    obtain ⟨other, absent⟩ := List.ne_and_not_mem_of_not_mem_cons absent
    simp [split, Ne.symm other, ih absent]

/-- The first piece ends at the first separator. -/
theorem split_first {separator : Char} {text rest : List Char} (absent : separator ∉ text) :
    split separator (text ++ separator :: rest) = text :: split separator rest := by
  induction text with
  | nil => simp [split]
  | cons c text ih =>
    obtain ⟨other, absent⟩ := List.ne_and_not_mem_of_not_mem_cons absent
    simp [split, Ne.symm other, ih absent]

/-- The first piece is what stands before the first separator. -/
theorem headD_split (separator : Char) (text d : List Char) :
    (split separator text).headD d = text.takeWhile (· ≠ separator) := by
  induction text generalizing d with
  | nil => rfl
  | cons c rest ih =>
    by_cases same : c = separator
    · simp [split, same]
    · have tail := ih []
      unfold split
      rw [if_neg same, List.takeWhile_cons, if_pos (by simpa using same)]
      cases pieces : split separator rest with
      | nil =>
        rw [pieces] at tail
        rw [← tail]
        rfl
      | cons piece pieces' =>
        rw [pieces] at tail
        simpa using tail

/-- `str::split` at a text that is not empty: the pieces between its occurrences.
    `skip` characters belong to the last occurrence. -/
def split_strFrom (pattern : List Char) : Nat → List Char → List (List Char)
  | _, [] => [[]]
  | skip + 1, _ :: rest => split_strFrom pattern skip rest
  | 0, c :: rest =>
    if pattern.isPrefixOf (c :: rest) then [] :: split_strFrom pattern (pattern.length - 1) rest
    else match split_strFrom pattern 0 rest with
      | [] => [[c]]
      | piece :: pieces => (c :: piece) :: pieces

def split_str (pattern text : List Char) : List (List Char) := split_strFrom pattern 0 text

example : split_str "://".toList "https://op:1/x".toList = ["https".toList, "op:1/x".toList] := by decide

/-- `str::split_once`: what stands before and after the first separator. -/
def split_once (separator : Char) (text : String) : Option (String × String) :=
  if separator ∈ text.toList then
    some (String.ofList (text.toList.takeWhile (· ≠ separator)),
      String.ofList ((text.toList.dropWhile (· ≠ separator)).drop 1))
  else none

theorem split_once_eq_some {separator : Char} {text a b : String} :
    split_once separator text = some (a, b) ↔ text.toList = a.toList ++ separator :: b.toList ∧ separator ∉ a.toList := by
  have stops : ∀ c : Char, (decide (c ≠ separator)) = true ↔ c ≠ separator := fun c => decide_eq_true_iff
  unfold split_once
  constructor
  · intro found
    split at found
    · rename_i inside
      obtain ⟨rfl, rfl⟩ := Prod.mk.inj (Option.some.inj found)
      rw [String.toList_ofList, String.toList_ofList]
      have absent : separator ∉ text.toList.takeWhile fun c => decide (c ≠ separator) := fun listed => by
        simpa using List.mem_takeWhile_imp listed
      refine ⟨?_, absent⟩
      obtain ⟨c, rest, behind⟩ : ∃ c rest, text.toList.dropWhile (· ≠ separator) = c :: rest :=
        List.exists_cons_of_ne_nil fun none => (stops _).mp (List.dropWhile_eq_nil_iff.mp none separator inside) rfl
      have first := List.head_dropWhile_not (fun c => decide (c ≠ separator)) (l := text.toList) (by rw [behind]; simp)
      simp only [behind, List.head_cons, decide_eq_false_iff_not, not_not] at first
      have whole := List.takeWhile_append_dropWhile (p := fun c => decide (c ≠ separator)) (l := text.toList)
      rw [behind, first] at whole
      rw [behind, first, List.drop_one, List.tail_cons, whole]
    · cases found
  · rintro ⟨whole, absent⟩
    have before : ∀ c ∈ a.toList, decide (c ≠ separator) = true := fun c listed =>
      (stops c).mpr fun same => absent (same ▸ listed)
    rw [if_pos (by rw [whole]; simp), whole, List.takeWhile_append_of_pos before, List.dropWhile_append_of_pos before,
      List.takeWhile_cons_of_neg (by simp), List.dropWhile_cons_of_neg (by simp), List.append_nil, List.drop_one,
      List.tail_cons, String.ofList_toList, String.ofList_toList]

/-- `str::split_once` at a text that is not empty: what stands before and after its first
    occurrence. -/
def split_once_str (pattern : List Char) : List Char → Option (List Char × List Char)
  | [] => none
  | c :: rest =>
    if pattern.isPrefixOf (c :: rest) then some ([], (c :: rest).drop pattern.length)
    else (split_once_str pattern rest).map fun (before, after) => (c :: before, after)

theorem split_once_str_whole {pattern text before after : List Char} (found : split_once_str pattern text = some (before, after)) :
    text = before ++ pattern ++ after := by
  induction text generalizing before with
  | nil => cases found
  | cons c rest ih =>
    unfold split_once_str at found
    split at found
    · rename_i here
      obtain ⟨rfl, rfl⟩ := Prod.mk.inj (Option.some.inj found)
      exact (List.prefix_iff_eq_append.mp (List.isPrefixOf_iff_prefix.mp here)).symm
    · obtain ⟨⟨before', after'⟩, found', same⟩ := Option.map_eq_some_iff.mp found
      obtain ⟨rfl, rfl⟩ := Prod.mk.inj same
      rw [ih found']
      rfl

/-- `str::strip_prefix`: what follows a given beginning. -/
def strip_prefix (beginning text : String) : Option String :=
  if beginning.toList.isPrefixOf text.toList then some (String.ofList (text.toList.drop beginning.length)) else none

/-- `str::len`: the number of bytes. -/
def byte_len (text : String) : Nat := (text.toList.map Char.utf8Size).sum

def starts_with (beginning text : String) : Bool := beginning.toList.isPrefixOf text.toList

/-- `str::contains`: the pattern stands somewhere in the text. -/
def contains (pattern text : String) : Bool := text.toList.tails.any fun rest => pattern.toList.isPrefixOf rest

def trim_end_matches (drop : Char → Bool) (text : List Char) : List Char := (text.reverse.dropWhile drop).reverse

/-- `str::trim`: without the white space at both ends. -/
def trim (text : String) : String :=
  String.ofList (trim_end_matches is_whitespace (text.toList.dropWhile is_whitespace))

def eq_ignore_ascii_case (a b : String) : Bool := a.toList.map Char.toLower == b.toList.map Char.toLower

/-- `str::parse::<u64>`: decimal digits after an optional plus sign, below 2^64. -/
def parse_u64 (text : String) : Option Nat :=
  let digits := match text.toList with
    | '+' :: rest => rest
    | all => all
  if digits ≠ [] ∧ digits.all Char.isDigit then
    let value := digits.foldl (fun n c => n * 10 + (c.toNat - '0'.toNat)) 0
    if value < 18446744073709551616 then some value else none
  else none

/-! ### Urlencoded text -/

/-- One piece of urlencoded text: its name and value, split at the first equals
    sign and decoded. -/
def urlencoded_pair (decode : String → String) (piece : List Char) : String × String :=
  (decode (String.ofList (piece.takeWhile (· ≠ '='))), decode (String.ofList ((piece.dropWhile (· ≠ '=')).drop 1)))

/-- `form_urlencoded::parse`: the pairs between the ampersands, without empty
    pieces. -/
def urlencoded (decode : String → String) (text : String) : Form :=
  ((split '&' text.toList).filter (· ≠ [])).map (urlencoded_pair decode)

end RustOp.Text
