import Mathlib

/-!
Strings and numbers in JSON texts, as serializers write them: what is written is
read back, whatever text follows.
-/
namespace RustOp.JsonText

/-- What follows a literal text. -/
def expect (literal : String) (text : List Char) : Option (List Char) :=
  if literal.toList <+: text then some (text.drop literal.toList.length) else none

theorem expect_append (literal : String) (rest : List Char) : expect literal (literal.toList ++ rest) = some rest := by
  simp [expect]

/-! ### Strings -/

def hex (n : Nat) : Char := (['0', '1', '2', '3', '4', '5', '6', '7', '8', '9', 'a', 'b', 'c', 'd', 'e', 'f'] : List Char).getD n '0'

def unhex (c : Char) : Option Nat :=
  if 48 ≤ c.toNat ∧ c.toNat ≤ 57 then some (c.toNat - 48)
  else if 97 ≤ c.toNat ∧ c.toNat ≤ 102 then some (c.toNat - 87)
  else none

/-- Quotes, backslashes and control characters are escaped. -/
def escape (c : Char) : List Char :=
  if c = '\x22' then ['\x5c', '\x22']
  else if c = '\x5c' then ['\x5c', '\x5c']
  else if c = '\x08' then ['\x5c', 'b']
  else if c = '\x0c' then ['\x5c', 'f']
  else if c = '\n' then ['\x5c', 'n']
  else if c = '\x0d' then ['\x5c', 'r']
  else if c = '\t' then ['\x5c', 't']
  else if c.toNat < 32 then ['\x5c', 'u', '0', '0', hex (c.toNat / 16), hex (c.toNat % 16)]
  else [c]

def unescape (c : Char) : Option Char :=
  if c = '\x22' then some '\x22'
  else if c = '\x5c' then some '\x5c'
  else if c = 'b' then some '\x08'
  else if c = 'f' then some '\x0c'
  else if c = 'n' then some '\n'
  else if c = 'r' then some '\x0d'
  else if c = 't' then some '\t'
  else none

/-- A string after its opening quote. -/
def quoted (s : String) : List Char := s.toList.flatMap escape ++ ['\x22']

/-- A string up to its closing quote, and what follows. -/
def unquote : List Char → Option (List Char × List Char)
  | [] => none
  | '\x22' :: rest => some ([], rest)
  | '\x5c' :: 'u' :: '0' :: '0' :: h :: l :: rest => do
    let n ← unhex h
    let m ← unhex l
    let (value, rest) ← unquote rest
    some (Char.ofNat (16 * n + m) :: value, rest)
  | '\x5c' :: c :: rest => do
    let c ← unescape c
    let (value, rest) ← unquote rest
    some (c :: value, rest)
  | c :: rest => do
    let (value, rest) ← unquote rest
    some (c :: value, rest)

/-- Escaping one character. -/
private theorem unquote_escape (c : Char) (rest : List Char) :
    unquote (escape c ++ rest) = (unquote rest).map fun read => (c :: read.1, read.2) := by
  by_cases quotes : c = '\x22'
  · subst quotes
    cases read : unquote rest <;> simp [escape, unquote, unescape, read]
  by_cases backslash : c = '\x5c'
  · subst backslash
    cases read : unquote rest <;> simp [escape, unquote, unescape, read]
  by_cases control : c.toNat < 32
  · obtain ⟨n, small, rfl⟩ : ∃ n, n < 32 ∧ c = Char.ofNat n := ⟨c.toNat, control, (Char.ofNat_toNat c).symm⟩
    cases read : unquote rest with
    | none =>
      clear quotes backslash control
      interval_cases n <;> simp [escape, unquote, unescape, unhex, hex, read]
    | some pair =>
      clear quotes backslash control
      interval_cases n <;> simp [escape, unquote, unescape, unhex, hex, read]
  · have other : ∀ d : Char, d.toNat < 32 → c ≠ d := fun d low same => control (same ▸ low)
    have plain : escape c = [c] := by
      unfold escape
      rw [if_neg quotes, if_neg backslash, if_neg (other _ (by decide)), if_neg (other _ (by decide)),
        if_neg (other _ (by decide)), if_neg (other _ (by decide)), if_neg (other _ (by decide)), if_neg control]
    rw [plain, List.singleton_append]
    cases read : unquote rest <;> simp [unquote, backslash, read]

/-- A string is read back. -/
theorem unquote_quoted (s : String) (rest : List Char) : unquote (quoted s ++ rest) = some (s.toList, rest) := by
  rw [quoted, List.append_assoc]
  induction s.toList with
  | nil => simp [unquote]
  | cons c cs ih =>
    rw [List.flatMap_cons, List.append_assoc, unquote_escape, ih]
    rfl

/-! ### Numbers -/

def number (n : Nat) : List Char := Nat.toDigits 10 n

def unnumber (text : List Char) : Option (Nat × List Char) :=
  if (text.takeWhile Char.isDigit).isEmpty then none
  else some (Nat.ofDigitChars 10 (text.takeWhile Char.isDigit) 0, text.dropWhile Char.isDigit)

/-- A number is read back if no digit follows. -/
theorem unnumber_number (n : Nat) {c : Char} (other : c.isDigit = false) (rest : List Char) :
    unnumber (number n ++ c :: rest) = some (n, c :: rest) := by
  have digits : ∀ d ∈ Nat.toDigits 10 n, d.isDigit = true := fun d listed =>
    Nat.isDigit_of_mem_toDigits (by decide) (by decide) listed
  have taken : (number n ++ c :: rest).takeWhile Char.isDigit = Nat.toDigits 10 n := by
    rw [number, List.takeWhile_append_of_pos digits, List.takeWhile_cons, other]
    simp
  have left : (number n ++ c :: rest).dropWhile Char.isDigit = c :: rest := by
    rw [number, List.dropWhile_append_of_pos digits, List.dropWhile_cons, other]
    simp
  rw [unnumber, taken, left, Nat.ofDigitChars_ten_toDigits]
  simp [Nat.toDigits_ne_nil]

end RustOp.JsonText
