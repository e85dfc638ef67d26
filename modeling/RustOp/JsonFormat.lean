import RustOp.JsonText

/-!
JSON formats of records, put together from the formats of their parts. A format
carries the proof that what it prints is read back, whatever text follows.
-/
namespace RustOp.JsonText

/-- What follows a literal text. -/
def skip : List Char → List Char → Option (List Char)
  | [], text => some text
  | _ :: _, [] => none
  | c :: literal, d :: text => if c = d then skip literal text else none

theorem skip_append (literal rest : List Char) : skip literal (literal ++ rest) = some rest := by
  induction literal with
  | nil => cases rest <;> rfl
  | cons c literal ih => simp [skip, ih]

/-- How values are printed and read. -/
structure Format (α : Type) where
  print : α → List Char
  read : List Char → Option (α × List Char)
  read_print : ∀ a rest, read (print a ++ rest) = some (a, rest)

namespace Format
variable {α β : Type}

/-- The whole text is one value. -/
def decode (f : Format α) (text : String) : Option α :=
  match f.read text.toList with
  | some (a, []) => some a
  | _ => none

def encode (f : Format α) (a : α) : String := String.ofList (f.print a)

@[simp] theorem decode_encode (f : Format α) (a : α) : f.decode (f.encode a) = some a := by
  have read := f.read_print a []
  rw [List.append_nil] at read
  simp [decode, encode, read]

/-- Values in other terms. -/
def map (f : Format α) (into : α → β) (out : β → α) (same : ∀ b, into (out b) = b) : Format β where
  print b := f.print (out b)
  read text := (f.read text).map fun read => (into read.1, read.2)
  read_print b rest := by simp [f.read_print, same]

/-- Values with a name each; other names are refused. -/
def filterMap (f : Format α) (into : α → Option β) (out : β → α) (same : ∀ b, into (out b) = some b) : Format β where
  print b := f.print (out b)
  read text := (f.read text).bind fun read => (into read.1).map fun b => (b, read.2)
  read_print b rest := by simp [f.read_print, same]

/-- A literal text before a value. -/
def after (literal : String) (f : Format α) : Format α where
  print a := literal.toList ++ f.print a
  read text := (skip literal.toList text).bind f.read
  read_print a rest := by simp [skip_append, f.read_print]

/-- A literal text after a value. -/
def before (f : Format α) (literal : String) : Format α where
  print a := f.print a ++ literal.toList
  read text := (f.read text).bind fun read => (skip literal.toList read.2).map fun rest => (read.1, rest)
  read_print a rest := by simp [f.read_print, skip_append]

/-- One value after the other. -/
def and (f : Format α) (g : Format β) : Format (α × β) where
  print ab := f.print ab.1 ++ g.print ab.2
  read text := (f.read text).bind fun first => (g.read first.2).map fun second => ((first.1, second.1), second.2)
  read_print ab rest := by simp [f.read_print, g.read_print]

def string : Format String where
  print s := '\x22' :: quoted s
  read text := (skip ['\x22'] text).bind fun text => (unquote text).map fun read => (String.ofList read.1, read.2)
  read_print s rest := by simp [skip, unquote_quoted]

/-- One of two literal texts, of which neither begins the other. -/
def bool : Format Bool where
  print b := if b then "true".toList else "false".toList
  read text := ((skip "true".toList text).map fun rest => (true, rest)).or ((skip "false".toList text).map fun rest => (false, rest))
  read_print b rest := by
    cases b with
    | true => simp [skip]
    | false => simp [skip]

/-- A value or nothing, where no value is printed like nothing. -/
def option (f : Format α) (distinct : ∀ a rest, skip "null".toList (f.print a ++ rest) = none) : Format (Option α) where
  print o := match o with
    | none => "null".toList
    | some a => f.print a
  read text := match skip "null".toList text with
    | some rest => some (none, rest)
    | none => (f.read text).map fun read => (some read.1, read.2)
  read_print o rest := by
    cases o with
    | none =>
      dsimp only
      rw [skip_append]
    | some a =>
      dsimp only
      rw [distinct, f.read_print]
      rfl

/-- The rest of a list, after the bracket or the comma. -/
def print_items (f : Format α) : List α → List Char
  | [] => [']']
  | [a] => f.print a ++ [']']
  | a :: as => f.print a ++ ',' :: print_items f as

def read_items (f : Format α) : Nat → List Char → Option (List α × List Char)
  | 0, _ => none
  | n + 1, text => do
    let (a, text) ← f.read text
    match text with
    | ']' :: rest => some ([a], rest)
    | ',' :: rest => (read_items f n rest).map fun read => (a :: read.1, read.2)
    | _ => none

private theorem read_print_items (f : Format α) {as : List α} {n : Nat} (some : as ≠ []) (enough : as.length ≤ n) (rest : List Char) :
    f.read_items n (f.print_items as ++ rest) = .some (as, rest) := by
  induction as generalizing n with
  | nil => exact absurd rfl some
  | cons a as ih =>
    obtain ⟨m, rfl⟩ : ∃ m, n = m + 1 := ⟨n - 1, by simp at enough; omega⟩
    cases as with
    | nil => simp [print_items, read_items, f.read_print]
    | cons b bs =>
      have tail := ih (n := m) (by simp) (by simpa using enough)
      simp [print_items, read_items, f.read_print, tail]

private theorem length_print_items (f : Format α) (as : List α) : as.length ≤ (f.print_items as).length := by
  induction as with
  | nil => simp
  | cons a as ih =>
    cases as with
    | nil => simp [print_items]
    | cons b bs =>
      simp only [print_items, List.length_cons, List.length_append] at ih ⊢
      omega

/-- A list of values, none of which begins with the closing bracket. -/
def list (f : Format α) (distinct : ∀ a, ∃ c tail, f.print a = c :: tail ∧ c ≠ ']') : Format (List α) where
  print as := '[' :: f.print_items as
  read text := match text with
    | '[' :: ']' :: rest => some ([], rest)
    | '[' :: rest => f.read_items rest.length rest
    | _ => none
  read_print as rest := by
    cases as with
    | nil => simp [print_items]
    | cons a as =>
      have enough : (a :: as).length ≤ (f.print_items (a :: as) ++ rest).length := by
        rw [List.length_append]
        exact (length_print_items f _).trans (Nat.le_add_right _ _)
      have read := read_print_items f (List.cons_ne_nil a as) enough rest
      obtain ⟨c, tail, printed, other⟩ := distinct a
      obtain ⟨tail', first⟩ : ∃ tail', f.print_items (a :: as) = c :: tail' := by
        cases as <;> simp [print_items, printed]
      rw [List.cons_append]
      rw [first] at read ⊢
      simpa [other] using read

/-- A field of a record, and those after it. -/
def field (literal : String) (f : Format α) (rest : Format β) : Format (α × β) := (after literal f).and rest

theorem string_opens (s : String) : ∃ c tail, string.print s = c :: tail ∧ c ≠ ']' := ⟨_, _, rfl, by decide⟩

theorem string_not_null (s : String) (rest : List Char) : skip "null".toList (string.print s ++ rest) = none := by
  simp [string, skip]

end Format
end RustOp.JsonText
