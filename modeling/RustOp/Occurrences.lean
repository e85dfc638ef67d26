import Mathlib.Data.List.Basic
import Mathlib.Data.List.Infix

/-!
Finding and replacing a part of a list. What is replaced can be told piece by
piece where no occurrence reaches into a piece from both sides (`replace_append`).
-/
namespace RustOp.Occurrences

variable {α : Type} [DecidableEq α]

/-- What stands before and behind the first occurrence of a pattern. -/
def find (pattern : List α) : List α → Option (List α × List α)
  | [] => none
  | a :: rest =>
    if pattern.isPrefixOf (a :: rest) then some ([], (a :: rest).drop pattern.length)
    else (find pattern rest).map fun found => (a :: found.1, found.2)

/-- Every occurrence replaced, from the front; `skip` elements belong to the last one. -/
def replaceFrom (pattern new : List α) : Nat → List α → List α
  | _, [] => []
  | skip + 1, _ :: rest => replaceFrom pattern new skip rest
  | 0, a :: rest =>
    if pattern.isPrefixOf (a :: rest) then new ++ replaceFrom pattern new (pattern.length - 1) rest
    else a :: replaceFrom pattern new 0 rest

def replace (pattern new text : List α) : List α := replaceFrom pattern new 0 text

/-! ### Finding -/

theorem find_whole {pattern text before after : List α} (found : find pattern text = some (before, after)) :
    text = before ++ pattern ++ after := by
  induction text generalizing before with
  | nil => cases found
  | cons a rest ih =>
    rw [find] at found
    split at found
    · rename_i here
      obtain ⟨rfl, rfl⟩ := Prod.mk.inj (Option.some.inj found)
      obtain ⟨after, whole⟩ := List.isPrefixOf_iff_prefix.mp here
      rw [← whole, List.drop_left, List.nil_append]
    · obtain ⟨⟨before', after'⟩, later, same⟩ := Option.map_eq_some_iff.mp found
      obtain ⟨rfl, rfl⟩ := Prod.mk.inj same
      rw [ih later]
      rfl

/-- What follows makes no difference to the first occurrence. -/
theorem find_append {pattern text before after : List α} (found : find pattern text = some (before, after)) (more : List α) :
    find pattern (text ++ more) = some (before, after ++ more) := by
  induction text generalizing before with
  | nil => cases found
  | cons a rest ih =>
    rw [find] at found
    rw [List.cons_append, find]
    split at found
    · rename_i here
      obtain ⟨rfl, rfl⟩ := Prod.mk.inj (Option.some.inj found)
      have there := List.isPrefixOf_iff_prefix.mp here
      have here' : pattern.isPrefixOf (a :: (rest ++ more)) :=
        List.isPrefixOf_iff_prefix.mpr (there.trans (List.prefix_append (a :: rest) more))
      rw [if_pos here', ← List.cons_append, List.drop_append_of_le_length there.length_le]
    · rename_i elsewhere
      obtain ⟨⟨before', after'⟩, later, same⟩ := Option.map_eq_some_iff.mp found
      obtain ⟨rfl, rfl⟩ := Prod.mk.inj same
      have long : pattern.length ≤ (a :: rest).length := by
        rw [find_whole later]
        simp only [List.length_cons, List.length_append]
        omega
      have not_here : ¬ pattern.isPrefixOf (a :: (rest ++ more)) := fun here => elsewhere <| by
        rw [List.isPrefixOf_iff_prefix] at here ⊢
        exact List.prefix_of_prefix_length_le here (List.prefix_append (a :: rest) more) long
      rw [if_neg not_here, ih later]
      rfl

theorem find_eq_none {pattern text : List α} (some : pattern ≠ []) : find pattern text = none ↔ ¬ pattern <:+: text := by
  induction text with
  | nil => simpa [find] using some
  | cons a rest ih =>
    rw [find, List.infix_cons_iff, not_or, ← ih, ← List.isPrefixOf_iff_prefix]
    split <;> simp [*]

/-! ### Replacing -/

variable {pattern new : List α}

/-- Nothing is replaced where the pattern does not occur. -/
theorem replace_absent {text : List α} (absent : ¬ pattern <:+: text) : replace pattern new text = text := by
  induction text with
  | nil => rfl
  | cons a rest ih =>
    rw [List.infix_cons_iff, not_or, ← List.isPrefixOf_iff_prefix] at absent
    rw [replace, replaceFrom, if_neg absent.1]
    exact congrArg (a :: ·) (ih absent.2)

variable (pattern) in
/-- A piece that no occurrence of the pattern reaches into. -/
structure Apart (piece : List α) : Prop where
  /-- No occurrence begins in it. -/
  begins : ∀ front back rest : List α, piece = front ++ back → back ≠ [] → ¬ pattern <+: back ++ rest
  /-- No occurrence ends in it. -/
  ends : ∀ front back tail : List α, piece = front ++ back → front ≠ [] → pattern ≠ tail ++ front
  /-- No occurrence surrounds it. -/
  inside : ¬ piece <:+: pattern

private theorem replace_behind {piece : List α} (rest : List α)
    (begins : ∀ front back rest : List α, piece = front ++ back → back ≠ [] → ¬ pattern <+: back ++ rest) :
    replace pattern new (piece ++ rest) = piece ++ replace pattern new rest := by
  induction piece with
  | nil => rfl
  | cons a piece ih =>
    have not_here : ¬ pattern.isPrefixOf (a :: (piece ++ rest)) := fun here =>
      begins [] (a :: piece) rest rfl (by simp) (List.isPrefixOf_iff_prefix.mp here)
    rw [List.cons_append, replace, replaceFrom, if_neg not_here]
    exact congrArg (a :: ·) (ih fun front back rest whole => begins (a :: front) back rest (by rw [whole]; rfl))

omit [DecidableEq α] in
/-- An occurrence before a piece ends before it. -/
private theorem Apart.prefix_iff {piece : List α} (apart : Apart pattern piece) (before rest : List α) :
    pattern <+: before ++ (piece ++ rest) ↔ pattern <+: before := by
  refine ⟨fun occurs => ?_, fun occurs => occurs.trans (List.prefix_append _ _)⟩
  by_cases short : pattern.length ≤ before.length
  · exact List.prefix_of_prefix_length_le occurs (List.prefix_append _ _) short
  obtain ⟨tail, rfl⟩ := List.prefix_of_prefix_length_le (List.prefix_append before (piece ++ rest)) occurs (by omega)
  have reaches := (List.prefix_append_right_inj before).mp occurs
  by_cases within : tail.length ≤ piece.length
  · obtain ⟨back, whole⟩ := List.prefix_of_prefix_length_le reaches (List.prefix_append piece rest) within
    have reached : tail ≠ [] := fun none => by simp [none] at short
    exact absurd rfl (apart.ends tail back before whole.symm reached)
  · have surrounded := List.prefix_of_prefix_length_le (List.prefix_append piece rest) reaches (by omega)
    exact absurd (surrounded.isInfix.trans (List.suffix_append before tail).isInfix) apart.inside

theorem replace_append {piece : List α} (apart : Apart pattern piece) (before rest : List α) :
    replace pattern new (before ++ piece ++ rest) = replace pattern new before ++ piece ++ replace pattern new rest := by
  have from_skip : ∀ (before : List α) (skip : Nat), skip ≤ before.length →
      replaceFrom pattern new skip (before ++ (piece ++ rest)) =
        replaceFrom pattern new skip before ++ (piece ++ replace pattern new rest) := by
    intro before
    induction before with
    | nil =>
      intro skip none
      obtain rfl : skip = 0 := by simpa using none
      exact replace_behind rest apart.begins
    | cons a before ih =>
      intro skip short
      cases skip with
      | succ skip => exact ih skip (by simpa using short)
      | zero =>
        have here : pattern.isPrefixOf (a :: (before ++ (piece ++ rest))) = pattern.isPrefixOf (a :: before) := by
          rw [Bool.eq_iff_iff, List.isPrefixOf_iff_prefix, List.isPrefixOf_iff_prefix]
          exact apart.prefix_iff (a :: before) rest
        rw [List.cons_append, replaceFrom, replaceFrom, here]
        by_cases occurs : pattern.isPrefixOf (a :: before)
        · have fits : pattern.length - 1 ≤ before.length := by
            have length := (List.isPrefixOf_iff_prefix.mp occurs).length_le
            rw [List.length_cons] at length
            omega
          rw [if_pos occurs, if_pos occurs, ih _ fits, List.append_assoc]
        · rw [if_neg occurs, if_neg occurs, ih 0 (Nat.zero_le _)]
          rfl
  rw [List.append_assoc, List.append_assoc]
  exact from_skip before 0 (Nat.zero_le _)

end RustOp.Occurrences
