import Mathlib

/-!
Sequences of checks, each of which may refuse with an error. What a sequence
that accepts has seen is read off with these equations.
-/
namespace RustOp.Effects

variable {ε ε' α β : Type}

/-- `Option::ok_or`: a missing value is an error. -/
def ok_or (o : Option α) (e : ε) : Except ε α :=
  match o with
  | some a => .ok a
  | none => .error e

/-- An early return with an error. -/
def refuse (c : Prop) [Decidable c] (e : ε) : Except ε Unit := if c then .error e else .ok ()

namespace Checks

theorem ok_or_eq_ok {o : Option α} {e : ε} {a : α} : ok_or o e = .ok a ↔ o = some a := by
  cases o <;> simp [ok_or]

theorem bind_eq_ok {x : Except ε α} {f : α → Except ε β} {b : β} :
    (x >>= f) = .ok b ↔ ∃ a, x = .ok a ∧ f a = .ok b := by
  cases x <;> simp [bind, Except.bind]

theorem pure_eq_ok {a b : α} : (pure a : Except ε α) = .ok b ↔ a = b := by
  simp [pure, Except.pure]

theorem mapError_eq_ok {f : ε → ε'} {x : Except ε α} {a : α} : x.mapError f = .ok a ↔ x = .ok a := by
  cases x <;> simp [Except.mapError]

/-- Whoever comes past a refusal does not meet its condition. -/
theorem refuse_eq_ok {c : Prop} [Decidable c] {e : ε} {u : Unit} : refuse c e = .ok u ↔ ¬ c := by
  by_cases holds : c <;> simp [refuse, holds]

theorem toOption_eq_some {x : Except ε α} {a : α} : x.toOption = some a ↔ x = .ok a := by
  cases x <;> simp [Except.toOption]

/-- Every element passes. -/
theorem forM_eq_ok {f : α → Except ε Unit} {xs : List α} : xs.forM f = .ok () ↔ ∀ x ∈ xs, f x = .ok () := by
  induction xs with
  | nil => simp [pure, Except.pure]
  | cons x rest ih =>
    show (f x >>= fun _ => rest.forM f) = .ok () ↔ _
    rw [bind_eq_ok, ih, List.forall_mem_cons]
    constructor
    · rintro ⟨⟨⟩, passes, others⟩
      exact ⟨passes, others⟩
    · rintro ⟨passes, others⟩
      exact ⟨(), passes, others⟩

theorem mapM_eq_ok {f : α → Except ε β} {xs : List α} {ys : List β} :
    xs.mapM f = .ok ys ↔ List.Forall₂ (fun x y => f x = .ok y) xs ys := by
  induction xs generalizing ys with
  | nil => rw [List.mapM_nil, pure_eq_ok, List.forall₂_nil_left_iff, eq_comm]
  | cons x rest ih =>
    simp only [List.mapM_cons, bind_eq_ok, pure_eq_ok, ih]
    constructor
    · rintro ⟨y, passes, ys', others, rfl⟩
      exact .cons passes others
    · intro all
      cases all with
      | cons passes others => exact ⟨_, passes, _, others, rfl⟩

/-- Every result is that of an element. -/
theorem exists_of_mem_mapM {f : α → Except ε β} {xs : List α} {ys : List β} {y : β}
    (all : List.Forall₂ (fun x y => f x = .ok y) xs ys) (listed : y ∈ ys) : ∃ x ∈ xs, f x = .ok y := by
  induction all with
  | nil => cases listed
  | cons passes _ ih =>
    rcases List.mem_cons.mp listed with rfl | later
    · exact ⟨_, List.mem_cons_self, passes⟩
    · obtain ⟨x, among, is⟩ := ih later
      exact ⟨x, List.mem_cons_of_mem _ among, is⟩

/-- Every element of a list passes together with the next one. -/
theorem forM_zip_tail_eq_ok {f : α × α → Except ε Unit} {x : α} {xs : List α} :
    ((x :: xs).zip xs).forM f = .ok () ↔ (x :: xs).IsChain fun a b => f (a, b) = .ok () := by
  induction xs generalizing x with
  | nil => simp [pure, Except.pure]
  | cons y rest ih =>
    show (f (x, y) >>= fun _ => ((y :: rest).zip rest).forM f) = .ok () ↔ _
    rw [bind_eq_ok, ih, List.isChain_cons_cons]
    constructor
    · rintro ⟨⟨⟩, passes, others⟩
      exact ⟨passes, others⟩
    · rintro ⟨passes, others⟩
      exact ⟨(), passes, others⟩

end Checks
end RustOp.Effects
