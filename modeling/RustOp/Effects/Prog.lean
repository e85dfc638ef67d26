import Mathlib

/-!
Programs that act on a store one operation at a time. A program is the tree of
its operations and of what it does after each answer, so the same text of a
handler can be run alone against a store (`run`), compiled to a lower level
(`lower`), or interleaved with other programs.
-/
namespace RustOp.Effects

/-- The operations a program may perform, and the type of each answer. -/
structure Sig where
  Op : Type
  Res : Op → Type

/-- A finite tree of operations; every answer selects a branch. -/
inductive Prog (S : Sig) (α : Type) : Type where
  | ret (a : α)
  | call (o : S.Op) (k : S.Res o → Prog S α)

variable {S T : Sig} {α β σ : Type}

namespace Prog

def bind : Prog S α → (α → Prog S β) → Prog S β
  | .ret a, f => f a
  | .call o k, f => .call o (fun r => (k r).bind f)

instance : Monad (Prog S) where
  pure := .ret
  bind := bind

/-- One operation, returning its answer. -/
def perform (o : S.Op) : Prog S (S.Res o) := .call o .ret

/-- The operation a program performs next. -/
def next : Prog S α → Option S.Op
  | .ret _ => none
  | .call o _ => some o

/-- The result of a program that has nothing left to do. -/
def result : Prog S α → Option α
  | .ret a => some a
  | .call _ _ => none

theorem result_eq_some {p : Prog S α} {a : α} : p.result = some a ↔ p = .ret a := by
  cases p <;> simp [result]

@[simp] theorem pure_eq (a : α) : (pure a : Prog S α) = .ret a := rfl
@[simp] theorem ret_bind (a : α) (f : α → Prog S β) : (Prog.ret a : Prog S α) >>= f = f a := rfl
@[simp] theorem call_bind (o : S.Op) (k : S.Res o → Prog S α) (f : α → Prog S β) :
    Prog.call o k >>= f = .call o (fun r => k r >>= f) := rfl
@[simp] theorem perform_bind (o : S.Op) (f : S.Res o → Prog S β) : perform o >>= f = .call o f := rfl

private theorem id_map_prog (p : Prog S α) : id <$> p = p := by
  induction p with
  | ret a => rfl
  | call o k ih => exact congrArg (Prog.call o) (funext ih)

private theorem bind_assoc_prog {γ : Type} (p : Prog S α) (f : α → Prog S β) (g : β → Prog S γ) :
    p >>= f >>= g = p >>= fun a => f a >>= g := by
  induction p with
  | ret a => rfl
  | call o k ih => exact congrArg (Prog.call o) (funext ih)

instance : LawfulMonad (Prog S) :=
  LawfulMonad.mk' _ id_map_prog (fun _ _ => rfl) bind_assoc_prog

/-! ### Running alone -/

/-- The answer and the next state of every operation. -/
abbrev Handler (S : Sig) (σ : Type) := (o : S.Op) → σ → S.Res o × σ

/-- Executes a program with nothing in between. -/
def run (h : Handler S σ) : Prog S α → σ → α × σ
  | .ret a, s => (a, s)
  | .call o k, s => run h (k (h o s).1) (h o s).2

variable (h : Handler S σ)

@[simp] theorem run_ret (a : α) (s : σ) : run h (.ret a) s = (a, s) := rfl
@[simp] theorem run_call (o : S.Op) (k : S.Res o → Prog S α) (s : σ) :
    run h (.call o k) s = run h (k (h o s).1) (h o s).2 := rfl
@[simp] theorem run_perform (o : S.Op) (s : σ) : run h (perform o) s = h o s := rfl
@[simp] theorem run_bind (p : Prog S α) (f : α → Prog S β) (s : σ) :
    run h (p >>= f) s = run h (f (run h p s).1) (run h p s).2 := by
  induction p generalizing s with
  | ret a => rfl
  | call o k ih => exact ih _ _

/-- Replaces every operation by a program one level down. -/
def lower (impl : (o : S.Op) → Prog T (S.Res o)) : Prog S α → Prog T α
  | .ret a => .ret a
  | .call o k => impl o >>= fun r => (k r).lower impl

@[simp] theorem lower_ret (impl : (o : S.Op) → Prog T (S.Res o)) (a : α) :
    lower impl (.ret a) = .ret a := rfl
@[simp] theorem lower_call (impl : (o : S.Op) → Prog T (S.Res o)) (o : S.Op) (k : S.Res o → Prog S α) :
    lower impl (.call o k) = impl o >>= fun r => (k r).lower impl := rfl
@[simp] theorem lower_bind (impl : (o : S.Op) → Prog T (S.Res o)) (p : Prog S α) (f : α → Prog S β) :
    lower impl (p >>= f) = lower impl p >>= fun a => lower impl (f a) := by
  induction p with
  | ret a => rfl
  | call o k ih => simp [ih]

/-- A compiled program run below is the program run against its compiled
    operations. -/
theorem run_lower (g : Handler T σ) (impl : (o : S.Op) → Prog T (S.Res o)) (p : Prog S α) (s : σ) :
    run g (lower impl p) s = run (fun o s => run g (impl o) s) p s := by
  induction p generalizing s with
  | ret a => rfl
  | call o k ih => simp [ih]

/-- Two handlers that agree through a view of the state run every program alike. -/
theorem run_view {τ : Type} {g : Handler S σ} {g' : Handler S τ} (view : σ → τ)
    (agrees : ∀ o s, (g o s).1 = (g' o (view s)).1 ∧ view (g o s).2 = (g' o (view s)).2) (p : Prog S α) (s : σ) :
    (run g p s).1 = (run g' p (view s)).1 ∧ view (run g p s).2 = (run g' p (view s)).2 := by
  induction p generalizing s with
  | ret a => exact ⟨rfl, rfl⟩
  | call o k ih =>
    obtain ⟨answer, state⟩ := agrees o s
    simp only [run_call, ← answer, ← state]
    exact ih _ _

/-! ### Contracts of a program that runs alone -/

/-- From every state with `P` the program ends with an answer and a state in `Q`. -/
def Triple (P : σ → Prop) (p : Prog S α) (Q : α → σ → Prop) : Prop :=
  ∀ s, P s → Q (run h p s).1 (run h p s).2

variable {h} {P : σ → Prop} {Q : α → σ → Prop}

theorem Triple.ret {a : α} (holds : ∀ s, P s → Q a s) : Triple h P (.ret a) Q := holds

theorem Triple.bind {p : Prog S α} {f : α → Prog S β} {R : β → σ → Prop}
    (first : Triple h P p Q) (rest : ∀ a, Triple h (Q a) (f a) R) : Triple h P (p >>= f) R := by
  intro s holds
  rw [run_bind]
  exact rest _ _ (first s holds)

theorem Triple.conseq {P' : σ → Prop} {Q' : α → σ → Prop} {p : Prog S α} (body : Triple h P p Q)
    (pre : ∀ s, P' s → P s) (post : ∀ a s, Q a s → Q' a s) : Triple h P' p Q' :=
  fun s holds => post _ _ (body s (pre s holds))

/-! ### The operations a program can reach -/

/-- Every operation on every branch is allowed. -/
def Uses (allowed : S.Op → Prop) : Prog S α → Prop
  | .ret _ => True
  | .call o k => allowed o ∧ ∀ r, (k r).Uses allowed

theorem Uses.bind {allowed : S.Op → Prop} {p : Prog S α} {f : α → Prog S β}
    (first : p.Uses allowed) (rest : ∀ a, (f a).Uses allowed) : (p >>= f).Uses allowed := by
  induction p with
  | ret a => exact rest a
  | call o k ih => exact ⟨first.1, fun r => ih r (first.2 r)⟩

theorem Uses.mono {allowed allowed' : S.Op → Prop} (implies : ∀ o, allowed o → allowed' o) {p : Prog S α}
    (uses : p.Uses allowed) : p.Uses allowed' := by
  induction p with
  | ret a => trivial
  | call o k ih => exact ⟨implies o uses.1, fun r => ih r (uses.2 r)⟩

/-- A compiled program does what its operations do. -/
theorem Uses.lower {allowed : S.Op → Prop} {below : T.Op → Prop} {impl : (o : S.Op) → Prog T (S.Res o)}
    (each : ∀ o, allowed o → (impl o).Uses below) {p : Prog S α} (uses : p.Uses allowed) : (p.lower impl).Uses below := by
  induction p with
  | ret a => trivial
  | call o k ih => exact (each o uses.1).bind fun r => ih r (uses.2 r)

/-- What every allowed operation keeps, the whole program keeps. -/
theorem Uses.preserves {allowed : S.Op → Prop} {p : Prog S α} (uses : p.Uses allowed) {I : σ → Prop}
    (keeps : ∀ o s, allowed o → I s → I (h o s).2) {s : σ} (holds : I s) : I (run h p s).2 := by
  induction p generalizing s with
  | ret a => exact holds
  | call o k ih => exact ih _ (uses.2 _) (keeps o s uses.1 holds)

end Prog
end RustOp.Effects
