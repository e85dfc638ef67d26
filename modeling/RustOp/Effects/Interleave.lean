import RustOp.Effects.Prog
import Mathlib

/-!
Programs that share a state and take turns at single operations. What an
operation may answer and do is a relation, so that a backend may fail or act on
its own. The trace records who did what, newest first.
-/
namespace RustOp.Effects

variable {S : Sig} {σ ι α : Type}

/-- What each operation may answer in a state, and the state after it. -/
abbrev Sem (S : Sig) (σ : Type) := (o : S.Op) → σ → S.Res o → σ → Prop

/-- The operations of a handler, which leave no choice. -/
def Sem.ofHandler (h : Prog.Handler S σ) : Sem S σ := fun o s r s' => h o s = (r, s')

/-- A program that runs to its end with nothing in between. -/
inductive Runs (sem : Sem S σ) : Prog S α → σ → α → σ → Prop where
  | ret (a : α) (s : σ) : Runs sem (.ret a) s a s
  | call {o : S.Op} {k : S.Res o → Prog S α} {r : S.Res o} {s s' s'' : σ} {a : α} (does : sem o s r s')
      (rest : Runs sem (k r) s' a s'') : Runs sem (.call o k) s a s''

theorem runs_ret {sem : Sem S σ} {a b : α} {s s' : σ} : Runs sem (.ret a) s b s' ↔ b = a ∧ s' = s := by
  constructor
  · intro runs
    cases runs
    exact ⟨rfl, rfl⟩
  · rintro ⟨rfl, rfl⟩
    exact .ret b s'

theorem runs_call {sem : Sem S σ} {o : S.Op} {k : S.Res o → Prog S α} {a : α} {s s'' : σ} :
    Runs sem (.call o k) s a s'' ↔ ∃ r s', sem o s r s' ∧ Runs sem (k r) s' a s'' := by
  constructor
  · intro runs
    cases runs with
    | call does rest => exact ⟨_, _, does, rest⟩
  · rintro ⟨r, s', does, rest⟩
    exact .call does rest

theorem runs_bind {β : Type} {sem : Sem S σ} {p : Prog S α} {f : α → Prog S β} {b : β} {s s'' : σ} :
    Runs sem (p >>= f) s b s'' ↔ ∃ a s', Runs sem p s a s' ∧ Runs sem (f a) s' b s'' := by
  induction p generalizing s with
  | ret a => simp [runs_ret]
  | call o k ih =>
    rw [Prog.call_bind, runs_call]
    constructor
    · rintro ⟨r, s', does, rest⟩
      obtain ⟨a, t, first, last⟩ := (ih r).mp rest
      exact ⟨a, t, .call does first, last⟩
    · rintro ⟨a, t, first, last⟩
      obtain ⟨r, s', does, rest⟩ := runs_call.mp first
      exact ⟨r, s', does, (ih r).mpr ⟨a, t, rest, last⟩⟩

theorem Runs.mono {sem sem' : Sem S σ} (acts : ∀ o s r s', sem o s r s' → sem' o s r s') {p : Prog S α} {s s' : σ} {a : α}
    (runs : Runs sem p s a s') : Runs sem' p s a s' := by
  induction runs with
  | ret a s => exact .ret a s
  | call does rest ih => exact .call (acts _ _ _ _ does) ih

/-- What every allowed operation keeps, a program that runs to its end keeps. -/
theorem Prog.Uses.runs {sem : Sem S σ} {allowed : S.Op → Prop} {I : σ → Prop}
    (keeps : ∀ o s r s', allowed o → I s → sem o s r s' → I s') {p : Prog S α} {s s' : σ} {a : α} (uses : p.Uses allowed)
    (ran : Runs sem p s a s') (holds : I s) : I s' := by
  induction ran with
  | ret a s => exact holds
  | call does rest ih => exact ih (uses.2 _) (keeps _ _ _ _ uses.1 holds does)

/-- Every run of a program leaves a state that is related to the one it began in. -/
def Prog.Relates (sem : Sem S σ) (R : σ → σ → Prop) (p : Prog S α) : Prop := ∀ s a s', Runs sem p s a s' → R s s'

section relates
variable {sem : Sem S σ} {R : σ → σ → Prop}

theorem Prog.Relates.ret (refl : ∀ s, R s s) (a : α) : (Prog.ret a : Prog S α).Relates sem R := by
  intro s b s' runs
  obtain ⟨-, rfl⟩ := runs_ret.mp runs
  exact refl s'

theorem Prog.Relates.bind {β : Type} {p : Prog S α} {f : α → Prog S β} (first : p.Relates sem R)
    (trans : ∀ a b c, R a b → R b c → R a c) (rest : ∀ a, (f a).Relates sem R) : (p >>= f).Relates sem R := by
  intro s b s'' runs
  obtain ⟨a, s', ran, continued⟩ := runs_bind.mp runs
  exact trans _ _ _ (first _ _ _ ran) (rest a _ _ _ continued)

/-- What every allowed operation relates, a program that uses no others relates. -/
theorem Prog.Relates.of_uses {allowed : S.Op → Prop} (refl : ∀ s, R s s) (trans : ∀ a b c, R a b → R b c → R a c)
    (each : ∀ o s r s', allowed o → sem o s r s' → R s s') {p : Prog S α} (uses : p.Uses allowed) : p.Relates sem R := by
  intro s a s' runs
  induction runs with
  | ret a s => exact refl s
  | call does rest ih => exact trans _ _ _ (each _ _ _ _ uses.1 does) (ih (uses.2 _))

end relates

/-- The run of a handler. -/
theorem runs_ofHandler {h : Prog.Handler S σ} {p : Prog S α} {s s' : σ} {a : α} :
    Runs (Sem.ofHandler h) p s a s' ↔ Prog.run h p s = (a, s') := by
  induction p generalizing s with
  | ret b =>
    rw [runs_ret, Prog.run_ret, Prod.mk.injEq]
    exact and_congr eq_comm eq_comm
  | call o k ih =>
    rw [runs_call, Prog.run_call]
    constructor
    · rintro ⟨r, t, does, rest⟩
      have step : h o s = (r, t) := does
      rw [step]
      exact (ih r).mp rest
    · intro ran
      exact ⟨_, _, rfl, (ih _).mpr ran⟩

/-- An operation that was performed, with its answer. -/
structure Occurrence (S : Sig) (ι : Type) where
  thread : ι
  op : S.Op
  answer : S.Res op

/-- Programs around one state. -/
structure Pool (S : Sig) (σ ι α : Type) where
  state : σ
  threads : ι → Prog S α
  trace : List (Occurrence S ι)

namespace Pool

/-- What every step keeps holds after any number of steps. -/
theorem invariant {R : Pool S σ ι α → Pool S σ ι α → Prop} {I : Pool S σ ι α → Prop}
    (keeps : ∀ {c c'}, R c c' → I c → I c') {c c' : Pool S σ ι α} (steps : Relation.ReflTransGen R c c')
    (holds : I c) : I c' := by
  induction steps with
  | refl => exact holds
  | tail _ step ih => exact keeps step ih

/-- Every thread has returned. -/
def Finished (c : Pool S σ ι α) : Prop := ∀ i, ∃ a, c.threads i = .ret a

theorem finished_iff {c : Pool S σ ι α} : c.Finished ↔ ∀ i, (c.threads i).next.isNone = true := by
  refine forall_congr' fun i => ?_
  cases c.threads i with
  | ret a => simp [Prog.next]
  | call o k => simp [Prog.next]

variable [DecidableEq ι]

/-- One thread performs its next operation, or the environment acts. -/
inductive Step (sem : Sem S σ) (Env : σ → σ → Prop) : Pool S σ ι α → Pool S σ ι α → Prop where
  | act {c : Pool S σ ι α} (i : ι) {o : S.Op} {k : S.Res o → Prog S α} {r : S.Res o} {s : σ}
      (next : c.threads i = .call o k) (does : sem o c.state r s) :
      Step sem Env c ⟨s, Function.update c.threads i (k r), ⟨i, o, r⟩ :: c.trace⟩
  | env {c : Pool S σ ι α} {s : σ} (changes : Env c.state s) : Step sem Env c { c with state := s }

theorem Step.mono {sem sem' : Sem S σ} {Env Env' : σ → σ → Prop} (acts : ∀ o s r s', sem o s r s' → sem' o s r s')
    (changes : ∀ s s', Env s s' → Env' s s') {c c' : Pool S σ ι α} (step : Step sem Env c c') : Step sem' Env' c c' := by
  cases step with
  | act i next does => exact .act i next (acts _ _ _ _ does)
  | env changed => exact .env (changes _ _ changed)

/-- A thread may run to its end before anybody else acts. -/
theorem runs_steps {sem : Sem S σ} (Env : σ → σ → Prop) {p : Prog S α} {s s' : σ} {a : α} (runs : Runs sem p s a s')
    {c : Pool S σ ι α} {i : ι} (here : c.threads i = p) (at_ : c.state = s) :
    ∃ trace, Relation.ReflTransGen (Step sem Env) c ⟨s', Function.update c.threads i (.ret a), trace⟩ := by
  induction runs generalizing c with
  | ret a s =>
    have same : Function.update c.threads i (.ret a) = c.threads := by rw [← here, Function.update_eq_self]
    refine ⟨c.trace, ?_⟩
    rw [same, ← at_]
  | @call o k r s s₁ s₂ a does rest ih =>
    subst at_
    have step : Step sem Env c ⟨s₁, Function.update c.threads i (k r), ⟨i, o, r⟩ :: c.trace⟩ := .act i here does
    obtain ⟨trace, steps⟩ := ih (c := ⟨s₁, Function.update c.threads i (k r), ⟨i, o, r⟩ :: c.trace⟩) (by simp) rfl
    exact ⟨trace, by simpa using Relation.ReflTransGen.head step steps⟩

/-- Thread `i` performs its next operation, if it has one. -/
def fire (h : Prog.Handler S σ) (c : Pool S σ ι α) (i : ι) : Pool S σ ι α :=
  match c.threads i with
  | .ret _ => c
  | .call o k => ⟨(h o c.state).2, Function.update c.threads i (k (h o c.state).1), ⟨i, o, (h o c.state).1⟩ :: c.trace⟩

/-- The threads act in the given order. -/
def schedule (h : Prog.Handler S σ) (c : Pool S σ ι α) (order : List ι) : Pool S σ ι α := order.foldl (fire h) c

theorem schedule_append (h : Prog.Handler S σ) (c : Pool S σ ι α) (order more : List ι) :
    schedule h c (order ++ more) = schedule h (schedule h c order) more := List.foldl_append

/-- An order of turns, each thread named by its number. -/
def turns {n : Nat} (order : List Nat) : List (Fin (n + 1)) := order.map (Fin.ofNat (n + 1))

theorem fire_steps (h : Prog.Handler S σ) (Env : σ → σ → Prop) (c : Pool S σ ι α) (i : ι) :
    fire h c i = c ∨ Step (Sem.ofHandler h) Env c (fire h c i) := by
  unfold fire
  cases next : c.threads i with
  | ret a => exact .inl rfl
  | call o k => exact .inr (.act i next rfl)

/-- The turn of a thread that has something left to do. -/
theorem fire_step (h : Prog.Handler S σ) (Env : σ → σ → Prop) {c : Pool S σ ι α} {i : ι} {o : S.Op}
    (next : (c.threads i).next = some o) : Step (Sem.ofHandler h) Env c (fire h c i) ∧
      (fire h c i).trace = ⟨i, o, (h o c.state).1⟩ :: c.trace := by
  unfold fire
  cases here : c.threads i with
  | ret a =>
    rw [here] at next
    cases next
  | call o' k =>
    rw [here] at next
    cases next
    exact ⟨.act i here rfl, rfl⟩

/-- `P` holds before each turn. -/
def Before (h : Prog.Handler S σ) (P : Pool S σ ι α → ι → Prop) : Pool S σ ι α → List ι → Prop
  | _, [] => True
  | c, i :: rest => P c i ∧ Before h P (fire h c i) rest

instance decidableBefore (h : Prog.Handler S σ) (P : Pool S σ ι α → ι → Prop) [dec : ∀ c i, Decidable (P c i)] :
    (c : Pool S σ ι α) → (order : List ι) → Decidable (Before h P c order)
  | _, [] => inferInstanceAs (Decidable True)
  | c, i :: rest =>
    have := decidableBefore h P (fire h c i) rest
    inferInstanceAs (Decidable (P c i ∧ Before h P (fire h c i) rest))

/-- Every order of turns is a run, and each step is as the test before it promises. -/
theorem schedule_steps_where {h : Prog.Handler S σ} {Env : σ → σ → Prop} {P : Pool S σ ι α → ι → Prop}
    {Q : Pool S σ ι α → Pool S σ ι α → Prop} (promise : ∀ c i, P c i → Q c (fire h c i)) {c : Pool S σ ι α}
    {order : List ι} (before : Before h P c order) :
    Relation.ReflTransGen (fun c c' => Step (Sem.ofHandler h) Env c c' ∧ Q c c') c (schedule h c order) := by
  induction order generalizing c with
  | nil => exact .refl
  | cons i rest ih =>
    have tail := ih before.2
    obtain same | step := fire_steps h Env c i
    · rw [same] at tail
      simpa [schedule, same] using tail
    · exact .head ⟨step, promise c i before.1⟩ tail

/-- Every order of turns is a run. -/
theorem schedule_steps (h : Prog.Handler S σ) (Env : σ → σ → Prop) (c : Pool S σ ι α) (order : List ι) :
    Relation.ReflTransGen (Step (Sem.ofHandler h) Env) c (schedule h c order) := by
  have all : ∀ (order : List ι) (c : Pool S σ ι α), Before h (fun _ _ => True) c order := by
    intro order
    induction order with
    | nil => exact fun _ => trivial
    | cons i rest ih => exact fun c => ⟨trivial, ih _⟩
  have steps : Relation.ReflTransGen (fun c c' => Step (Sem.ofHandler h) Env c c' ∧ True) c (schedule h c order) :=
    schedule_steps_where (fun _ _ _ => trivial) (all order c)
  simpa using steps

end Pool
end RustOp.Effects
