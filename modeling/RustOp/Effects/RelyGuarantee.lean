import RustOp.Effects.Interleave
import Mathlib

/-!
Contracts of programs that take turns. Each program keeps an assertion that no
step of the others breaks; in return each of its own steps stays within a
guarantee. What the guarantees promise then holds of every run.
-/
namespace RustOp.Effects

variable {S T : Sig} {σ ι α β : Type}

/-- No step within the rely breaks the assertion. -/
def Stable (Rely : σ → σ → Prop) (P : σ → Prop) : Prop := ∀ s s', Rely s s' → P s → P s'

/-- What a step may do, by operation and answer. -/
abbrev Guarantee (S : Sig) (σ : Type) := (o : S.Op) → σ → S.Res o → σ → Prop

namespace Prog
variable (sem : Sem S σ) (Rely : σ → σ → Prop) (G : Guarantee S σ)

/-- From `P`, while others act within the rely, every step stays within the
    guarantee, and the program returns in `Q`. -/
def Contract (P : σ → Prop) : Prog S α → (α → σ → Prop) → Prop
  | .ret a, Q => ∀ s, P s → Q a s
  | .call o k, Q => ∀ s r s', P s → sem o s r s' → G o s r s' ∧
      ∃ P', Stable Rely P' ∧ P' s' ∧ Contract P' (k r) Q

variable {sem Rely G} {P P' : σ → Prop}

theorem Contract.weaken {p : Prog S α} {Q : α → σ → Prop} (contract : Contract sem Rely G P' p Q)
    (implies : ∀ s, P s → P' s) : Contract sem Rely G P p Q := by
  cases p with
  | ret a => exact fun s holds => contract s (implies s holds)
  | call o k => exact fun s r s' holds does => contract s r s' (implies s holds) does

theorem Contract.bind {p : Prog S α} {f : α → Prog S β} {Q : α → σ → Prop} {W : β → σ → Prop}
    (first : Contract sem Rely G P p Q) (rest : ∀ a, Contract sem Rely G (Q a) (f a) W) :
    Contract sem Rely G P (p >>= f) W := by
  induction p generalizing P with
  | ret a => exact (rest a).weaken first
  | call o k ih =>
    intro s r s' holds does
    obtain ⟨within, P', stable, holds', next⟩ := first s r s' holds does
    exact ⟨within, P', stable, holds', ih r next⟩

/-- A program whose every operation may be done at any time. -/
theorem Contract.of_uses {allowed : S.Op → Prop} (stable : Stable Rely P)
    (safe : ∀ o s r s', allowed o → P s → sem o s r s' → G o s r s' ∧ P s') {p : Prog S α}
    (uses : p.Uses allowed) : Contract sem Rely G P p fun _ => P := by
  induction p with
  | ret a => exact fun s holds => holds
  | call o k ih =>
    intro s r s' holds does
    obtain ⟨within, holds'⟩ := safe o s r s' uses.1 holds does
    exact ⟨within, P, stable, holds', ih r (uses.2 r)⟩

/-- Compiling keeps a contract that every compiled operation keeps. -/
theorem Contract.lower {impl : (o : T.Op) → Prog S (T.Res o)} {allowed : T.Op → Prop}
    (each : ∀ o, allowed o → Contract sem Rely G P (impl o) fun _ => P) {p : Prog T α} (uses : p.Uses allowed) :
    Contract sem Rely G P (p.lower impl) fun _ => P := by
  induction p with
  | ret a => exact fun s holds => holds
  | call o k ih => exact (each o uses.1).bind fun r => ih r (uses.2 r)

/-! ### What a result has cost -/

/-- Every branch to an accepted result passes an operation that was paid for. -/
def Pays (paid : (o : S.Op) → S.Res o → Prop) (accepted : α → Prop) : Prog S α → Prop
  | .ret a => ¬ accepted a
  | .call o k => ∀ r, paid o r ∨ (k r).Pays paid accepted

variable {paid : (o : S.Op) → S.Res o → Prop}

theorem Pays.weaken {accepted accepted' : α → Prop} (implies : ∀ a, accepted' a → accepted a) {p : Prog S α}
    (pays : p.Pays paid accepted) : p.Pays paid accepted' := by
  induction p with
  | ret a => exact fun holds => pays (implies a holds)
  | call o k ih => exact fun r => (pays r).imp_right (ih r)

theorem Pays.bind {p : Prog S α} {f : α → Prog S β} {good : α → Prop} {accepted : β → Prop}
    (first : p.Pays paid good) (rest : ∀ a, ¬ good a → (f a).Pays paid accepted) : (p >>= f).Pays paid accepted := by
  induction p with
  | ret a => exact rest a first
  | call o k ih => exact fun r => (first r).imp_right (ih r)

/-- A program without accepted results owes nothing. -/
theorem Pays.of_never {accepted : α → Prop} (never : ∀ a, ¬ accepted a) (p : Prog S α) : p.Pays paid accepted := by
  induction p with
  | ret a => exact never a
  | call o k ih => exact fun r => .inr (ih r)

/-- Whatever comes before, the rest pays. -/
theorem Pays.after {f : α → Prog S β} {accepted : β → Prop} (p : Prog S α) (rest : ∀ a, (f a).Pays paid accepted) :
    (p >>= f).Pays paid accepted :=
  (Pays.of_never (fun _ => not_false) p).bind fun a _ => rest a

/-- A compiled program pays if each compiled operation does for its own answer. -/
theorem Pays.lower {impl : (o : T.Op) → Prog S (T.Res o)} {price : (o : T.Op) → T.Res o → Prop} {accepted : α → Prop}
    (each : ∀ o, (impl o).Pays paid (price o)) {p : Prog T α} (pays : p.Pays price accepted) :
    (p.lower impl).Pays paid accepted := by
  induction p with
  | ret a => exact pays
  | call o k ih => exact (each o).bind fun r unpaid => ih r ((pays r).resolve_left unpaid)

end Prog

/-! ### Runs -/

namespace Pool
variable [DecidableEq ι] {sem : Sem S σ} {Rely Env : σ → σ → Prop} {G : Guarantee S σ}

/-- Every thread is under contract. -/
def Safe (sem : Sem S σ) (Rely : σ → σ → Prop) (G : Guarantee S σ) (c : Pool S σ ι α) : Prop :=
  ∀ i, ∃ P, Stable Rely P ∧ P c.state ∧ Prog.Contract sem Rely G P (c.threads i) fun _ _ => True

/-- A step of a safe pool is within the guarantee, and the pool stays safe. -/
theorem Safe.step (guaranteed : ∀ o s r s', G o s r s' → Rely s s') (quiet : ∀ s s', Env s s' → Rely s s')
    {c c' : Pool S σ ι α} (safe : c.Safe sem Rely G) (step : Step sem Env c c') :
    c'.Safe sem Rely G ∧
      ((∃ o, c'.trace = o :: c.trace ∧ G o.op c.state o.answer c'.state) ∨
        (c'.trace = c.trace ∧ Env c.state c'.state)) := by
  cases step with
  | env changes =>
    refine ⟨fun i => ?_, .inr ⟨rfl, changes⟩⟩
    obtain ⟨P, stable, holds, contract⟩ := safe i
    exact ⟨P, stable, stable _ _ (quiet _ _ changes) holds, contract⟩
  | @act i o k r s next does =>
    obtain ⟨P, -, holds, contract⟩ := safe i
    rw [next] at contract
    obtain ⟨within, P', stable', holds', rest⟩ := contract c.state r s holds does
    refine ⟨fun j => ?_, .inl ⟨_, rfl, within⟩⟩
    by_cases same : j = i
    · subst same
      exact ⟨P', stable', holds', by simpa using rest⟩
    · obtain ⟨Q, stable, holdsQ, other⟩ := safe j
      exact ⟨Q, stable, stable _ _ (guaranteed _ _ _ _ within) holdsQ, by simpa [same] using other⟩

/-- If what a step pays for can be paid once and never comes back, no two
    operations of a run are paid. -/
theorem paid_once {paid : (o : S.Op) → S.Res o → Prop} {spent : σ → Prop}
    (guaranteed : ∀ o s r s', G o s r s' → Rely s s') (quiet : ∀ s s', Env s s' → Rely s s')
    (forever : ∀ s s', Rely s s' → spent s → spent s')
    (price : ∀ o s r s', G o s r s' → paid o r → ¬ spent s ∧ spent s')
    {c c' : Pool S σ ι α} (safe : c.Safe sem Rely G) (fresh : c.trace = [])
    (steps : Relation.ReflTransGen (Step sem Env) c c') :
    c'.trace.Pairwise fun a b => ¬ (paid a.op a.answer ∧ paid b.op b.answer) := by
  have inv : c'.Safe sem Rely G ∧ (c'.trace.Pairwise fun a b => ¬ (paid a.op a.answer ∧ paid b.op b.answer)) ∧
      ∀ a ∈ c'.trace, paid a.op a.answer → spent c'.state := by
    refine invariant (I := fun c => c.Safe sem Rely G ∧
      (c.trace.Pairwise fun a b => ¬ (paid a.op a.answer ∧ paid b.op b.answer)) ∧
      ∀ a ∈ c.trace, paid a.op a.answer → spent c.state) ?_ steps ⟨safe, by simp [fresh], by simp [fresh]⟩
    rintro c c' step ⟨safe, once, kept⟩
    obtain ⟨safe', ⟨o, trace, within⟩ | ⟨trace, changes⟩⟩ := safe.step guaranteed quiet step
    · refine ⟨safe', ?_, ?_⟩
      · rw [trace, List.pairwise_cons]
        refine ⟨fun a earlier => ?_, once⟩
        rintro ⟨now, before⟩
        exact (price _ _ _ _ within now).1 (kept a earlier before)
      · intro a listed pays
        rw [trace] at listed
        rcases List.mem_cons.mp listed with rfl | earlier
        · exact (price _ _ _ _ within pays).2
        · exact forever _ _ (guaranteed _ _ _ _ within) (kept a earlier pays)
    · rw [trace]
      exact ⟨safe', once, fun a listed pays => forever _ _ (quiet _ _ changes) (kept a listed pays)⟩
  exact inv.2.1

/-- A thread that ends with an accepted result has paid. -/
theorem paid_of_accepted {paid : (o : S.Op) → S.Res o → Prop} {accepted : α → Prop} {c c' : Pool S σ ι α} {i : ι}
    (pays : (c.threads i).Pays paid accepted) (steps : Relation.ReflTransGen (Step sem Env) c c') {a : α}
    (ends : c'.threads i = .ret a) (good : accepted a) : ∃ o ∈ c'.trace, o.thread = i ∧ paid o.op o.answer := by
  have inv : (c'.threads i).Pays paid accepted ∨ ∃ o ∈ c'.trace, o.thread = i ∧ paid o.op o.answer := by
    refine invariant (I := fun c => (c.threads i).Pays paid accepted ∨ ∃ o ∈ c.trace, o.thread = i ∧ paid o.op o.answer)
      ?_ steps (.inl pays)
    rintro c c' step (pays | ⟨o, listed, own, was⟩)
    · cases step with
      | env changes => exact .inl pays
      | @act j o k r s next does =>
        by_cases same : i = j
        · subst same
          rw [next] at pays
          rcases pays r with now | later
          · exact .inr ⟨_, List.mem_cons_self, rfl, now⟩
          · exact .inl (by simpa using later)
        · exact .inl (by simpa [same] using pays)
    · cases step with
      | env changes => exact .inr ⟨o, listed, own, was⟩
      | act => exact .inr ⟨o, List.mem_cons_of_mem _ listed, own, was⟩
  rcases inv with pays | done
  · rw [ends] at pays
    exact absurd good pays
  · exact done

/-- At most one thread ends with a result that only a paid operation gives. -/
theorem accepted_once {paid : (o : S.Op) → S.Res o → Prop} {accepted : α → Prop} {spent : σ → Prop}
    (guaranteed : ∀ o s r s', G o s r s' → Rely s s') (quiet : ∀ s s', Env s s' → Rely s s')
    (forever : ∀ s s', Rely s s' → spent s → spent s')
    (price : ∀ o s r s', G o s r s' → paid o r → ¬ spent s ∧ spent s')
    {c c' : Pool S σ ι α} (safe : c.Safe sem Rely G) (fresh : c.trace = [])
    (steps : Relation.ReflTransGen (Step sem Env) c c') {i j : ι} (paysI : (c.threads i).Pays paid accepted)
    (paysJ : (c.threads j).Pays paid accepted) {a b : α} (endsI : c'.threads i = .ret a) (endsJ : c'.threads j = .ret b)
    (goodI : accepted a) (goodJ : accepted b) : i = j := by
  have once := paid_once guaranteed quiet forever price safe fresh steps
  obtain ⟨x, listedX, rfl, paidX⟩ := paid_of_accepted paysI steps endsI goodI
  obtain ⟨y, listedY, rfl, paidY⟩ := paid_of_accepted paysJ steps endsJ goodJ
  by_contra differ
  have apart : x ≠ y := fun same => differ (congrArg Occurrence.thread same)
  have : Std.Symm fun a b : Occurrence S ι => ¬ (paid a.op a.answer ∧ paid b.op b.answer) :=
    ⟨fun _ _ not both => not both.symm⟩
  exact once.forall listedX listedY apart ⟨paidX, paidY⟩

end Pool
end RustOp.Effects
