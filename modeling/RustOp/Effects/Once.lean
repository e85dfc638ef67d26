import RustOp.Effects.History

/-!
Programs that do a thing once. Of one kind of operations such a program asks for at
most one, however it is answered; in a run so does its thread.
-/
namespace RustOp.Effects

variable {S T : Sig} {σ ι α β : Type}

namespace Prog

/-- At most one operation of the kind is asked for. -/
def Once (P : S.Op → Prop) : Prog S α → Prop
  | .ret _ => True
  | .call o k => (P o → ∀ r, (k r).Uses fun o => ¬P o) ∧ ∀ r, (k r).Once P

namespace Once
variable {P : S.Op → Prop} {p : Prog S α} {f : α → Prog S β}

theorem of_uses (never : p.Uses fun o => ¬P o) : p.Once P := by
  induction p with
  | ret a => trivial
  | call o k ih => exact ⟨fun asked => absurd asked never.1, fun r => ih r (never.2 r)⟩

/-- It is done by the second of two programs. -/
theorem bind_second (never : p.Uses fun o => ¬P o) (once : ∀ a, (f a).Once P) : (p >>= f).Once P := by
  induction p with
  | ret a => exact once a
  | call o k ih => exact ⟨fun asked => absurd asked never.1, fun r => ih r (never.2 r)⟩

/-- It is done by the first of two programs. -/
theorem bind_first (once : p.Once P) (never : ∀ a, (f a).Uses fun o => ¬P o) : (p >>= f).Once P := by
  induction p with
  | ret a => exact of_uses (never a)
  | call o k ih => exact ⟨fun asked r => (once.1 asked r).bind never, fun r => ih r (once.2 r)⟩

/-- One level down, the operations of the kind are done once if each of them does
    its own once. -/
theorem lower {Q : T.Op → Prop} {impl : (o : S.Op) → Prog T (S.Res o)} (kind : ∀ o, P o → (impl o).Once Q)
    (other : ∀ o, ¬P o → (impl o).Uses fun o => ¬Q o) (once : p.Once P) : (p.lower impl).Once Q := by
  induction p with
  | ret a => trivial
  | call o k ih =>
    by_cases asked : P o
    · exact bind_first (kind o asked) fun r => Prog.Uses.lower other (once.1 asked r)
    · exact bind_second (other o asked) fun r => ih r (once.2 r)

end Once

/-- What every justified operation is, the program uses. -/
theorem Justified.uses {J : Past S → S.Op → Prop} {R : Past S → α → Prop} {allowed : S.Op → Prop}
    (each : ∀ past o, J past o → allowed o) {p : Prog S α} {past : Past S} (justified : p.Justified J R past) :
    p.Uses allowed := by
  induction p generalizing past with
  | ret a => trivial
  | call o k ih => exact ⟨each past o justified.1, fun r => ih r (justified.2 r)⟩

end Prog

/-! ### Runs -/

namespace Pool
variable [DecidableEq ι] {sem : Sem S σ} {Env : σ → σ → Prop} {J : ι → Past S → S.Op → Prop} {P : S.Op → Prop}

/-- A thread that does a thing once has either not done it, or will not do it again. -/
structure OnceBy (P : S.Op → Prop) (c : Pool S σ ι α) (i : ι) : Prop where
  once : (c.threads i).Once P
  done : ∀ e ∈ past c.trace i, P e.1 → (c.threads i).Uses fun o => ¬P o

theorem OnceBy.step {c c' : Pool S σ ι α} {i : ι} (by_ : OnceBy P c i) (did : Did sem Env J c c') : OnceBy P c' i := by
  cases did with
  | env _ trace threads => exact ⟨threads ▸ by_.once, trace ▸ threads ▸ by_.done⟩
  | act e k next _ _ trace threads =>
    by_cases own : i = e.thread
    · subst own
      obtain ⟨once, done⟩ := by_
      rw [next] at once done
      have now : c'.threads e.thread = k e.answer := by rw [threads, Function.update_self]
      refine ⟨now ▸ once.2 _, fun x listed kind => ?_⟩
      rw [trace, past_cons, if_pos rfl] at listed
      rw [now]
      rcases List.mem_cons.mp listed with rfl | earlier
      · exact once.1 kind _
      · exact (done x earlier kind).2 _
    · have same : c'.threads i = c.threads i := by rw [threads, Function.update_of_ne own]
      refine ⟨same ▸ by_.once, fun x listed kind => ?_⟩
      rw [trace, past_cons, if_neg (Ne.symm own)] at listed
      rw [same]
      exact by_.done x listed kind

/-- Whoever is about to do it has not done it before. -/
theorem OnceBy.first {c : Pool S σ ι α} {i : ι} (by_ : OnceBy P c i) {o : S.Op} {k : S.Res o → Prog S α}
    (next : c.threads i = .call o k) (kind : P o) {e : (o : S.Op) × S.Res o} (listed : e ∈ past c.trace i) : ¬P e.1 := by
  intro earlier
  have never := by_.done e listed earlier
  rw [next] at never
  exact never.1 kind

/-- In a run of such threads, those that did it are all different. -/
theorem once_nodup {R : ι → Past S → α → Prop} {W : Pool S σ ι α → Pool S σ ι α → Prop} {c c' : Pool S σ ι α}
    (honest : c.Honest J R) (fresh : c.trace = []) (once : ∀ i, (c.threads i).Once P) {K : Occurrence S ι → Bool}
    (kind : ∀ e, K e = true → P e.op) (steps : Relation.ReflTransGen (fun c c' => Step sem Env c c' ∧ W c c') c c') :
    (∀ i, OnceBy P c' i) ∧ ((c'.trace.filter K).map (·.thread)).Nodup := by
  refine (honest.induct (W := W) (I := fun c => (∀ i, OnceBy P c i) ∧ ((c.trace.filter K).map (·.thread)).Nodup) ?_
    ⟨fun i => ⟨once i, by simp [fresh, past]⟩, by simp [fresh]⟩ steps).1
  rintro c c' ⟨by_, distinct⟩ _ did _
  refine ⟨fun i => (by_ i).step did, ?_⟩
  cases did with
  | env _ trace _ => rwa [trace]
  | act e k next _ _ trace _ =>
    rw [trace]
    by_cases counted : K e = true
    · rw [List.filter_cons_of_pos counted, List.map_cons, List.nodup_cons]
      refine ⟨fun listed => ?_, distinct⟩
      obtain ⟨x, listed, same⟩ := List.mem_map.mp listed
      obtain ⟨listed, counted'⟩ := List.mem_filter.mp listed
      have earlier : (⟨x.op, x.answer⟩ : (o : S.Op) × S.Res o) ∈ past c.trace e.thread :=
        mem_past.mpr (same ▸ listed)
      exact (by_ e.thread).first next (kind e counted) earlier (kind x counted')
    · rwa [List.filter_cons_of_neg counted]

end Pool
end RustOp.Effects
