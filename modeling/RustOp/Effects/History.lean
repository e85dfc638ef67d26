import RustOp.Effects.Interleave

/-!
What a program may do, given what it has done. Every operation of a program is
justified by the operations it performed before and by their answers, whatever
others did in between. A run of a pool then only has to be looked at one
justified operation at a time.
-/
namespace RustOp.Effects

variable {S : Sig} {σ ι α β : Type}

/-- The operations a program has performed and their answers, newest first. -/
abbrev Past (S : Sig) := List ((o : S.Op) × S.Res o)

namespace Prog

/-- Each operation of the program is justified by its past, and so is its result. -/
def Justified (J : Past S → S.Op → Prop) (R : Past S → α → Prop) : Prog S α → Past S → Prop
  | .ret a, past => R past a
  | .call o k, past => J past o ∧ ∀ r, (k r).Justified J R (⟨o, r⟩ :: past)

namespace Justified
variable {J : Past S → S.Op → Prop} {R : Past S → α → Prop} {past : Past S}

theorem ret {a : α} (holds : R past a) : (Prog.ret a : Prog S α).Justified J R past := holds

theorem call {o : S.Op} {k : S.Res o → Prog S α} (allowed : J past o)
    (rest : ∀ r, (k r).Justified J R (⟨o, r⟩ :: past)) : (Prog.call o k).Justified J R past := ⟨allowed, rest⟩

theorem mono {R' : Past S → α → Prop} {p : Prog S α} (justified : p.Justified J R past)
    (implies : ∀ later a, past <:+ later → R later a → R' later a) : p.Justified J R' past := by
  induction p generalizing past with
  | ret a => exact implies past a (List.suffix_refl past) justified
  | call o k ih =>
    refine ⟨justified.1, fun r => ih r (justified.2 r) fun later a extends_ => implies later a ?_⟩
    exact (List.suffix_cons _ past).trans extends_

/-- One program after another; the past of the second goes on where the first ends. -/
theorem bind {Q : Past S → β → Prop} {p : Prog S α} {f : α → Prog S β} (first : p.Justified J R past)
    (rest : ∀ later a, past <:+ later → R later a → (f a).Justified J Q later) : (p >>= f).Justified J Q past := by
  induction p generalizing past with
  | ret a => exact rest past a (List.suffix_refl past) first
  | call o k ih =>
    refine ⟨first.1, fun r => ih r (first.2 r) fun later a extends_ => rest later a ?_⟩
    exact (List.suffix_cons _ past).trans extends_

/-- Operations that need no justification leave nothing else in the past. -/
theorem of_uses {allowed : S.Op → Prop} (free : ∀ past o, allowed o → J past o) {p : Prog S α} (uses : p.Uses allowed)
    (past : Past S) : p.Justified J (fun later _ => ∀ e ∈ later, e ∈ past ∨ allowed e.1) past := by
  have all : ∀ now, (∀ e ∈ now, e ∈ past ∨ allowed e.1) →
      p.Justified J (fun later _ => ∀ e ∈ later, e ∈ past ∨ allowed e.1) now := by
    induction p with
    | ret a => exact fun now known => known
    | call o k ih =>
      refine fun now known => ⟨free now o uses.1, fun r => ih r (uses.2 r) _ fun e listed => ?_⟩
      rcases List.mem_cons.mp listed with rfl | before
      · exact .inr uses.1
      · exact known e before
  exact all past fun e listed => .inl listed

/-- A program that runs alone keeps what every justified operation keeps, and
    ends with a justified result. -/
theorem runs {sem : Sem S σ} {I : Past S → σ → Prop}
    (keeps : ∀ now o s r s', J now o → I now s → sem o s r s' → I (⟨o, r⟩ :: now) s') {p : Prog S α} {s s' : σ} {a : α}
    (justified : p.Justified J R past) (holds : I past s) (ran : Runs sem p s a s') :
    ∃ later, past <:+ later ∧ R later a ∧ I later s' := by
  induction ran generalizing past with
  | ret a s => exact ⟨past, List.suffix_refl past, justified, holds⟩
  | call does rest ih =>
    obtain ⟨later, extends_, ended, holds'⟩ := ih (justified.2 _) (keeps _ _ _ _ _ justified.1 holds does)
    exact ⟨later, (List.suffix_cons _ past).trans extends_, ended, holds'⟩

/-- Two things that hold of the result. -/
theorem and {R' : Past S → α → Prop} {p : Prog S α} (one : p.Justified J R past) (other : p.Justified J R' past) :
    p.Justified J (fun later a => R later a ∧ R' later a) past := by
  induction p generalizing past with
  | ret a => exact ⟨one, other⟩
  | call o k ih => exact ⟨one.1, fun r => ih r (one.2 r) (other.2 r)⟩

end Justified
end Prog

/-- `e` was done after everything in `before`. -/
def After (before past : Past S) (e : (o : S.Op) × S.Res o) : Prop := ∃ p, e :: p <:+ past ∧ before <:+ p

theorem After.later {before past later : Past S} {e : (o : S.Op) × S.Res o} (after : After before past e)
    (extends_ : past <:+ later) : After before later e := by
  obtain ⟨p, listed, old⟩ := after
  exact ⟨p, listed.trans extends_, old⟩

theorem After.mem {before past : Past S} {e : (o : S.Op) × S.Res o} (after : After before past e) : e ∈ past := by
  obtain ⟨p, listed, -⟩ := after
  exact listed.subset List.mem_cons_self

theorem After.before_mem {before past : Past S} {e x : (o : S.Op) × S.Res o} (after : After before past e) (old : x ∈ before) :
    x ∈ past := by
  obtain ⟨p, listed, olds⟩ := after
  exact listed.subset (List.mem_cons_of_mem _ (olds.subset old))

/-- In an ordered past, what comes after is related to what came before. -/
theorem After.related {R : (o : S.Op) × S.Res o → (o : S.Op) × S.Res o → Prop} {before past : Past S}
    {e x : (o : S.Op) × S.Res o} (ordered : past.Pairwise R) (after : After before past e) (old : x ∈ before) : R e x := by
  obtain ⟨p, listed, olds⟩ := after
  have rest : (e :: p).Pairwise R := ordered.sublist listed.sublist
  exact (List.pairwise_cons.mp rest).1 x (olds.subset old)

/-! ### Runs -/

namespace Pool
variable [DecidableEq ι]

/-- What a thread has done. -/
def past (trace : List (Occurrence S ι)) (i : ι) : Past S :=
  (trace.filter fun e => e.thread = i).map fun e => ⟨e.op, e.answer⟩

theorem past_cons (e : Occurrence S ι) (trace : List (Occurrence S ι)) (i : ι) :
    past (e :: trace) i = if e.thread = i then ⟨e.op, e.answer⟩ :: past trace i else past trace i := by
  by_cases own : e.thread = i <;> simp [past, own]

theorem mem_past {trace : List (Occurrence S ι)} {i : ι} {e : (o : S.Op) × S.Res o} :
    e ∈ past trace i ↔ ⟨i, e.1, e.2⟩ ∈ trace := by
  simp only [past, List.mem_map, List.mem_filter, decide_eq_true_eq]
  constructor
  · rintro ⟨x, ⟨listed, rfl⟩, rfl⟩
    exact listed
  · exact fun listed => ⟨_, ⟨listed, rfl⟩, rfl⟩

/-- What orders a trace orders the past of each thread. -/
theorem past_pairwise {R : (o : S.Op) × S.Res o → (o : S.Op) × S.Res o → Prop} {trace : List (Occurrence S ι)}
    (ordered : trace.Pairwise fun a b => R ⟨a.op, a.answer⟩ ⟨b.op, b.answer⟩) (i : ι) : (past trace i).Pairwise R :=
  List.pairwise_map.mpr (ordered.sublist List.filter_sublist)

/-- The past only grows. -/
theorem past_subset (e : Occurrence S ι) (trace : List (Occurrence S ι)) (i : ι) : past trace i ⊆ past (e :: trace) i := by
  intro x listed
  rw [mem_past] at listed ⊢
  exact List.mem_cons_of_mem _ listed

/-- Every thread goes on in a justified way. -/
def Honest (J : ι → Past S → S.Op → Prop) (R : ι → Past S → α → Prop) (c : Pool S σ ι α) : Prop :=
  ∀ i, (c.threads i).Justified (J i) (R i) (past c.trace i)

/-- What a step did: a justified operation of one thread, or the environment. -/
inductive Did (sem : Sem S σ) (Env : σ → σ → Prop) (J : ι → Past S → S.Op → Prop) (c c' : Pool S σ ι α) : Prop where
  | act (e : Occurrence S ι) (k : S.Res e.op → Prog S α) (next : c.threads e.thread = .call e.op k)
      (allowed : J e.thread (past c.trace e.thread) e.op) (does : sem e.op c.state e.answer c'.state)
      (trace : c'.trace = e :: c.trace) (threads : c'.threads = Function.update c.threads e.thread (k e.answer))
  | env (changes : Env c.state c'.state) (trace : c'.trace = c.trace) (threads : c'.threads = c.threads)

variable {sem : Sem S σ} {Env : σ → σ → Prop} {J : ι → Past S → S.Op → Prop} {R : ι → Past S → α → Prop}

/-- A step adds to the past of its thread. -/
theorem Did.past_suffix {c c' : Pool S σ ι α} (did : Did sem Env J c c') (i : ι) : past c.trace i <:+ past c'.trace i := by
  cases did with
  | env _ trace _ => rw [trace]
  | act e k next allowed does trace threads =>
    rw [trace, past_cons]
    split
    · exact List.suffix_cons _ _
    · exact List.suffix_refl _

theorem Honest.step {c c' : Pool S σ ι α} (honest : c.Honest J R) (step : Step sem Env c c') :
    c'.Honest J R ∧ Did sem Env J c c' := by
  cases step with
  | env changes => exact ⟨honest, .env changes rfl rfl⟩
  | @act i o k r s next does =>
    have own := honest i
    rw [next] at own
    refine ⟨fun j => ?_, .act ⟨i, o, r⟩ k next own.1 does rfl rfl⟩
    rw [past_cons]
    by_cases same : j = i
    · subst same
      simpa using own.2 r
    · have other : i ≠ j := fun eq => same eq.symm
      simpa [same, other] using honest j

/-- An invariant of runs of honest threads, one justified operation at a time. `W`
    is what the steps are known to meet. -/
theorem Honest.induct {W : Pool S σ ι α → Pool S σ ι α → Prop} {I : Pool S σ ι α → Prop}
    (keeps : ∀ c c', I c → c.Honest J R → Did sem Env J c c' → W c c' → I c') {c c' : Pool S σ ι α}
    (honest : c.Honest J R) (start : I c)
    (steps : Relation.ReflTransGen (fun c c' => Step sem Env c c' ∧ W c c') c c') : I c' ∧ c'.Honest J R := by
  induction steps with
  | refl => exact ⟨start, honest⟩
  | tail _ step ih =>
    obtain ⟨honest', did⟩ := ih.2.step step.1
    exact ⟨keeps _ _ ih.1 ih.2 did step.2, honest'⟩

end Pool
end RustOp.Effects
