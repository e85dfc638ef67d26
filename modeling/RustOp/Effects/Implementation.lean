import RustOp.Effects.History

/-!
What programs have seen, one level apart. A program whose operations are compiled
to programs of a lower level leaves a past there that is made of the runs of its
operations. What justifies an operation above can therefore be read off below.
-/
namespace RustOp.Effects

variable {S T : Sig} {σ ι α β : Type}

namespace Prog

/-- From one past to another, the program has come to a result. -/
def Leads : Prog S α → Past S → α → Past S → Prop
  | .ret b, before, a, after => a = b ∧ after = before
  | .call o k, before, a, after => ∃ r, (k r).Leads (⟨o, r⟩ :: before) a after

/-- From one past on, the program has come to ask for an operation. -/
def Asks : Prog S α → Past S → S.Op → Past S → Prop
  | .ret _, _, _, _ => False
  | .call o k, before, asked, now => (asked = o ∧ now = before) ∨ ∃ r, (k r).Asks (⟨o, r⟩ :: before) asked now

/-- Somewhere in the past the program was run and gave the result. -/
def Gave (p : Prog S α) (a : α) (past : Past S) : Prop := ∃ before after, p.Leads before a after ∧ after <:+ past

theorem Gave.later {p : Prog S α} {a : α} {past later : Past S} (gave : p.Gave a past) (extends_ : past <:+ later) :
    p.Gave a later := by
  obtain ⟨before, after, leads, old⟩ := gave
  exact ⟨before, after, leads, old.trans extends_⟩

theorem Leads.suffix {p : Prog S α} {before after : Past S} {a : α} (leads : p.Leads before a after) : before <:+ after := by
  induction p generalizing before with
  | ret b =>
    obtain ⟨-, rfl⟩ := leads
    exact List.suffix_refl _
  | call o k ih =>
    obtain ⟨r, rest⟩ := leads
    exact (List.suffix_cons _ _).trans (ih r rest)

theorem Asks.suffix {p : Prog S α} {before now : Past S} {o : S.Op} (asks : p.Asks before o now) : before <:+ now := by
  induction p generalizing before with
  | ret b => exact asks.elim
  | call o' k ih =>
    rcases asks with ⟨-, rfl⟩ | ⟨r, rest⟩
    · exact List.suffix_refl _
    · exact (List.suffix_cons _ _).trans (ih r rest)

theorem leads_bind {p : Prog S α} {f : α → Prog S β} {before after : Past S} {b : β} :
    (p >>= f).Leads before b after ↔ ∃ a mid, p.Leads before a mid ∧ (f a).Leads mid b after := by
  induction p generalizing before with
  | ret a =>
    constructor
    · exact fun leads => ⟨a, before, ⟨rfl, rfl⟩, leads⟩
    · rintro ⟨a', mid, ⟨rfl, rfl⟩, leads⟩
      exact leads
  | call o k ih =>
    constructor
    · rintro ⟨r, rest⟩
      obtain ⟨a, mid, first, last⟩ := (ih r).mp rest
      exact ⟨a, mid, ⟨r, first⟩, last⟩
    · rintro ⟨a, mid, ⟨r, first⟩, last⟩
      exact ⟨r, (ih r).mpr ⟨a, mid, first, last⟩⟩

theorem asks_bind {p : Prog S α} {f : α → Prog S β} {before now : Past S} {o : S.Op} :
    (p >>= f).Asks before o now ↔ p.Asks before o now ∨ ∃ a mid, p.Leads before a mid ∧ (f a).Asks mid o now := by
  induction p generalizing before with
  | ret a =>
    constructor
    · exact fun asks => .inr ⟨a, before, ⟨rfl, rfl⟩, asks⟩
    · rintro (asks | ⟨a', mid, ⟨rfl, rfl⟩, asks⟩)
      · exact asks.elim
      · exact asks
  | call o' k ih =>
    constructor
    · rintro (next | ⟨r, rest⟩)
      · exact .inl (.inl next)
      · rcases ih r |>.mp rest with first | ⟨a, mid, leads, last⟩
        · exact .inl (.inr ⟨r, first⟩)
        · exact .inr ⟨a, mid, ⟨r, leads⟩, last⟩
    · rintro ((next | ⟨r, first⟩) | ⟨a, mid, ⟨r, leads⟩, last⟩)
      · exact .inl next
      · exact .inr ⟨r, (ih r).mpr (.inl first)⟩
      · exact .inr ⟨r, (ih r).mpr (.inr ⟨a, mid, leads, last⟩)⟩

/-- Every operation a program asks for is one that it uses. -/
theorem Uses.asks {allowed : S.Op → Prop} {p : Prog S α} (uses : p.Uses allowed) {before now : Past S} {o : S.Op}
    (asks : p.Asks before o now) : allowed o := by
  induction p generalizing before with
  | ret b => exact asks.elim
  | call o' k ih =>
    rcases asks with ⟨rfl, -⟩ | ⟨r, rest⟩
    · exact uses.1
    · exact ih r (uses.2 r) rest

/-- A program uses what it can come to ask for. -/
theorem uses_of_asks {allowed : S.Op → Prop} {p : Prog S α} (before : Past S)
    (each : ∀ o now, p.Asks before o now → allowed o) : p.Uses allowed := by
  induction p generalizing before with
  | ret b => trivial
  | call o k ih => exact ⟨each o before (.inl ⟨rfl, rfl⟩), fun r => ih r _ fun o' now rest => each o' now (.inr ⟨r, rest⟩)⟩

namespace Justified
variable {J : Past S → S.Op → Prop} {R : Past S → α → Prop} {past : Past S}

/-- The result comes with the run that gave it. -/
theorem leads {p : Prog S α} (justified : p.Justified J R past) :
    p.Justified J (fun later a => R later a ∧ p.Leads past a later) past := by
  induction p generalizing past with
  | ret a => exact ⟨justified, rfl, rfl⟩
  | call o k ih =>
    refine ⟨justified.1, fun r => (ih r (justified.2 r)).mono ?_⟩
    rintro later a - ⟨holds, leads⟩
    exact ⟨holds, r, leads⟩

theorem gave {p : Prog S α} (justified : p.Justified J R past) :
    p.Justified J (fun later a => R later a ∧ p.Gave a later) past :=
  justified.leads.mono fun later _ _ known => ⟨known.1, past, later, known.2, List.suffix_refl later⟩

end Justified

/-! ### One level down -/

/-- The past below is made of the runs of the operations above. -/
inductive Implements (impl : (o : S.Op) → Prog T (S.Res o)) : Past S → Past T → Prop where
  | nil : Implements impl [] []
  | call {above : Past S} {below below' : Past T} {o : S.Op} {r : S.Res o} (so_far : Implements impl above below)
      (ran : (impl o).Leads below r below') : Implements impl (⟨o, r⟩ :: above) below'

variable {impl : (o : S.Op) → Prog T (S.Res o)}

/-- What was done above was done below. -/
theorem Implements.ran {above : Past S} {below : Past T} (implements : Implements impl above below)
    {e : (o : S.Op) × S.Res o} (listed : e ∈ above) : (impl e.1).Gave e.2 below := by
  induction implements with
  | nil => cases listed
  | call so_far ran ih =>
    rcases List.mem_cons.mp listed with rfl | before
    · exact ⟨_, _, ran, List.suffix_refl _⟩
    · exact (ih before).later ran.suffix

/-- An operation below belongs to a justified operation above. -/
structure Serves (impl : (o : S.Op) → Prog T (S.Res o)) (J : Past S → S.Op → Prop) (now : Past T) (asked : T.Op)
    (above : Past S) (o : S.Op) (below : Past T) : Prop where
  implements : Implements impl above below
  allowed : J above o
  asks : (impl o).Asks below asked now

/-- Below, a program is justified by what it is above. -/
theorem Justified.lower {J : Past S → S.Op → Prop} {R : Past S → α → Prop} {p : Prog S α} {above : Past S} {below : Past T}
    (justified : p.Justified J R above) (implements : Implements impl above below) :
    (p.lower impl).Justified (fun now asked => ∃ above o below, Serves impl J now asked above o below)
      (fun now a => ∃ above, Implements impl above now ∧ R above a) below := by
  induction p generalizing above below with
  | ret a => exact ⟨above, implements, justified⟩
  | call o k ih =>
    have body : ∀ (q : Prog T (S.Res o)) (now : Past T), (∀ r after, q.Leads now r after → (impl o).Leads below r after) →
        (∀ asked later, q.Asks now asked later → (impl o).Asks below asked later) →
        (q >>= fun r => (k r).lower impl).Justified
          (fun now asked => ∃ above o below, Serves impl J now asked above o below)
          (fun now a => ∃ above, Implements impl above now ∧ R above a) now := by
      intro q
      induction q with
      | ret r =>
        intro now leads _
        exact ih r (justified.2 r) (implements.call (leads r now ⟨rfl, rfl⟩))
      | call o' k' ih' =>
        intro now leads asks
        refine ⟨⟨above, o, below, implements, justified.1, asks o' now (.inl ⟨rfl, rfl⟩)⟩, fun r => ?_⟩
        exact ih' r _ (fun r' after rest => leads r' after ⟨r, rest⟩) fun asked later rest => asks asked later (.inr ⟨r, rest⟩)
    exact body (impl o) below (fun _ _ leads => leads) fun _ _ asks => asks

end Prog

namespace Pool
variable [DecidableEq ι] {sem : Sem S σ} {Env : σ → σ → Prop} {J : ι → Past S → S.Op → Prop} {R : ι → Past S → α → Prop}

/-- Each operation of a run was justified when it was performed. -/
theorem Honest.occurred {W : Pool S σ ι α → Pool S σ ι α → Prop} {c c' : Pool S σ ι α} (honest : c.Honest J R)
    (fresh : c.trace = []) (steps : Relation.ReflTransGen (fun c c' => Step sem Env c c' ∧ W c c') c c') :
    ∀ e ∈ c'.trace, ∃ before, ⟨e.op, e.answer⟩ :: before <:+ past c'.trace e.thread ∧ J e.thread before e.op := by
  refine (honest.induct (W := W) (I := fun c => ∀ e ∈ c.trace, ∃ before,
    ⟨e.op, e.answer⟩ :: before <:+ past c.trace e.thread ∧ J e.thread before e.op) ?_ (by simp [fresh]) steps).1
  intro c c' known _ did _ e listed
  have grown := did.past_suffix
  cases did with
  | env _ trace _ =>
    rw [trace] at listed
    obtain ⟨before, old, allowed⟩ := known e listed
    exact ⟨before, old.trans (grown _), allowed⟩
  | act x k next allowed does trace threads =>
    rw [trace] at listed
    rcases List.mem_cons.mp listed with rfl | earlier
    · refine ⟨past c.trace e.thread, ?_, allowed⟩
      rw [trace, past_cons, if_pos rfl]
    · obtain ⟨before, old, allowed⟩ := known e earlier
      exact ⟨before, old.trans (grown _), allowed⟩

/-- Each operation of a run was performed before it began, or by one of its steps. -/
theorem performed {c c' : Pool S σ ι α} (steps : Relation.ReflTransGen (Step sem Env) c c') {e : Occurrence S ι}
    (listed : e ∈ c'.trace) : e ∈ c.trace ∨ ∃ b b', Relation.ReflTransGen (Step sem Env) c b ∧ Step sem Env b b' ∧
      b'.trace = e :: b.trace ∧ sem e.op b.state e.answer b'.state ∧ Relation.ReflTransGen (Step sem Env) b' c' := by
  induction steps with
  | refl => exact .inl listed
  | @tail b c' prior step ih =>
    have earlier : e ∈ b.trace → e ∈ c.trace ∨ ∃ b b', Relation.ReflTransGen (Step sem Env) c b ∧ Step sem Env b b' ∧
        b'.trace = e :: b.trace ∧ sem e.op b.state e.answer b'.state ∧ Relation.ReflTransGen (Step sem Env) b' c' := by
      intro listed
      rcases ih listed with old | ⟨d, d', before, did, trace, does, after⟩
      · exact .inl old
      · exact .inr ⟨d, d', before, did, trace, does, after.tail step⟩
    cases step with
    | env changes => exact earlier listed
    | act i next does =>
      rcases List.mem_cons.mp listed with rfl | old
      · exact .inr ⟨b, _, prior, .act i next does, rfl, does, .refl⟩
      · exact earlier old

end Pool
end RustOp.Effects
