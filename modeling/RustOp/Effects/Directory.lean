import Mathlib

/-!
Keys that are known under an identifier, and an index from the identifiers back
to the keys. An identifier is promised to a key first and entered later; until
then further identifiers may be promised to the same key.
-/
namespace RustOp.Effects

structure Directory (K I : Type) where
  holds : K → Option I
  index : I → Option K
  promised : K → I → Prop

namespace Directory
variable {K I : Type}

/-- The identifier is that of the key, or may become it. -/
def Mentions (d : Directory K I) (k : K) (i : I) : Prop := d.holds k = some i ∨ d.promised k i

/-- The index is exact, and whatever identifier is in use belongs to one key. -/
structure Sound (used : I → Prop) (d : Directory K I) : Prop where
  exact : ∀ i k, d.index i = some k ↔ d.holds k = some i
  owner : ∀ {k k' : K} {i : I}, d.Mentions k i → d.Mentions k' i → k = k'
  used : ∀ {k : K} {i : I}, d.Mentions k i → used i

theorem Sound.unique {used : I → Prop} {d : Directory K I} (sound : d.Sound used) {k k' : K} {i : I}
    (holds : d.holds k = some i) (holds' : d.holds k' = some i) : k = k' := sound.owner (.inl holds) (.inl holds')

/-- Nothing is known yet. -/
structure Blank (d : Directory K I) : Prop where
  holds : ∀ k, d.holds k = none
  index : ∀ i, d.index i = none
  promised : ∀ k i, ¬ d.promised k i

theorem Blank.sound {d : Directory K I} (blank : d.Blank) (used : I → Prop) : d.Sound used := by
  have none : ∀ k i, ¬ d.Mentions k i := by
    rintro k i (holds | promised)
    · rw [blank.holds] at holds
      cases holds
    · exact blank.promised k i promised
  refine ⟨fun i k => ?_, fun known => absurd known (none _ _), fun known => absurd known (none _ _)⟩
  rw [blank.holds, blank.index]
  simp

variable [DecidableEq K] [DecidableEq I]

/-- What may happen to a directory. Only new identifiers are promised, or that
    which the key has; only the given keys leave. -/
inductive Change (fresh : I → Prop) (leaving : K → Prop) (d d' : Directory K I) : Prop where
  | keep (holds : d'.holds = d.holds) (index : d'.index = d.index) (fewer : ∀ k i, d'.promised k i → d.promised k i)
  | promise (k : K) (i : I) (own : d.holds k = some i ∨ fresh i) (holds : d'.holds = d.holds) (index : d'.index = d.index)
      (one : ∀ k' i', d'.promised k' i' → d.promised k' i' ∨ k' = k ∧ i' = i)
  | enter (k : K) (i : I) (promised : d.promised k i) (agrees : d.holds k = none ∨ d.holds k = some i)
      (holds : d'.holds = Function.update d.holds k (some i)) (index : d'.index = Function.update d.index i (some k))
      (fewer : ∀ k i, d'.promised k i → d.promised k i)
  | leave (k : K) (i : I) (held : d.holds k = some i) (leaves : leaving k)
      (holds : d'.holds = Function.update d.holds k none) (index : d'.index = Function.update d.index i none)
      (fewer : ∀ k i, d'.promised k i → d.promised k i)

section change
variable {fresh : I → Prop} {leaving : K → Prop} {d d' : Directory K I}

/-- A key keeps its identifier until it leaves. -/
theorem Change.holds (change : Change fresh leaving d d') {k : K} {i : I} (held : d.holds k = some i) :
    d'.holds k = some i ∨ d'.holds k = none ∧ leaving k := by
  cases change with
  | keep holds => exact .inl (by rw [holds, held])
  | promise _ _ _ holds => exact .inl (by rw [holds, held])
  | enter k' i' _ agrees holds =>
    rw [holds]
    by_cases same : k = k'
    · subst same
      rw [held] at agrees
      exact .inl (by simpa [eq_comm] using agrees)
    · rw [Function.update_of_ne same]
      exact .inl held
  | leave k' i' _ leaves holds =>
    rw [holds]
    by_cases same : k = k'
    · subst same
      exact .inr ⟨Function.update_self .., leaves⟩
    · rw [Function.update_of_ne same]
      exact .inl held

/-- Identifiers that are mentioned were mentioned before, or are new. -/
private theorem Change.mentions (change : Change fresh leaving d d') {k : K} {i : I} (mentions : d'.Mentions k i) :
    d.Mentions k i ∨ fresh i ∧ ∀ k', d'.Mentions k' i → d.Mentions k' i ∨ k' = k := by
  cases change with
  | keep holds _ fewer => exact .inl (mentions.imp (fun held => by rwa [holds] at held) (fewer k i))
  | promise k' i' own holds _ one =>
    rcases mentions with held | promised
    · exact .inl (.inl (by rwa [holds] at held))
    · rcases one k i promised with before | ⟨rfl, rfl⟩
      · exact .inl (.inr before)
      · rcases own with held | new
        · exact .inl (.inl held)
        · refine .inr ⟨new, fun k' mentions => ?_⟩
          rcases mentions with held | promised
          · exact .inl (.inl (by rwa [holds] at held))
          · exact (one k' i promised).imp .inr And.left
  | enter k' i' promised _ holds _ fewer =>
    rcases mentions with held | later
    · rw [holds] at held
      by_cases same : k = k'
      · subst same
        obtain rfl : i' = i := by simpa using held
        exact .inl (.inr promised)
      · exact .inl (.inl (by rwa [Function.update_of_ne same] at held))
    · exact .inl (.inr (fewer k i later))
  | leave k' i' _ _ holds _ fewer =>
    rcases mentions with held | later
    · rw [holds] at held
      by_cases same : k = k'
      · subst same
        simp at held
      · exact .inl (.inl (by rwa [Function.update_of_ne same] at held))
    · exact .inl (.inr (fewer k i later))

/-- The index stays exact. -/
private theorem Change.exact (change : Change fresh leaving d d') {used : I → Prop} (sound : d.Sound used) (i : I) (k : K) :
    d'.index i = some k ↔ d'.holds k = some i := by
  cases change with
  | keep holds index => rw [holds, index, sound.exact]
  | promise _ _ _ holds index => rw [holds, index, sound.exact]
  | enter k' i' promised agrees holds index =>
    rw [holds, index]
    by_cases here : i = i'
    · subst here
      rw [Function.update_self]
      by_cases same : k = k'
      · subst same
        simp
      · rw [Function.update_of_ne same]
        refine ⟨fun is => absurd (Option.some.inj is).symm same, fun held => absurd ?_ same⟩
        exact sound.owner (.inl held) (.inr promised)
    · rw [Function.update_of_ne here, sound.exact]
      by_cases same : k = k'
      · subst same
        rw [Function.update_self]
        rcases agrees with none | own
        · rw [none]
          simpa using Ne.symm here
        · rw [own]
      · rw [Function.update_of_ne same]
  | leave k' i' held _ holds index =>
    rw [holds, index]
    by_cases here : i = i'
    · subst here
      rw [Function.update_self]
      by_cases same : k = k'
      · subst same
        simp
      · rw [Function.update_of_ne same]
        exact ⟨fun is => (by cases is), fun held' => absurd (sound.unique held' held) same⟩
    · rw [Function.update_of_ne here, sound.exact]
      by_cases same : k = k'
      · subst same
        rw [Function.update_self, held]
        simpa using Ne.symm here
      · rw [Function.update_of_ne same]

/-- As long as new identifiers are new, the directory stays sound. -/
theorem Sound.step {used used' : I → Prop} (sound : d.Sound used) (change : Change fresh leaving d d')
    (new : ∀ i, fresh i → ¬ used i) (kept : ∀ i, used i → used' i) (taken : ∀ i, fresh i → used' i) : d'.Sound used' := by
  refine ⟨change.exact sound, fun {k k' i} mentions mentions' => ?_, fun {k i} mentions => ?_⟩
  · rcases change.mentions mentions with before | ⟨isNew, only⟩
    · rcases change.mentions mentions' with before' | ⟨isNew, -⟩
      · exact sound.owner before before'
      · exact absurd (sound.used before) (new i isNew)
    · rcases only k' mentions' with before' | same
      · exact absurd (sound.used before') (new i isNew)
      · exact same.symm
  · rcases change.mentions mentions with before | ⟨isNew, -⟩
    · exact kept i (sound.used before)
    · exact taken i isNew

end change
end Directory
end RustOp.Effects
