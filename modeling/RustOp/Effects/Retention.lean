import Mathlib

/-!
Items that are accepted under a key which is remembered for a while. If an item
cannot be accepted any more once its key may be forgotten, no item is accepted
twice.
-/
namespace RustOp.Effects

/-- A store of keys, seen through its laws. An item is accepted only while its
    key is not held, and from then on the key is held for as long as the item
    could be presented again. -/
structure Retention (σ ι κ : Type) where
  clock : σ → Nat
  /-- The key is remembered until the given time. -/
  held : σ → κ → Nat → Prop
  /-- The step accepts the item. -/
  accepts : ι → σ → σ → Prop
  /-- A step that accepts nothing. -/
  passes : σ → σ → Prop
  key : ι → κ
  /-- The time from which the item is refused for its age. -/
  limit : ι → Nat
  in_time : ∀ {i s s'}, accepts i s s' → clock s < limit i
  unheld : ∀ {i s s'}, accepts i s s' → ∀ e, clock s < e → ¬ held s (key i) e
  holds : ∀ {i s s'}, accepts i s s' → ∃ e, limit i ≤ e ∧ held s' (key i) e
  later : ∀ {s s'}, passes s s' ∨ (∃ i, accepts i s s') → clock s ≤ clock s'
  kept : ∀ {s s'}, passes s s' ∨ (∃ i, accepts i s s') → ∀ k e, held s k e → clock s' < e → held s' k e

namespace Retention
variable {σ ι κ : Type} (R : Retention σ ι κ)

/-- A state and the items accepted so far, newest first. -/
structure World (σ ι : Type) where
  state : σ
  accepted : List ι := []

inductive Step : World σ ι → World σ ι → Prop where
  | accept {s s' : σ} {l : List ι} (i : ι) (accepts : R.accepts i s s') : Step ⟨s, l⟩ ⟨s', i :: l⟩
  | pass {s s' : σ} {l : List ι} (passes : R.passes s s') : Step ⟨s, l⟩ ⟨s', l⟩

/-- A held key stays held, or the item has grown too old. -/
private theorem held_later {s s' : σ} (step : R.passes s s' ∨ ∃ i, R.accepts i s s') {l : List ι}
    (remembered : ∀ i ∈ l, R.clock s < R.limit i → ∃ e, R.limit i ≤ e ∧ R.held s (R.key i) e) :
    ∀ i ∈ l, R.clock s' < R.limit i → ∃ e, R.limit i ≤ e ∧ R.held s' (R.key i) e := by
  intro i listed young
  have before : R.clock s < R.limit i := by
    have := R.later step
    omega
  obtain ⟨e, long, held⟩ := remembered i listed before
  exact ⟨e, long, R.kept step _ _ held (by omega)⟩

/-- No item is accepted twice. -/
theorem accepted_nodup {w w' : World σ ι} (fresh : w.accepted = []) (steps : Relation.ReflTransGen R.Step w w') :
    w'.accepted.Nodup := by
  have sound : w'.accepted.Nodup ∧
      ∀ i ∈ w'.accepted, R.clock w'.state < R.limit i → ∃ e, R.limit i ≤ e ∧ R.held w'.state (R.key i) e := by
    induction steps with
    | refl => simp [fresh]
    | tail _ step ih =>
      obtain ⟨once, remembered⟩ := ih
      cases step with
      | pass passes => exact ⟨once, R.held_later (.inl passes) remembered⟩
      | @accept s s' l i accepts =>
        have new : i ∉ l := by
          intro again
          obtain ⟨e, long, held⟩ := remembered i again (R.in_time accepts)
          have young := R.in_time accepts
          exact R.unheld accepts e (by omega) held
        refine ⟨List.nodup_cons.mpr ⟨new, once⟩, fun j listed young => ?_⟩
        rcases List.mem_cons.mp listed with rfl | earlier
        · exact R.holds accepts
        · exact R.held_later (.inr ⟨i, accepts⟩) remembered j earlier young
  exact sound.1

end Retention
end RustOp.Effects
