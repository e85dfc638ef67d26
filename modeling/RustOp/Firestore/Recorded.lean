import RustOp.Firestore.Footprint

/-!
Runs that remember which requests to Firestore took effect. The memory changes
nothing about what a program may do.
-/
namespace RustOp.Firestore
open RustOp.Effects

/-- The documents, and the requests that took effect so far, oldest first. -/
structure Journaled where
  db : Db
  done : List FsOp := []

/-- Firestore with a record of what it did; requests may fail before or after. -/
def recorded : Sem Fs Journaled := fun o s r s' =>
  (exec o s.db).1 = r ∧ s' = ⟨(exec o s.db).2, s.done ++ [o]⟩ ∨
    o.failed r ∧ (s' = s ∨ s' = ⟨(exec o s.db).2, s.done ++ [o]⟩)

/-- The record of requests that all succeed. -/
def recording : Prog.Handler Fs Journaled := fun o s => ((exec o s.db).1, ⟨(exec o s.db).2, s.done ++ [o]⟩)

section recorded
variable {o : FsOp} {s s' : Journaled} {r : o.Res}

theorem recorded_effect (does : recorded o s r s') : s' = s ∨ s' = ⟨(exec o s.db).2, s.done ++ [o]⟩ := by
  rcases does with ⟨-, took⟩ | ⟨-, effect⟩
  · exact .inr took
  · exact effect

theorem recorded_sem (does : recorded o s r s') : sem o s.db r s'.db := by
  rcases does with ⟨answer, rfl⟩ | ⟨failed, rfl | rfl⟩
  · exact .inl (Prod.ext answer rfl)
  · exact .inr ⟨failed, .inl rfl⟩
  · exact .inr ⟨failed, .inr rfl⟩

theorem recorded_of_sem {db' : Db} (does : sem o s.db r db') : ∃ done, recorded o s r ⟨db', done⟩ := by
  rcases does with ran | ⟨failed, rfl | rfl⟩
  · exact ⟨s.done ++ [o], .inl ⟨by rw [ran], by rw [ran]⟩⟩
  · exact ⟨s.done, .inr ⟨failed, .inl rfl⟩⟩
  · exact ⟨s.done ++ [o], .inr ⟨failed, .inr rfl⟩⟩

end recorded

/-- A program may do with the record what it may do without, and nothing else. -/
theorem runs_recorded {α : Type} {p : Prog Fs α} {s : Journaled} {a : α} {db' : Db} :
    Runs sem p s.db a db' ↔ ∃ done, Runs recorded p s a ⟨db', done⟩ := by
  induction p generalizing s with
  | ret b =>
    simp only [runs_ret]
    constructor
    · rintro ⟨rfl, rfl⟩
      exact ⟨s.done, rfl, rfl⟩
    · rintro ⟨done, rfl, rfl⟩
      exact ⟨rfl, rfl⟩
  | call o k ih =>
    simp only [runs_call]
    constructor
    · rintro ⟨r, t, does, rest⟩
      obtain ⟨done, does⟩ := recorded_of_sem does
      obtain ⟨done', rest⟩ := (ih r (s := ⟨t, done⟩)).mp rest
      exact ⟨done', r, _, does, rest⟩
    · rintro ⟨done, r, t, does, rest⟩
      exact ⟨r, t.db, recorded_sem does, (ih r).mpr ⟨done, rest⟩⟩

theorem runs_of_record {α : Type} (p : Prog Fs α) (s : Journaled) :
    Runs recorded p s (Prog.run recording p s).1 (Prog.run recording p s).2 := by
  refine (runs_ofHandler.mpr rfl : Runs (Sem.ofHandler recording) p s _ _).mono fun o s r s' does => .inl ?_
  obtain ⟨rfl, rfl⟩ := Prod.ext_iff.mp does
  exact ⟨rfl, rfl⟩

end RustOp.Firestore
