import RustOp.Effects.Implementation
import RustOp.Firestore.Footprint

/-!
Where documents come from. Whatever a document says was put there by a request of
the run, and whatever a read shows was there. If each request of each thread puts
only what is in order, given what that thread was shown, then all documents are in
order, in any interleaving and whichever requests fail.
-/
namespace RustOp.Firestore
open RustOp.Effects

/-! ### Writing and reading -/

/-- The fields a request leaves in the document it writes, given those it finds. -/
def FsOp.makes (found : Option Fields) : FsOp → Option Fields
  | .set_doc _ _ f => some f
  | .set_doc_if_unchanged _ _ f _ => some f
  | .create_if_absent _ _ f => some f
  | .update_field _ _ field value => found.map fun f => f.set field value
  | .merge_doc _ _ f => some ((found.getD ∅).merge f)
  | _ => none

private theorem get_write_cases {db : Db} {key k : Col × String} {f : Fields} {doc : Doc}
    (stored : (db.write k f).docs.get key = some doc) :
    db.docs.get key = some doc ∨ k = key ∧ some f = some doc.fields := by
  rw [get_write] at stored
  split at stored
  · rename_i same
    obtain rfl := Option.some.inj stored
    exact .inr ⟨same.symm, rfl⟩
  · exact .inl stored

private theorem get_erase_cases {db : Db} {key k : Col × String} {doc : Doc}
    (stored : (db.erase k).docs.get key = some doc) : db.docs.get key = some doc := by
  rw [get_erase] at stored
  split at stored
  · cases stored
  · exact stored

/-- A document is as it was, or as the request made it. -/
theorem exec_makes {o : FsOp} {db : Db} {key : Col × String} {doc : Doc} (stored : (exec o db).2.docs.get key = some doc) :
    db.docs.get key = some doc ∨
      o.writes = some key ∧ o.makes ((db.docs.get key).map Doc.fields) = some doc.fields := by
  have written : ∀ k f, (db.write k f).docs.get key = some doc → o.writes = some k →
      (k = key → some f = o.makes ((db.docs.get key).map Doc.fields)) →
      db.docs.get key = some doc ∨ o.writes = some key ∧ o.makes ((db.docs.get key).map Doc.fields) = some doc.fields := by
    intro k f stored writes made
    rcases get_write_cases stored with old | ⟨rfl, fields⟩
    · exact .inl old
    · exact .inr ⟨writes, (made rfl).symm.trans fields⟩
  cases o with
  | set_doc col id f => exact written _ _ stored rfl fun _ => rfl
  | merge_doc col id f =>
    refine written _ _ stored rfl fun same => ?_
    subst same
    rfl
  | delete_doc col id => exact .inl (get_erase_cases stored)
  | update_field col id field value =>
    simp only [exec] at stored
    split at stored
    · rename_i found here
      refine written _ _ stored rfl fun same => ?_
      subst same
      simp [FsOp.makes, here]
    · exact .inl stored
  | set_doc_if_unchanged col id f time =>
    simp only [exec] at stored
    split at stored
    · exact written _ _ stored rfl fun _ => rfl
    · exact .inl stored
  | create_if_absent col id f =>
    simp only [exec] at stored
    split at stored
    · exact written _ _ stored rfl fun _ => rfl
    · exact .inl stored
  | delete_doc_if_unchanged col id time =>
    simp only [exec] at stored
    split at stored
    · exact .inl (get_erase_cases stored)
    · exact .inl stored
  | get_doc col id => exact .inl stored
  | get_doc_with_update_time col id => exact .inl stored
  | query_eq col field value => exact .inl stored
  | now => exact .inl stored

/-- The answer of a read shows the fields of a document. -/
inductive Shows : (o : FsOp) × o.Res → Col × String → Fields → Prop where
  | get_doc (col : Col) (id : String) (f : Fields) : Shows ⟨.get_doc col id, .ok (some f)⟩ (col, id) f
  | get_doc_with_update_time (col : Col) (id : String) (f : Fields) (t : Nat) :
      Shows ⟨.get_doc_with_update_time col id, .ok (some (f, t))⟩ (col, id) f
  | query_eq {col : Col} {field value id : String} {f : Fields} {rows : List (String × Fields)} (listed : (id, f) ∈ rows) :
      Shows ⟨.query_eq col field value, .ok rows⟩ (col, id) f

/-- What is shown is there. -/
theorem shows_stored {o : FsOp} {db db' : Db} {r : o.Res} {key : Col × String} {f : Fields} (does : sem o db r db')
    (shows_ : Shows ⟨o, r⟩ key f) : ∃ doc, db.docs.get key = some doc ∧ doc.fields = f := by
  cases shows_ with
  | get_doc col id =>
    rcases does with ran | ⟨⟨e, wrong⟩, -⟩
    · have answer : (db.docs.get (col, id)).bind Db.readable = some f := by
        simpa [exec] using congrArg Prod.fst ran
      obtain ⟨doc, stored, readable⟩ := Option.bind_eq_some_iff.mp answer
      exact ⟨doc, stored, (Db.readable_eq_some.mp readable).2⟩
    · cases wrong
  | get_doc_with_update_time col id _ t =>
    rcases does with ran | ⟨⟨e, wrong⟩, -⟩
    · have answer : (db.docs.get (col, id)).map (fun doc => (doc.fields, doc.update_time)) = some (f, t) := by
        simpa [exec] using congrArg Prod.fst ran
      obtain ⟨doc, stored, same⟩ := Option.map_eq_some_iff.mp answer
      exact ⟨doc, stored, congrArg Prod.fst same⟩
    · cases wrong
  | query_eq listed =>
    rename_i col field value id rows
    rcases does with ran | ⟨⟨e, wrong⟩, -⟩
    · have answer := congrArg Prod.fst ran
      simp only [exec, Except.ok.injEq] at answer
      rw [← answer, List.mem_map] at listed
      obtain ⟨⟨⟨col', id'⟩, doc⟩, found, same⟩ := listed
      obtain ⟨rfl, rfl⟩ := Prod.mk.inj same
      obtain ⟨stored, kept⟩ := List.mem_filter.mp found
      have here : col' = col := by simpa using (Bool.and_eq_true_iff.mp kept).1
      subst here
      exact ⟨doc, Table.get_eq_some_iff.mpr stored, rfl⟩
    · cases wrong

/-- What a query finds has the value that was asked for. -/
theorem sem_query {col : Col} {field value : String} {db db' : Db} {rows : List (String × Fields)}
    (does : sem (.query_eq col field value) db (.ok rows) db') : ∀ row ∈ rows, field_str row.2 field = some value := by
  rcases does with ran | ⟨⟨e, wrong⟩, -⟩
  · have answer := congrArg Prod.fst ran
    simp only [exec, Except.ok.injEq] at answer
    intro row listed
    rw [← answer, List.mem_map] at listed
    obtain ⟨⟨key, doc⟩, found, rfl⟩ := listed
    have kept := (Bool.and_eq_true_iff.mp (List.mem_filter.mp found).2).2
    simpa using kept
  · cases wrong

/-! ### Lineage -/

variable {ι α : Type}

/-- Time passes, and anything may happen to other collections; documents of the
    watched ones can only go. -/
structure Elsewhere (watched : Col → Prop) (db db' : Db) : Prop where
  clock : db.clock ≤ db'.clock
  writes : db.writes ≤ db'.writes
  docs : ∀ key, watched key.1 → db'.docs.get key = db.docs.get key ∨ db'.docs.get key = none

/-- What is in order stays so, and threads put only what is in order if they were
    only shown what is. -/
structure Lineage [DecidableEq ι] (watched : Col → Prop) (J : ι → Past Fs → FsOp → Prop)
    (L : List (Occurrence Fs ι) → Col × String → Fields → Prop) : Prop where
  later : ∀ {trace key f} e, L trace key f → L (e :: trace) key f
  written : ∀ {trace i o key found f} r, J i (Pool.past trace i) o →
    (∀ x ∈ Pool.past trace i, ∀ key f, watched key.1 → Shows x key f → L trace key f) → watched key.1 →
    o.writes = some key → (∀ g, found = some g → L trace key g) → o.makes found = some f → L (⟨i, o, r⟩ :: trace) key f

variable [DecidableEq ι] {watched : Col → Prop} {J : ι → Past Fs → FsOp → Prop} {R : ι → Past Fs → α → Prop}
  {L : List (Occurrence Fs ι) → Col × String → Fields → Prop}

theorem Lineage.later_trace (lineage : Lineage watched J L) {trace later : List (Occurrence Fs ι)} {key : Col × String}
    {f : Fields} (holds : L trace key f) (extends_ : trace <:+ later) : L later key f := by
  obtain ⟨more, rfl⟩ := extends_
  induction more with
  | nil => exact holds
  | cons e more ih => exact lineage.later e ih

/-- Everything stored is in order, and everything shown was when it was. -/
structure Ordered (watched : Col → Prop) (L : List (Occurrence Fs ι) → Col × String → Fields → Prop)
    (c : Pool Fs Db ι α) : Prop where
  stored : ∀ key doc, watched key.1 → c.state.docs.get key = some doc → L c.trace key doc.fields
  shown : ∀ e trace, e :: trace <:+ c.trace → ∀ key f, watched key.1 → Shows ⟨e.op, e.answer⟩ key f → L trace key f

/-- What a thread was shown. -/
theorem Ordered.past (lineage : Lineage watched J L) {c : Pool Fs Db ι α} (ordered : Ordered watched L c) {i : ι} :
    ∀ x ∈ Pool.past c.trace i, ∀ key f, watched key.1 → Shows x key f → L c.trace key f := by
  intro x listed key f here shows_
  obtain ⟨before, after, split⟩ := List.append_of_mem (Pool.mem_past.mp listed)
  have old : ⟨i, x.1, x.2⟩ :: after <:+ c.trace := ⟨before, split.symm⟩
  exact lineage.later_trace (ordered.shown _ after old key f here shows_) ((List.suffix_cons _ _).trans old)

theorem Lineage.step (lineage : Lineage watched J L) {c c' : Pool Fs Db ι α} (ordered : Ordered watched L c)
    (did : Pool.Did sem (Elsewhere watched) J c c') : Ordered watched L c' := by
  cases did with
  | env changes trace threads =>
    refine ⟨fun key doc here stored => ?_, fun e t old => ?_⟩
    · rw [trace]
      rcases changes.docs key here with same | gone
      · exact ordered.stored key doc here (same ▸ stored)
      · rw [gone] at stored
        cases stored
    · rw [trace] at old
      exact ordered.shown e t old
  | act e k next allowed does trace threads =>
    have was : ∀ key doc, watched key.1 → c.state.docs.get key = some doc → L c'.trace key doc.fields := by
      rw [trace]
      exact fun key doc here stored => lineage.later e (ordered.stored key doc here stored)
    refine ⟨fun key doc here stored => ?_, fun x t old => ?_⟩
    · rcases sem_effect does with same | effect
      · exact was key doc here (same ▸ stored)
      · rw [effect] at stored
        rcases exec_makes stored with old | ⟨writes, made⟩
        · exact was key doc here old
        · rw [trace]
          refine lineage.written (i := e.thread) e.answer allowed (ordered.past lineage) here writes (fun g found => ?_) made
          obtain ⟨doc', stored', rfl⟩ := Option.map_eq_some_iff.mp found
          exact ordered.stored key doc' here stored'
    · rw [trace] at old
      rcases List.suffix_cons_iff.mp old with whole | earlier
      · obtain ⟨rfl, rfl⟩ := List.cons.inj whole
        intro key f here shows_
        obtain ⟨doc, stored, rfl⟩ := shows_stored does shows_
        exact ordered.stored key doc here stored
      · exact ordered.shown x t earlier

/-- In every run all documents are in order. -/
theorem Lineage.run (lineage : Lineage watched J L) {W : Pool Fs Db ι α → Pool Fs Db ι α → Prop} {c c' : Pool Fs Db ι α}
    (honest : c.Honest J R) (fresh : c.trace = [])
    (start : ∀ key doc, watched key.1 → c.state.docs.get key = some doc → L [] key doc.fields)
    (steps : Relation.ReflTransGen (fun c c' => Pool.Step sem (Elsewhere watched) c c' ∧ W c c') c c') :
    Ordered watched L c' := by
  refine (honest.induct (I := Ordered watched L) (fun _ _ ordered _ did _ => lineage.step ordered did) ⟨?_, ?_⟩ steps).1
  · rw [fresh]
    exact start
  · rw [fresh]
    intro e trace old
    exact absurd (List.suffix_nil.mp old) (List.cons_ne_nil _ _)

/-! ### Versions -/

/-- No document here is newer than the last write, and a version that was read is
    the document that still has its time. -/
structure Versioned (key : Col × String) (c : Pool Fs Db ι α) : Prop where
  stamped : ∀ doc, c.state.docs.get key = some doc → doc.update_time ≤ c.state.writes
  read : ∀ i f ut, (⟨i, .get_doc_with_update_time key.1 key.2, .ok (some (f, ut))⟩ : Occurrence Fs ι) ∈ c.trace →
    ut ≤ c.state.writes ∧ ∀ doc, c.state.docs.get key = some doc → doc.update_time = ut → doc.fields = f

private theorem exec_stamped {o : FsOp} {db : Db} {key : Col × String}
    (stamped : ∀ doc, db.docs.get key = some doc → doc.update_time ≤ db.writes) :
    ∀ doc, (exec o db).2.docs.get key = some doc → doc.update_time ≤ (exec o db).2.writes := by
  have written : ∀ k f doc, (db.write k f).docs.get key = some doc → doc.update_time ≤ (db.write k f).writes := by
    intro k f doc stored
    rw [get_write] at stored
    split at stored
    · cases stored
      exact le_rfl
    · exact (stamped doc stored).trans (Nat.le_succ _)
  cases o with
  | set_doc col id f => exact written _ _
  | merge_doc col id f => exact written _ _
  | delete_doc col id => exact fun doc stored => stamped doc (get_erase_cases stored)
  | update_field col id field value =>
    simp only [exec]
    split
    · exact written _ _
    · exact stamped
  | set_doc_if_unchanged col id f time =>
    simp only [exec]
    split
    · exact written _ _
    · exact stamped
  | create_if_absent col id f =>
    simp only [exec]
    split
    · exact written _ _
    · exact stamped
  | delete_doc_if_unchanged col id time =>
    simp only [exec]
    split
    · exact fun doc stored => stamped doc (get_erase_cases stored)
    · exact stamped
  | _ => exact stamped

theorem Versioned.step {key : Col × String} (here : watched key.1) {c c' : Pool Fs Db ι α} (versioned : Versioned key c)
    (step : Pool.Step sem (Elsewhere watched) c c') : Versioned key c' := by
  obtain ⟨stamped, read⟩ := versioned
  cases step with
  | env changes =>
    have was : ∀ doc, _ = some doc → c.state.docs.get key = some doc := fun doc stored => by
      rcases changes.docs key here with same | gone
      · exact same ▸ stored
      · rw [gone] at stored
        cases stored
    refine ⟨fun doc stored => (stamped doc (was doc stored)).trans changes.writes, fun i f ut listed => ?_⟩
    obtain ⟨old, current⟩ := read i f ut listed
    exact ⟨old.trans changes.writes, fun doc stored => current doc (was doc stored)⟩
  | @act i o k r db' next does =>
    have grows : Grows key c.state db' := .sem does
    have stamped' : ∀ doc, db'.docs.get key = some doc → doc.update_time ≤ db'.writes := by
      rcases sem_effect does with rfl | rfl
      · exact stamped
      · exact exec_stamped stamped
    refine ⟨stamped', fun j f ut listed => ?_⟩
    rcases List.mem_cons.mp listed with now | earlier
    · cases now
      rcases does with ran | ⟨⟨e, wrong⟩, -⟩
      · obtain ⟨answer, rfl⟩ := Prod.mk.inj ran
        have answer : (c.state.docs.get key).map (fun doc => (doc.fields, doc.update_time)) = some (f, ut) := by
          simpa using answer
        obtain ⟨doc, stored, same⟩ := Option.map_eq_some_iff.mp answer
        obtain ⟨rfl, rfl⟩ := Prod.mk.inj same
        refine ⟨stamped doc stored, fun doc' stored' _ => ?_⟩
        obtain rfl := Option.some.inj (stored.symm.trans stored')
        rfl
      · cases wrong
    · obtain ⟨old, current⟩ := read j f ut earlier
      refine ⟨old.trans grows.writes, fun doc stored same => ?_⟩
      exact current doc (grows.unchanged doc stored (same.symm ▸ old)) same

/-- In every run that begins without such a document. -/
theorem Versioned.run {key : Col × String} (here : watched key.1) {c c' : Pool Fs Db ι α} (fresh : c.trace = [])
    (absent : c.state.docs.get key = none) (steps : Relation.ReflTransGen (Pool.Step sem (Elsewhere watched)) c c') :
    Versioned key c' := by
  induction steps with
  | refl =>
    refine ⟨fun doc stored => ?_, fun i f ut listed => ?_⟩
    · rw [absent] at stored
      cases stored
    · rw [fresh] at listed
      cases listed
  | tail _ step ih => exact ih.step here step

/-- Whoever writes a version that is current writes what it has read. -/
theorem Versioned.current {key : Col × String} {c : Pool Fs Db ι α} (versioned : Versioned key c) {i : ι} {f : Fields} {ut : Nat}
    (read : ⟨.get_doc_with_update_time key.1 key.2, .ok (some (f, ut))⟩ ∈ Pool.past c.trace i)
    (unchanged : c.state.unchanged key ut = true) : ∃ doc, c.state.docs.get key = some doc ∧ doc.fields = f := by
  obtain ⟨doc, stored, same⟩ := Db.unchanged_iff.mp unchanged
  exact ⟨doc, stored, (versioned.read i f ut (Pool.mem_past.mp read)).2 doc stored same⟩

/-! ### Clocks -/

/-- No reading of the clock is earlier than the run. -/
theorem clock_reads {c c' : Pool Fs Db ι α} (fresh : c.trace = [])
    (steps : Relation.ReflTransGen (Pool.Step sem (Elsewhere watched)) c c') :
    c.state.clock ≤ c'.state.clock ∧
      ∀ i (t : Nat), (⟨i, .now, t⟩ : Occurrence Fs ι) ∈ c'.trace → c.state.clock ≤ t ∧ t ≤ c'.state.clock := by
  induction steps with
  | refl =>
    refine ⟨le_rfl, fun i t listed => ?_⟩
    rw [fresh] at listed
    cases listed
  | tail _ step ih =>
    obtain ⟨grown, reads⟩ := ih
    cases step with
    | env changes => exact ⟨grown.trans changes.clock, fun i t listed => ⟨(reads i t listed).1, (reads i t listed).2.trans changes.clock⟩⟩
    | act i next does =>
      have same := sem_clock does
      refine ⟨grown.trans same.ge, fun j t listed => ?_⟩
      rcases List.mem_cons.mp listed with now | earlier
      · cases now
        obtain ⟨rfl, -⟩ := sem_now does
        exact ⟨grown, same.ge⟩
      · exact ⟨(reads j t earlier).1, (reads j t earlier).2.trans same.ge⟩

end RustOp.Firestore
