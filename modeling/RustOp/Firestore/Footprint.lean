import RustOp.Firestore.Store
import RustOp.Effects.RelyGuarantee

/-!
Firestore under concurrency: requests of many callers interleave, and each may
fail before or after it took effect. Times of writes only grow, so a document
that still has the time it was read with was not written since. The footprint of
a storage operation lists the documents it may write.
-/
namespace RustOp.Firestore
open RustOp.Effects

/-! ### Requests that may fail -/

/-- The answer is an error. -/
def FsOp.failed : (o : FsOp) → o.Res → Prop
  | .get_doc .., r => ∃ e, r = .error e
  | .get_doc_with_update_time .., r => ∃ e, r = .error e
  | .set_doc .., r => ∃ e, r = .error e
  | .update_field .., r => ∃ e, r = .error e
  | .set_doc_if_unchanged .., r => ∃ e, r = .error e
  | .create_if_absent .., r => ∃ e, r = .error e
  | .delete_doc .., r => ∃ e, r = .error e
  | .delete_doc_if_unchanged .., r => ∃ e, r = .error e
  | .merge_doc .., r => ∃ e, r = .error e
  | .query_eq .., r => ∃ e, r = .error e
  | .now, _ => False

/-- A request is answered as `exec` says, or fails; then it took effect or not. -/
def sem : Sem Fs Db := fun o db r db' =>
  exec o db = (r, db') ∨ o.failed r ∧ (db' = db ∨ db' = (exec o db).2)

/-- The clock moves on. -/
def Ticks (db db' : Db) : Prop := ∃ t, db.clock ≤ t ∧ db' = { db with clock := t }

/-! ### Times of writes -/

/-- No document is newer than the last write. -/
def Stamped (db : Db) : Prop := ∀ k doc, db.docs.get k = some doc → doc.update_time ≤ db.writes

/-- What any step does to a document and its time: one that was written before
    the step and is there after it is unchanged. -/
structure Grows (key : Col × String) (db db' : Db) : Prop where
  stamped : Stamped db → Stamped db'
  writes : db.writes ≤ db'.writes
  unchanged : ∀ doc, db'.docs.get key = some doc → doc.update_time ≤ db.writes → db.docs.get key = some doc

theorem Grows.refl (key : Col × String) (db : Db) : Grows key db db := ⟨id, le_rfl, fun _ stored _ => stored⟩

theorem Grows.write (key k : Col × String) (db : Db) (f : Fields) : Grows key db (db.write k f) where
  stamped := by
    intro stamped x doc stored
    simp only [Db.write, Table.get_set] at stored ⊢
    split at stored
    · cases stored
      exact le_rfl
    · exact (stamped x doc stored).trans (Nat.le_succ _)
  writes := Nat.le_succ _
  unchanged := by
    intro doc stored old
    simp only [Db.write, Table.get_set] at stored
    split at stored
    · cases stored
      exact absurd old (Nat.not_succ_le_self _)
    · exact stored

theorem Grows.erase (key k : Col × String) (db : Db) : Grows key db (db.erase k) where
  stamped := by
    intro stamped x doc stored
    simp only [Db.erase, Table.get_remove] at stored ⊢
    split at stored
    · cases stored
    · exact stamped x doc stored
  writes := le_rfl
  unchanged := by
    intro doc stored _
    simp only [Db.erase, Table.get_remove] at stored
    split at stored
    · cases stored
    · exact stored

theorem Grows.exec (key : Col × String) (o : FsOp) (db : Db) : Grows key db (exec o db).2 := by
  cases o with
  | set_doc col id f => exact .write ..
  | merge_doc col id f => exact .write ..
  | delete_doc col id => exact .erase ..
  | update_field col id field value =>
    simp only [Firestore.exec]
    split
    · exact .write ..
    · exact .refl ..
  | set_doc_if_unchanged col id f time =>
    simp only [Firestore.exec]
    split
    · exact .write ..
    · exact .refl ..
  | create_if_absent col id f =>
    simp only [Firestore.exec]
    split
    · exact .write ..
    · exact .refl ..
  | delete_doc_if_unchanged col id time =>
    simp only [Firestore.exec]
    split
    · exact .erase ..
    · exact .refl ..
  | _ => exact .refl ..

theorem Grows.sem {key : Col × String} {o : FsOp} {db db' : Db} {r : o.Res} (does : sem o db r db') :
    Grows key db db' := by
  rcases does with ran | ⟨-, rfl | rfl⟩
  · have after : (Firestore.exec o db).2 = db' := by rw [ran]
    exact after ▸ .exec key o db
  · exact .refl ..
  · exact .exec ..

/-! ### Conditional requests -/

theorem Db.unchanged_iff {db : Db} {key : Col × String} {time : Nat} :
    db.unchanged key time = true ↔ ∃ doc, db.docs.get key = some doc ∧ doc.update_time = time := by
  simp [Db.unchanged, Option.any_eq_true]

/-- A conditional write took effect on the version it names, or had none. -/
theorem sem_set_if_unchanged {col : Col} {id : String} {f : Fields} {time : Nat} {db db' : Db} {r : Except String Bool}
    (does : sem (.set_doc_if_unchanged col id f time) db r db') : (db' = db ∧ r ≠ .ok true) ∨
      (db.unchanged (col, id) time = true ∧ db' = db.write (col, id) f ∧ r ≠ .ok false) := by
  by_cases current : db.unchanged (col, id) time = true
  · have ran : Firestore.exec (.set_doc_if_unchanged col id f time) db = (.ok true, db.write (col, id) f) := by
      simp [Firestore.exec, current]
    rcases does with does | ⟨⟨e, rfl⟩, rfl | rfl⟩
    · rw [ran] at does
      obtain ⟨rfl, rfl⟩ := Prod.mk.inj does
      exact .inr ⟨current, rfl, by simp⟩
    · exact .inl ⟨rfl, by simp⟩
    · exact .inr ⟨current, by rw [ran], by simp⟩
  · have ran : Firestore.exec (.set_doc_if_unchanged col id f time) db = (.ok false, db) := by
      simp [Firestore.exec, current]
    rcases does with does | ⟨⟨e, rfl⟩, rfl | rfl⟩
    · rw [ran] at does
      obtain ⟨rfl, rfl⟩ := Prod.mk.inj does
      exact .inl ⟨rfl, by simp⟩
    · exact .inl ⟨rfl, by simp⟩
    · exact .inl ⟨by rw [ran], by simp⟩

/-- A creation took effect where nothing was, or had none. -/
theorem sem_create_if_absent {col : Col} {id : String} {f : Fields} {db db' : Db} {r : Except String Bool}
    (does : sem (.create_if_absent col id f) db r db') : (db' = db ∧ r ≠ .ok true) ∨
      (db.docs.get (col, id) = none ∧ db' = db.write (col, id) f ∧ r ≠ .ok false) := by
  cases stored : db.docs.get (col, id) with
  | none =>
    have ran : Firestore.exec (.create_if_absent col id f) db = (.ok true, db.write (col, id) f) := by
      simp [Firestore.exec, stored]
    rcases does with does | ⟨⟨e, rfl⟩, rfl | rfl⟩
    · rw [ran] at does
      obtain ⟨rfl, rfl⟩ := Prod.mk.inj does
      exact .inr ⟨rfl, rfl, by simp⟩
    · exact .inl ⟨rfl, by simp⟩
    · exact .inr ⟨rfl, by rw [ran], by simp⟩
  | some doc =>
    have ran : Firestore.exec (.create_if_absent col id f) db = (.ok false, db) := by
      simp [Firestore.exec, stored]
    rcases does with does | ⟨⟨e, rfl⟩, rfl | rfl⟩
    · rw [ran] at does
      obtain ⟨rfl, rfl⟩ := Prod.mk.inj does
      exact .inl ⟨rfl, by simp⟩
    · exact .inl ⟨rfl, by simp⟩
    · exact .inl ⟨by rw [ran], by simp⟩

/-- A conditional deletion took effect on the version it names, or had none. -/
theorem sem_delete_if_unchanged {col : Col} {id : String} {time : Nat} {db db' : Db} {r : Except String Bool}
    (does : sem (.delete_doc_if_unchanged col id time) db r db') : (db' = db ∧ r ≠ .ok true) ∨
      (db.unchanged (col, id) time = true ∧ db' = db.erase (col, id) ∧ r ≠ .ok false) := by
  by_cases current : db.unchanged (col, id) time = true
  · have ran : Firestore.exec (.delete_doc_if_unchanged col id time) db = (.ok true, db.erase (col, id)) := by
      simp [Firestore.exec, current]
    rcases does with does | ⟨⟨e, rfl⟩, rfl | rfl⟩
    · rw [ran] at does
      obtain ⟨rfl, rfl⟩ := Prod.mk.inj does
      exact .inr ⟨current, rfl, by simp⟩
    · exact .inl ⟨rfl, by simp⟩
    · exact .inr ⟨current, by rw [ran], by simp⟩
  · have ran : Firestore.exec (.delete_doc_if_unchanged col id time) db = (.ok false, db) := by
      simp [Firestore.exec, current]
    rcases does with does | ⟨⟨e, rfl⟩, rfl | rfl⟩
    · rw [ran] at does
      obtain ⟨rfl, rfl⟩ := Prod.mk.inj does
      exact .inl ⟨rfl, by simp⟩
    · exact .inl ⟨rfl, by simp⟩
    · exact .inl ⟨by rw [ran], by simp⟩

/-- A request that writes nothing changes nothing. -/
theorem sem_read {o : FsOp} {db db' : Db} {r : o.Res} (reads : ∀ db, (Firestore.exec o db).2 = db) (does : sem o db r db') :
    db' = db := by
  rcases does with ran | ⟨-, same | same⟩
  · rw [← reads db, ran]
  · exact same
  · rw [same, reads db]

/-! ### Footprints -/

/-- The document a request may write or delete. -/
def FsOp.writes : FsOp → Option (Col × String)
  | .set_doc col id _ => some (col, id)
  | .update_field col id _ _ => some (col, id)
  | .set_doc_if_unchanged col id _ _ => some (col, id)
  | .create_if_absent col id _ => some (col, id)
  | .delete_doc col id => some (col, id)
  | .delete_doc_if_unchanged col id _ => some (col, id)
  | .merge_doc col id _ => some (col, id)
  | _ => none

/-- A program that only reads leaves everything as it is. -/
theorem run_of_reads {α : Type} {p : Prog Fs α} (uses : p.Uses fun o : FsOp => o.writes = none) (db : Db) :
    (Prog.run exec p db).2 = db := by
  refine uses.preserves (I := fun s => s = db) (fun o s reads same => ?_) rfl
  rw [← same]
  cases o <;> first | rfl | cases reads

/-- Other documents stay as they are. -/
theorem exec_frame {o : FsOp} {key : Col × String} (other : o.writes ≠ some key) (db : Db) :
    (exec o db).2.docs.get key = db.docs.get key := by
  cases o with
  | set_doc col id f => exact Table.get_set_ne _ (fun same => other (by rw [same]; rfl)) _
  | merge_doc col id f => exact Table.get_set_ne _ (fun same => other (by rw [same]; rfl)) _
  | delete_doc col id => exact Table.get_remove_ne _ fun same => other (by rw [same]; rfl)
  | update_field col id field value =>
    simp only [exec]
    split
    · exact Table.get_set_ne _ (fun same => other (by rw [same]; rfl)) _
    · rfl
  | set_doc_if_unchanged col id f time =>
    simp only [exec]
    split
    · exact Table.get_set_ne _ (fun same => other (by rw [same]; rfl)) _
    · rfl
  | create_if_absent col id f =>
    simp only [exec]
    split
    · exact Table.get_set_ne _ (fun same => other (by rw [same]; rfl)) _
    · rfl
  | delete_doc_if_unchanged col id time =>
    simp only [exec]
    split
    · exact Table.get_remove_ne _ fun same => other (by rw [same]; rfl)
    · rfl
  | _ => rfl

/-- A request took effect as `exec` says, or not at all. -/
theorem sem_effect {o : FsOp} {db db' : Db} {r : o.Res} (does : sem o db r db') : db' = db ∨ db' = (exec o db).2 := by
  rcases does with ran | ⟨-, effect⟩
  · exact .inr (by rw [ran])
  · exact effect

/-- Other documents stay as they are, whether or not the request fails. -/
theorem sem_frame {o : FsOp} {key : Col × String} {db db' : Db} {r : o.Res} (other : o.writes ≠ some key)
    (does : sem o db r db') : db'.docs.get key = db.docs.get key := by
  rcases sem_effect does with rfl | rfl
  · rfl
  · exact exec_frame other db

theorem sem_clock {o : FsOp} {db db' : Db} {r : o.Res} (does : sem o db r db') : db'.clock = db.clock := by
  rcases sem_effect does with rfl | rfl
  · rfl
  · exact exec_clock o db

/-- The clock always answers. -/
theorem sem_now {db db' : Db} {t : Nat} (does : sem .now db t db') : t = db.clock ∧ db' = db := by
  rcases does with ran | ⟨failed, -⟩
  · cases ran
    exact ⟨rfl, rfl⟩
  · exact failed.elim

/-- A document that was read is what is stored. -/
theorem sem_get_doc {col : Col} {id : String} {db db' : Db} {r : Except String (Option Fields)}
    (does : sem (.get_doc col id) db r db') : db' = db ∧ ∀ found, r = .ok found → found = (db.docs.get (col, id)).bind Db.readable := by
  refine ⟨sem_read (fun _ => rfl) does, fun found answer => ?_⟩
  rcases does with ran | ⟨⟨e, failed⟩, -⟩
  · cases ran
    exact (Except.ok.inj answer).symm
  · rw [failed] at answer
    cases answer

/-- A document that was read with its time is what is stored. -/
theorem sem_get_with_time {col : Col} {id : String} {db db' : Db} {r : Except String (Option (Fields × Nat))}
    (does : sem (.get_doc_with_update_time col id) db r db') :
    db' = db ∧ ∀ found, r = .ok found → found = (db.docs.get (col, id)).map fun doc => (doc.fields, doc.update_time) := by
  refine ⟨sem_read (fun _ => rfl) does, fun found answer => ?_⟩
  rcases does with ran | ⟨⟨e, failed⟩, -⟩
  · cases ran
    exact (Except.ok.inj answer).symm
  · rw [failed] at answer
    cases answer

/-- The writes of each operation of the storage interface. -/
def Footprint : BackendOp → FsOp → Prop
  | .store (.save_interaction i), f => f.writes = some (.interactions, i.uid)
  | .store (.consume_interaction uid), f => f.writes = some (.interactions, uid)
  | .store (.save_session s), f => f.writes = some (.sessions, s.sid)
  | .store (.delete_session sid), f => f.writes = some (.sessions, sid)
  | .store (.save_code c), f => f.writes = some (.authCodes, c.code)
  | .store (.take_code c), f => f.writes = some (.authCodes, c) ∨ (∃ t, f = .delete_doc .accessTokens t) ∨
      ∃ t, f = .delete_doc .refreshTokens t
  | .store (.link_issued_tokens c _ _), f => f.writes = some (.authCodes, c)
  | .store (.save_access_token t), f => f.writes = some (.accessTokens, t.token)
  | .store (.revoke_access_token t), f => f = .delete_doc .accessTokens t
  | .store (.consume_mandate_if_unused t), f => f.writes = some (.accessTokens, t)
  | .store (.save_refresh_token t), f => f.writes = some (.refreshTokens, t.token)
  | .store (.revoke_refresh_token t), f => f = .delete_doc .refreshTokens t
  | .store (.mark_refresh_used t _), f => f.writes = some (.refreshTokens, t)
  | .store (.revoke_refresh_family _), f => ∃ t, f = .delete_doc .refreshTokens t
  | .ciba (.create r ..), f => f.writes = some (.cibaRequests, r)
  | .ciba (.transition_if_pending r _), f => f.writes = some (.cibaRequests, r)
  | .ciba (.consume_if_approved r), f => f.writes = some (.cibaRequests, r)
  | .ciba (.delete r), f => f = .delete_doc .cibaRequests r
  | .ciba (.record_history e), f => f.writes = some (.cibaHistory, e.auth_req_id)
  | .ciba (.sweep_expired _), f => (∃ r, f = .delete_doc .cibaRequests r) ∨ ∃ r, f.writes = some (.cibaHistory, r)
  | _, _ => False

/-- A read, or a write within the footprint. -/
def Within (o : BackendOp) (f : FsOp) : Prop := f.writes = none ∨ Footprint o f

section uses
variable {allowed : FsOp → Prop} (reads : ∀ f : FsOp, f.writes = none → allowed f)
include reads

theorem get_unexpired_uses {α : Type} (col : Col) (id : String) (g : Fields → α) :
    (FirestoreStore.get_unexpired col id >>= fun f => pure (f.map g)).Uses allowed := by
  refine Prog.Uses.bind ?_ fun _ => trivial
  refine ⟨reads _ rfl, fun answer => ?_⟩
  rcases answer with e | ⟨_ | f⟩
  · trivial
  · trivial
  · refine ⟨reads _ rfl, fun now => ?_⟩
    dsimp only [Prog.bind, doc_expired, Prog.pure_eq]
    split <;> trivial

private theorem revoke_walk_uses (deletes : ∀ t, allowed (.delete_doc .refreshTokens t)) (guard : Nat)
    (start : Option String) : (FirestoreStore.revoke_walk guard start).Uses allowed := by
  induction guard generalizing start with
  | zero => trivial
  | succ guard ih =>
    cases start with
    | none => trivial
    | some t => exact ⟨reads _ rfl, fun answer => ⟨deletes t, fun _ => ih _⟩⟩

private theorem keep_pending_uses (rows : List (String × Fields)) :
    (FirestoreCibaStore.keep_pending rows).Uses allowed := by
  induction rows with
  | nil => trivial
  | cons row rows ih =>
    obtain ⟨id, f⟩ := row
    unfold FirestoreCibaStore.keep_pending
    dsimp only
    split
    · exact ⟨reads _ rfl, fun now => ih.bind fun kept => trivial⟩
    · exact ih

private theorem sweep_rows_uses (deletes : ∀ r, allowed (.delete_doc .cibaRequests r))
    (history : ∀ r f, allowed (.set_doc .cibaHistory r f)) (t : Nat) (rows : List (String × Fields)) :
    (FirestoreCibaStore.sweep_rows t rows).Uses allowed := by
  induction rows with
  | nil => trivial
  | cons row rows ih =>
    obtain ⟨id, f⟩ := row
    unfold FirestoreCibaStore.sweep_rows
    dsimp only
    split
    · refine ⟨reads _ rfl, fun now => ?_⟩
      dsimp only [Prog.bind, Prog.pure_eq]
      split
      · exact ⟨history _ _, fun _ => ⟨deletes _, fun _ => ih.bind fun _ => trivial⟩⟩
      · exact ih
    · exact ih

end uses

private theorem production_uses_store (o : StoreOp) :
    (FirestoreStore.run o).Uses (Within (.store o)) := by
  have reads : ∀ f : FsOp, f.writes = none → Within (.store o) f := fun _ => .inl
  cases o with
  | save_interaction i => exact ⟨.inl rfl, fun now => ⟨.inr rfl, fun _ => trivial⟩⟩
  | get_interaction uid => exact get_unexpired_uses reads _ _ _
  | consume_interaction uid =>
    refine ⟨.inl rfl, fun answer => ?_⟩
    rcases answer with e | ⟨_ | ⟨f, time⟩⟩
    · trivial
    · trivial
    · refine ⟨.inr rfl, fun won => ?_⟩
      rcases won with e | ⟨_ | _⟩ <;> trivial
  | save_session s => exact ⟨.inl rfl, fun now => ⟨.inr rfl, fun _ => trivial⟩⟩
  | get_session sid => exact get_unexpired_uses reads _ _ _
  | delete_session sid => exact ⟨.inr rfl, fun _ => trivial⟩
  | save_code c => exact ⟨.inr rfl, fun _ => trivial⟩
  | take_code c =>
    refine ⟨.inl rfl, fun answer => ?_⟩
    rcases answer with e | ⟨_ | ⟨f, time⟩⟩
    · trivial
    · trivial
    · dsimp only [Prog.bind, Prog.pure_eq]
      split
      · cases field_str f "issuedAccessToken" <;> cases field_str f "issuedRefreshToken"
        · trivial
        · exact ⟨.inr (.inr (.inr ⟨_, rfl⟩)), fun _ => trivial⟩
        · exact ⟨.inr (.inr (.inl ⟨_, rfl⟩)), fun _ => trivial⟩
        · exact ⟨.inr (.inr (.inl ⟨_, rfl⟩)), fun _ => ⟨.inr (.inr (.inr ⟨_, rfl⟩)), fun _ => trivial⟩⟩
      · refine ⟨.inr (.inl rfl), fun won => ?_⟩
        rcases won with e | ⟨_ | _⟩ <;> trivial
  | link_issued_tokens c a r => exact ⟨.inr rfl, fun _ => trivial⟩
  | save_access_token t => exact ⟨.inl rfl, fun now => ⟨.inr rfl, fun _ => trivial⟩⟩
  | get_access_token t => exact get_unexpired_uses reads _ _ _
  | revoke_access_token t => exact ⟨.inr rfl, fun _ => trivial⟩
  | consume_mandate_if_unused t =>
    refine ⟨.inl rfl, fun answer => ?_⟩
    rcases answer with e | ⟨_ | ⟨f, time⟩⟩
    · trivial
    · trivial
    · refine ⟨.inl rfl, fun now => ?_⟩
      dsimp only [Prog.bind, Prog.pure_eq]
      split
      · trivial
      · split
        · trivial
        · exact ⟨.inr rfl, fun _ => trivial⟩
  | save_refresh_token t => exact ⟨.inl rfl, fun now => ⟨.inr rfl, fun _ => trivial⟩⟩
  | get_refresh_token t => exact get_unexpired_uses reads _ _ _
  | revoke_refresh_token t => exact ⟨.inr rfl, fun _ => trivial⟩
  | mark_refresh_used t next =>
    refine ⟨.inl rfl, fun answer => ?_⟩
    rcases answer with e | ⟨_ | ⟨f, time⟩⟩
    · trivial
    · trivial
    · dsimp only [Prog.bind, Prog.pure_eq]
      split
      · trivial
      · refine ⟨.inr rfl, fun won => ?_⟩
        cases won <;> trivial
  | revoke_refresh_family t => exact revoke_walk_uses reads (fun x => .inr ⟨x, rfl⟩) 64 (some t)
  | sweep_expired => trivial

private theorem production_uses_ciba (o : CibaOp) :
    (FirestoreCibaStore.run o).Uses (Within (.ciba o)) := by
  have reads : ∀ f : FsOp, f.writes = none → Within (.ciba o) f := fun _ => .inl
  cases o with
  | create id client_id account scope message details =>
    refine ⟨.inl rfl, fun now => ⟨.inr rfl, fun done => ?_⟩⟩
    cases done <;> trivial
  | get id => exact ⟨.inl rfl, fun _ => trivial⟩
  | transition_if_pending id status =>
    refine ⟨.inl rfl, fun answer => ?_⟩
    rcases answer with e | ⟨_ | ⟨f, time⟩⟩
    · trivial
    · trivial
    · dsimp only [Prog.bind, Prog.pure_eq]
      split
      · trivial
      · exact ⟨.inr rfl, fun _ => trivial⟩
  | consume_if_approved id =>
    refine ⟨.inl rfl, fun answer => ?_⟩
    rcases answer with e | ⟨_ | ⟨f, time⟩⟩
    · trivial
    · trivial
    · dsimp only [Prog.bind, Prog.pure_eq]
      split
      · trivial
      · refine ⟨.inr rfl, fun won => ?_⟩
        rcases won with e | ⟨_ | _⟩ <;> trivial
  | delete id => exact ⟨.inr rfl, fun _ => trivial⟩
  | list_pending account =>
    refine ⟨.inl rfl, fun answer => ?_⟩
    cases answer with
    | error e => trivial
    | ok rows => exact (keep_pending_uses reads rows).bind fun _ => trivial
  | record_history entry => exact ⟨.inr rfl, fun _ => trivial⟩
  | list_history account limit =>
    refine ⟨.inl rfl, fun answer => ?_⟩
    cases answer <;> trivial
  | sweep_expired account =>
    refine ⟨.inl rfl, fun answer => ?_⟩
    cases answer with
    | error e => trivial
    | ok rows =>
      refine ⟨.inl rfl, fun t => (sweep_rows_uses reads (fun r => .inr (.inl ⟨r, rfl⟩))
        (fun r f => .inr (.inr ⟨r, rfl⟩)) t rows).bind fun _ => trivial⟩

/-- Every operation writes within its footprint. -/
theorem production_uses (o : BackendOp) : (production o).Uses (Within o) := by
  cases o with
  | store o => exact production_uses_store o
  | ciba o => exact production_uses_ciba o
  | now => exact ⟨.inl rfl, fun _ => trivial⟩

end RustOp.Firestore
