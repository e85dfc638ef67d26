import RustOp.Web.LastAdmin

/-!
Deleting an account while one of its deletions is answered with an error. The
sessions and tokens go first, whether or not that works, and then the documents
of the account, until one cannot be deleted. Repeating the request begins with
the index, which is not the last document to go.
-/
namespace RustOp.Web.AccountDeletion
open RustOp.Effects RustOp.Firestore registration account_admin
open AccountIdentity (credential)
open LastAdmin (signed address)

/-! ### Deletions that fail -/

/-- Which deletions are answered with an error, and whether they take effect. -/
abbrev Faults := Col × String → Option Bool

/-- One deletion fails. -/
def only (key : Col × String) (applied : Bool) : Faults := fun k => if k = key then some applied else none

/-- Firestore while deletions fail. -/
def failing (faults : Faults) : Prog.Handler Fs Db
  | .delete_doc col id, db =>
    match faults (col, id) with
    | some applied => (.error "delete_doc", if applied then db.erase (col, id) else db)
    | none => exec (.delete_doc col id) db
  | o, db => exec o db

theorem failing_delete (faults : Faults) (col : Col) (id : String) (db : Db) : failing faults (.delete_doc col id) db =
    match faults (col, id) with
    | some applied => (.error "delete_doc", if applied then db.erase (col, id) else db)
    | none => (.ok (), db.erase (col, id)) := rfl

theorem failing_none : failing (fun _ => none) = exec := by
  funext o db
  cases o <;> rfl

/-! ### The documents of an account -/

/-- A session or a token of the account. -/
def Held (db : Db) (account_id : String) (key : Col × String) : Prop :=
  key.1 ∈ [Col.sessions, .accessTokens, .refreshTokens] ∧
    ∃ doc, db.docs.get key = some doc ∧ field_str doc.fields "accountId" = some account_id

/-- What else is stored for an account, in the order it is deleted. -/
def documents (account_id email : String) : List (Col × String) :=
  [(.fcmTokens, account_id), (.profiles, account_id), (.accountsByUuid, account_id), (.accounts, email)]

/-- An account that is frozen and not an administrator's, found by its index. -/
structure Frozen (p : Console) (db : Db) (account_id email : String) : Prop where
  index : address db account_id = some email
  account : ∃ cred, credential db email = some cred ∧ cred.account_id = account_id ∧ cred.disabled = true
  unlisted : account_id ∉ admin_store.listed p.admins db

/-- Nothing is left of the account. -/
structure Gone (db : Db) (account_id email : String) : Prop where
  documents : ∀ key ∈ documents account_id email, db.docs.get key = none
  held : ∀ key, ¬ Held db account_id key

/-- The deletion of an account deletes this document. -/
def Deletes (db : Db) (account_id email : String) (key : Col × String) : Prop :=
  Held db account_id key ∨ key ∈ documents account_id email

/-- A failure that the next attempt makes up for: the deletion had no effect and
    comes before that of the account, or it had its effect and is not that of the index. -/
def Finishes (account_id : String) (key : Col × String) (applied : Bool) : Prop :=
  if applied then key ≠ (.accountsByUuid, account_id)
  else key ∈ [(Col.fcmTokens, account_id), (.profiles, account_id), (.accountsByUuid, account_id)]

/-! ### What is erased -/

/-- Besides the log, exactly these documents are erased. -/
structure Erased (gone : Col × String → Prop) (db db' : Db) : Prop where
  erased : ∀ key, gone key → key.1 ≠ .auditLog → db'.docs.get key = none
  kept : ∀ key, ¬ gone key → key.1 ≠ .auditLog → db'.docs.get key = db.docs.get key

section erased
variable {gone gone' : Col × String → Prop} {db db' db'' : Db}

theorem Erased.trans (first : Erased gone db db') (next : Erased gone' db' db'') :
    Erased (fun key => gone key ∨ gone' key) db db'' where
  erased := by
    intro key erased shown
    by_cases later : gone' key
    · exact next.erased key later shown
    · rw [next.kept key later shown]
      exact first.erased key (erased.resolve_right later) shown
  kept := by
    intro key kept shown
    rw [next.kept key (fun later => kept (.inr later)) shown]
    exact first.kept key (fun before => kept (.inl before)) shown

theorem Erased.congr (erased : Erased gone db db') (same : ∀ key, gone key ↔ gone' key) : Erased gone' db db' where
  erased key here shown := erased.erased key ((same key).mpr here) shown
  kept key absent shown := erased.kept key (fun here => absent ((same key).mp here)) shown

/-- A session or token stays unless it is erased. -/
theorem Erased.held (erased : Erased gone db db') {account_id : String} {key : Col × String} :
    Held db' account_id key ↔ Held db account_id key ∧ ¬ gone key := by
  have shown : key.1 ∈ [Col.sessions, .accessTokens, .refreshTokens] → key.1 ≠ .auditLog := by
    intro listed log
    rw [log] at listed
    simp at listed
  constructor
  · rintro ⟨listed, doc, stored, own⟩
    by_cases here : gone key
    · rw [erased.erased key here (shown listed)] at stored
      cases stored
    · rw [erased.kept key here (shown listed)] at stored
      exact ⟨⟨listed, doc, stored, own⟩, here⟩
  · rintro ⟨⟨listed, doc, stored, own⟩, absent⟩
    refine ⟨listed, doc, ?_, own⟩
    rwa [erased.kept key absent (shown listed)]

end erased

/-- What a program makes of an answer in the end does not change the state. -/
private theorem run_bind_state {S : Sig} {σ α β : Type} {h : Prog.Handler S σ} {q : Prog S α} {f : α → Prog S β} {s : σ}
    (ends : ∀ a, ∃ b, f a = .ret b) : (Prog.run h (q >>= f) s).2 = (Prog.run h q s).2 := by
  obtain ⟨b, last⟩ := ends (Prog.run h q s).1
  rw [Prog.run_bind, last, Prog.run_ret]

section runs
variable (faults : Faults)

private theorem failing_frame (o : FsOp) (db : Db) (key : Col × String) (other : o.writes ≠ some key) :
    (failing faults o db).2.docs.get key = db.docs.get key := by
  cases o with
  | delete_doc col id =>
    have erased := exec_frame other db
    rw [failing_delete]
    split
    · split
      · exact erased
      · rfl
    · exact erased
  | _ => exact exec_frame other db

/-- A program without deletions does not notice. -/
private theorem run_reads {α : Type} {q : Prog Fs α} (reads : q.Uses fun o : FsOp => o.writes = none) (db : Db) :
    Prog.run (failing faults) q db = ((Prog.run exec q db).1, db) := by
  induction q with
  | ret a => rfl
  | call o k ih =>
    have answers : failing faults o db = exec o db ∧ (exec o db).2 = db := by
      have quiet := reads.1
      cases o <;> first | exact ⟨rfl, rfl⟩ | cases quiet
    rw [Prog.run_call, Prog.run_call, answers.1, answers.2]
    exact ih _ (reads.2 _)

/-- The log is not looked at. -/
private theorem run_record (id actor action target detail : String) (db : Db) :
    Erased (fun _ => False) db (Prog.run (failing faults) (audit_log.record id actor action target detail) db).2 where
  erased key none _ := none.elim
  kept := by
    intro key _ shown
    have logs : (audit_log.record id actor action target detail).Uses fun o : FsOp => o.writes ≠ some key := by
      refine record_uses (fun o none => by simp [none]) (fun f writes => ?_) actor action target detail
      cases writes
      exact shown rfl
    refine logs.preserves (I := fun s : Db => s.docs.get key = db.docs.get key) (fun o s other same => ?_) rfl
    rw [failing_frame faults o s key other, same]

private theorem erased_delete (col : Col) (id : String) (db : Db) :
    Erased (fun key => key = (col, id) ∧ faults key ≠ some false) db (failing faults (.delete_doc col id) db).2 where
  erased := by
    rintro _ ⟨rfl, effect⟩ -
    rw [failing_delete]
    split
    · next applied fails =>
      cases applied with
      | false => exact absurd fails effect
      | true => simp [get_erase]
    · simp [get_erase]
  kept := by
    intro key kept _
    by_cases here : key = (col, id)
    · subst here
      have fails : faults (col, id) = some false := by simpa using kept
      rw [failing_delete, fails]
      rfl
    · refine failing_frame faults _ db key ?_
      simpa [FsOp.writes] using Ne.symm here

private theorem run_delete_rows (col : Col) (rows : List (String × Fields)) (db : Db) :
    Erased (fun key => (key.1 = col ∧ key.2 ∈ rows.map Prod.fst) ∧ faults key ≠ some false) db
      (Prog.run (failing faults) (delete_rows col rows) db).2 := by
  induction rows generalizing db with
  | nil => exact ⟨fun key here _ => by simp at here, fun key _ _ => rfl⟩
  | cons row rows ih =>
    obtain ⟨id, f⟩ := row
    have ends : (Prog.run (failing faults) (delete_rows col ((id, f) :: rows)) db).2 =
        (Prog.run (failing faults) (delete_rows col rows) (failing faults (.delete_doc col id) db).2).2 := by
      simp only [delete_rows, Firestore.fs, Prog.call_bind, Prog.ret_bind, Prog.run_call, Prog.run_bind]
      cases (failing faults (.delete_doc col id) db).1 <;> rfl
    rw [ends]
    refine ((erased_delete faults col id db).trans (ih _)).congr fun key => ?_
    obtain ⟨col', id'⟩ := key
    simp only [Prod.mk.injEq, List.map_cons, List.mem_cons]
    tauto

private theorem run_revoke_by_account (col : Col) (account_id : String) (db : Db) :
    Erased (fun key => (key.1 = col ∧ ∃ doc, db.docs.get key = some doc ∧ field_str doc.fields "accountId" = some account_id) ∧
      faults key ≠ some false) db (Prog.run (failing faults) (revoke_by_account col account_id) db).2 := by
  have rows := run_delete_rows faults col
    ((db.docs.pairs.filter fun e => e.1.1 = col && field_str e.2.fields "accountId" = some account_id).map
      fun e => (e.1.2, e.2.fields)) db
  have ends : (Prog.run (failing faults) (revoke_by_account col account_id) db).2 = (Prog.run (failing faults) (delete_rows col
      ((db.docs.pairs.filter fun e => e.1.1 = col && field_str e.2.fields "accountId" = some account_id).map
        fun e => (e.1.2, e.2.fields))) db).2 := by
    simp only [revoke_by_account, Firestore.fs, Prog.call_bind, Prog.ret_bind, Prog.run_call, failing, exec, Prog.run_bind,
      Prog.pure_eq, Prog.run_ret]
  rw [ends]
  refine rows.congr fun key => and_congr_left fun _ => and_congr_right fun here => ?_
  obtain ⟨col', id⟩ := key
  subst here
  simp only [List.map_map, List.mem_map, List.mem_filter, Function.comp, Table.get_eq_some_iff]
  constructor
  · rintro ⟨⟨⟨col, id⟩, doc⟩, ⟨stored, own⟩, rfl⟩
    simp only [Bool.and_eq_true, decide_eq_true_eq] at own
    obtain ⟨rfl, own⟩ := own
    exact ⟨doc, stored, own⟩
  · rintro ⟨doc, stored, own⟩
    exact ⟨((col', id), doc), ⟨stored, by simp [own]⟩, rfl⟩

/-- Sessions and tokens go, but for those whose deletion fails without effect. -/
private theorem run_revoke_all (account_id : String) (db : Db) :
    Erased (fun key => Held db account_id key ∧ faults key ≠ some false) db
      (Prog.run (failing faults) (revoke_all account_id) db).2 := by
  have first := run_revoke_by_account faults .sessions account_id db
  have second := run_revoke_by_account faults .accessTokens account_id
    (Prog.run (failing faults) (revoke_by_account .sessions account_id) db).2
  have third := run_revoke_by_account faults .refreshTokens account_id (Prog.run (failing faults)
    (revoke_by_account .accessTokens account_id) (Prog.run (failing faults) (revoke_by_account .sessions account_id) db).2).2
  have ends : (Prog.run (failing faults) (revoke_all account_id) db).2 = (Prog.run (failing faults)
      (revoke_by_account .refreshTokens account_id) (Prog.run (failing faults) (revoke_by_account .accessTokens account_id)
        (Prog.run (failing faults) (revoke_by_account .sessions account_id) db).2).2).2 := by
    unfold revoke_all
    rw [Prog.run_bind, Prog.run_bind, run_bind_state]
    intro counted
    cases counted <;> exact ⟨_, rfl⟩
  rw [ends]
  refine ((first.trans second).trans third).congr fun key => ?_
  -- What one collection loses is not in the others.
  have later : key.1 = .accessTokens → (Prog.run (failing faults) (revoke_by_account .sessions account_id) db).2.docs.get key =
      db.docs.get key := by
    intro here
    refine first.kept key (fun gone => ?_) (by simp [here])
    rw [gone.1.1] at here
    cases here
  have last : key.1 = .refreshTokens → (Prog.run (failing faults) (revoke_by_account .accessTokens account_id)
      (Prog.run (failing faults) (revoke_by_account .sessions account_id) db).2).2.docs.get key = db.docs.get key := by
    intro here
    refine (first.trans second).kept key ?_ (by simp [here])
    rintro (gone | gone) <;> rw [gone.1.1] at here <;> cases here
  simp only [Held, List.mem_cons, List.not_mem_nil, or_false]
  constructor
  · rintro ((⟨⟨here, own⟩, effect⟩ | ⟨⟨here, own⟩, effect⟩) | ⟨⟨here, own⟩, effect⟩)
    · exact ⟨⟨.inl here, own⟩, effect⟩
    · rw [later here] at own
      exact ⟨⟨.inr (.inl here), own⟩, effect⟩
    · rw [last here] at own
      exact ⟨⟨.inr (.inr here), own⟩, effect⟩
  · rintro ⟨⟨here | here | here, own⟩, effect⟩
    · exact .inl (.inl ⟨⟨here, own⟩, effect⟩)
    · rw [← later here] at own
      exact .inl (.inr ⟨⟨here, own⟩, effect⟩)
    · rw [← last here] at own
      exact .inr ⟨⟨here, own⟩, effect⟩

/-- All of them are deleted. -/
private theorem run_delete_all {keys : List (Col × String)} (works : ∀ key ∈ keys, faults key = none) (db : Db) :
    (Prog.run (failing faults) (delete_all keys) db).1 = .ok () ∧
      Erased (· ∈ keys) db (Prog.run (failing faults) (delete_all keys) db).2 := by
  induction keys generalizing db with
  | nil => exact ⟨rfl, fun key here _ => by simp at here, fun key _ _ => rfl⟩
  | cons key rest ih =>
    obtain ⟨col, id⟩ := key
    have here := works _ List.mem_cons_self
    have answer : (failing faults (.delete_doc col id) db).1 = .ok () := by rw [failing_delete, here]
    obtain ⟨done, erased⟩ := ih (fun key listed => works key (List.mem_cons_of_mem _ listed))
      (failing faults (.delete_doc col id) db).2
    have ran : Prog.run (failing faults) (delete_all ((col, id) :: rest)) db =
        Prog.run (failing faults) (delete_all rest) (failing faults (.delete_doc col id) db).2 := by
      simp only [delete_all, Firestore.fs, Prog.call_bind, Prog.ret_bind, Prog.run_call]
      rw [answer]
    rw [ran]
    refine ⟨done, ((erased_delete faults col id db).trans erased).congr fun key => ?_⟩
    rw [List.mem_cons]
    refine or_congr (and_iff_left_of_imp ?_) Iff.rfl
    rintro rfl
    simp [here]

/-- Deleting stops at the first failure. -/
private theorem run_delete_all_fails {before : List (Col × String)} {key : Col × String} {applied : Bool}
    (after : List (Col × String)) (works : ∀ k ∈ before, faults k = none) (fails : faults key = some applied) (db : Db) :
    (∃ e, (Prog.run (failing faults) (delete_all (before ++ key :: after)) db).1 = .error e) ∧
      Erased (fun k => k ∈ before ∨ k = key ∧ applied = true) db
        (Prog.run (failing faults) (delete_all (before ++ key :: after)) db).2 := by
  induction before generalizing db with
  | nil =>
    obtain ⟨col, id⟩ := key
    have answer : (failing faults (.delete_doc col id) db).1 = .error "delete_doc" := by rw [failing_delete, fails]
    have ran : Prog.run (failing faults) (delete_all ((col, id) :: after)) db =
        (.error "delete_doc", (failing faults (.delete_doc col id) db).2) := by
      simp only [delete_all, Firestore.fs, Prog.call_bind, Prog.ret_bind, Prog.run_call]
      rw [answer]
      rfl
    rw [List.nil_append, ran]
    refine ⟨⟨_, rfl⟩, (erased_delete faults col id db).congr fun k => ?_⟩
    have effect : k = (col, id) → (faults k ≠ some false ↔ applied = true) := by
      rintro rfl
      rw [fails]
      cases applied <;> simp
    simpa using and_congr_right effect
  | cons k before ih =>
    obtain ⟨col, id⟩ := k
    have here := works _ List.mem_cons_self
    have answer : (failing faults (.delete_doc col id) db).1 = .ok () := by rw [failing_delete, here]
    obtain ⟨failed, erased⟩ := ih (fun k listed => works k (List.mem_cons_of_mem _ listed))
      (failing faults (.delete_doc col id) db).2
    have ran : Prog.run (failing faults) (delete_all ((col, id) :: before ++ key :: after)) db =
        Prog.run (failing faults) (delete_all (before ++ key :: after)) (failing faults (.delete_doc col id) db).2 := by
      simp only [List.cons_append, delete_all, Firestore.fs, Prog.call_bind, Prog.ret_bind, Prog.run_call]
      rw [answer]
    rw [ran]
    refine ⟨failed, ((erased_delete faults col id db).trans erased).congr fun k => ?_⟩
    rw [List.mem_cons, or_assoc]
    refine or_congr (and_iff_left_of_imp ?_) Iff.rfl
    rintro rfl
    simp [here]

end runs

/-! ### Attempts -/

section attempts
variable {p : Console} {jwks : String → String → Option JwkPub} {db : Db} {account_id email viewer : String}

/-- The deletion of a frozen account whose documents can be deleted. -/
private theorem run_delete_account (faults : Faults) {cred : registration.Credential} (stored : credential db email = some cred)
    (own : cred.account_id = account_id) (disabled : cred.disabled = true)
    (works : ∀ key ∈ documents account_id email, faults key = none) (uuid : Draw → String) (actor : String) :
    Erased (fun key => (Held db account_id key ∧ faults key ≠ some false) ∨ key ∈ documents account_id email) db
      (Prog.run (failing faults) (delete_account uuid actor email) db).2 := by
  subst own
  have revoked := run_revoke_all faults cred.account_id db
  obtain ⟨done, deleted⟩ := run_delete_all faults works (Prog.run (failing faults) (revoke_all cred.account_id) db).2
  have read : Prog.run (failing faults) (get_credential email) db = (.ok (credential db email), db) := rfl
  unfold delete_account
  rw [Prog.run_bind, read, stored]
  dsimp only
  rw [disabled, Bool.not_true, if_neg (by simp), Prog.run_bind, Prog.run_bind]
  unfold documents at done deleted
  rw [done]
  dsimp only
  rw [Prog.run_bind, Prog.pure_eq, Prog.run_ret]
  have logged := run_record faults (uuid .audit_log) actor "delete_account" cred.account_id
    ((Prog.run (failing faults) (revoke_all cred.account_id) db).1.detail email)
    (Prog.run (failing faults) (delete_all (documents cred.account_id email))
      (Prog.run (failing faults) (revoke_all cred.account_id) db).2).2
  exact ((revoked.trans deleted).trans logged).congr fun key => by rw [or_false, documents]

/-- It stops at the first document that cannot be deleted. -/
private theorem run_delete_account_fails (faults : Faults) {cred : registration.Credential}
    (stored : credential db email = some cred) (own : cred.account_id = account_id) (disabled : cred.disabled = true)
    {before after : List (Col × String)} {key : Col × String} {applied : Bool}
    (split_ : documents account_id email = before ++ key :: after) (works : ∀ k ∈ before, faults k = none)
    (fails : faults key = some applied) (uuid : Draw → String) (actor : String) :
    Erased (fun k => (Held db account_id k ∧ faults k ≠ some false) ∨ k ∈ before ∨ k = key ∧ applied = true) db
      (Prog.run (failing faults) (delete_account uuid actor email) db).2 := by
  subst own
  have revoked := run_revoke_all faults cred.account_id db
  obtain ⟨⟨e, failed⟩, deleted⟩ := run_delete_all_fails faults after works fails
    (Prog.run (failing faults) (revoke_all cred.account_id) db).2
  have read : Prog.run (failing faults) (get_credential email) db = (.ok (credential db email), db) := rfl
  rw [← split_] at failed deleted
  unfold delete_account
  rw [Prog.run_bind, read, stored]
  dsimp only
  rw [disabled, Bool.not_true, if_neg (by simp), Prog.run_bind, Prog.run_bind]
  unfold documents at failed deleted
  rw [failed]
  exact revoked.trans deleted

variable {b : admin.Browser} {uuid : Draw → String}

/-- The page for whoever is signed in, though deletions fail. -/
private theorem run_user_delete (faults : Faults) (who : signed p jwks db b = some viewer) :
    Prog.run (failing faults) ((admin.user_delete p uuid b account_id).lower (production jwks)) db =
      Prog.run (failing faults) (admin.user_delete_as p uuid b account_id viewer) db := by
  have entered := Checks.toOption_eq_some.mp who
  have reads := run_reads faults (require_admin_uses (fun _ => id) jwks p b) db
  rw [admin.user_delete, admin.as_admin, Prog.lower_bind, Prog.run_bind, reads, entered]
  dsimp only
  rw [lower_firestore]

private theorem run_is_admin (faults : Faults) (unlisted : account_id ∉ admin_store.listed p.admins db) :
    Prog.run (failing faults) (admin_store.is_admin p.admins account_id) db = (.ok false, db) := by
  rw [run_reads faults (is_admin_uses (fun _ => id) p.admins account_id) db, admin_store.run_is_admin, decide_eq_false unlisted]

/-- The account that the index leads to is deleted. -/
private theorem run_user_delete_found (faults : Faults) (who : signed p jwks db b = some viewer)
    (unlisted : account_id ∉ admin_store.listed p.admins db) (found : address db account_id = some email) :
    (Prog.run (failing faults) ((admin.user_delete p uuid b account_id).lower (production jwks)) db).2 =
      (Prog.run (failing faults) (delete_account uuid viewer email) db).2 := by
  have lookup : Prog.run (failing faults) (find_email_by_account_id account_id) db = (.ok (address db account_id), db) := rfl
  rw [run_user_delete faults who, admin.user_delete_as, Prog.run_bind, run_is_admin faults unlisted]
  dsimp only
  rw [admin.with_email, Prog.run_bind, lookup, found]
  dsimp only
  rw [run_bind_state]
  intro outcome
  rcases outcome with e | _ | _ | _ <;> exact ⟨_, rfl⟩

/-- Without the index nothing is found. -/
private theorem run_user_delete_unknown (faults : Faults) (who : signed p jwks db b = some viewer)
    (unlisted : account_id ∉ admin_store.listed p.admins db) (unknown : address db account_id = none) :
    Prog.run (failing faults) ((admin.user_delete p uuid b account_id).lower (production jwks)) db =
      (.text 404 "user not found", db) := by
  have lookup : Prog.run (failing faults) (find_email_by_account_id account_id) db = (.ok (address db account_id), db) := rfl
  rw [run_user_delete faults who, admin.user_delete_as, Prog.run_bind, run_is_admin faults unlisted]
  dsimp only
  rw [admin.with_email, Prog.run_bind, lookup, unknown]
  rfl

/-! ### What an attempt leaves -/

variable {gone : Col × String → Prop} {db' : Db}

private theorem Erased.unlisted (erased : Erased gone db db') (kept : ¬ gone admin_store.KEY)
    (unlisted : account_id ∉ admin_store.listed p.admins db) : account_id ∉ admin_store.listed p.admins db' := by
  rwa [admin_store.listed, admin_store.entries, erased.kept _ kept (by simp [admin_store.KEY, admin_store.REGISTRY_COL])]

/-- An account whose documents are kept is still frozen. -/
private theorem Erased.frozen (erased : Erased gone db db') (registry : ¬ gone admin_store.KEY)
    (index : ¬ gone (.accountsByUuid, account_id)) (account : ¬ gone (.accounts, email)) (frozen : Frozen p db account_id email) :
    Frozen p db' account_id email where
  index := by rw [address, erased.kept _ index (by simp), ← address, frozen.index]
  account := by
    rw [credential, erased.kept _ account (by simp)]
    exact frozen.account
  unlisted := erased.unlisted registry frozen.unlisted

private theorem Erased.unknown (erased : Erased gone db db') (index : gone (.accountsByUuid, account_id)) :
    address db' account_id = none := by
  rw [address, erased.erased _ index (by simp)]
  rfl

/-- The account itself is kept, so something is left. -/
private theorem Erased.not_gone (erased : Erased gone db db') (frozen : Frozen p db account_id email)
    (kept : ¬ gone (.accounts, email)) : ¬ Gone db' account_id email := by
  intro left
  obtain ⟨cred, stored, -⟩ := frozen.account
  rw [credential, ← erased.kept _ kept (by simp), left.documents (.accounts, email) (by simp [documents])] at stored
  cases stored

private theorem mem_documents {key : Col × String} (listed : key ∈ documents account_id email) :
    key = (.fcmTokens, account_id) ∨ key = (.profiles, account_id) ∨ key = (.accountsByUuid, account_id) ∨
      key = (.accounts, email) := by
  simpa [documents] using listed

private theorem held_registry : ¬ Held db account_id admin_store.KEY := by
  rintro ⟨listed, -⟩
  simp [admin_store.KEY, admin_store.REGISTRY_COL] at listed

private theorem held_not_document {key : Col × String} (held : Held db account_id key) : key ∉ documents account_id email := by
  intro listed
  have col := held.1
  rcases mem_documents listed with rfl | rfl | rfl | rfl <;> simp at col

private theorem held_not_index {u : String} : ¬ Held db account_id (.accountsByUuid, u) := fun held => by
  have col := held.1
  simp at col

private theorem held_not_account {e : String} : ¬ Held db account_id (.accounts, e) := fun held => by
  have col := held.1
  simp at col

/-- Without failures a frozen account is deleted altogether. -/
private theorem Frozen.finishes (frozen : Frozen p db account_id email) (who : signed p jwks db b = some viewer) :
    Gone (Prog.run exec ((admin.user_delete p uuid b account_id).lower (production jwks)) db).2 account_id email := by
  obtain ⟨cred, stored, own, disabled⟩ := frozen.account
  rw [← failing_none, run_user_delete_found _ who frozen.unlisted frozen.index]
  have erased := run_delete_account (fun _ => none) stored own disabled (fun _ _ => rfl) uuid viewer
  refine ⟨fun key listed => erased.erased key (.inr listed) ?_, fun key held => ?_⟩
  · rcases mem_documents listed with rfl | rfl | rfl | rfl <;> simp
  · obtain ⟨held, kept⟩ := erased.held.mp held
    exact kept (.inl ⟨held, by simp⟩)

variable {key : Col × String} {applied : Bool} {b' : admin.Browser} {uuid' : Draw → String} {viewer' : String}

/-- A session or token whose deletion fails is found by no other attempt. -/
private theorem finishes_held (frozen : Frozen p db account_id email) (who : signed p jwks db b = some viewer)
    (held : Held db account_id key)
    (ran : (Prog.run (failing (only key applied)) ((admin.user_delete p uuid b account_id).lower (production jwks)) db).2 = db')
    (again : signed p jwks db' b' = some viewer') :
    Gone (Prog.run exec ((admin.user_delete p uuid' b' account_id).lower (production jwks)) db').2 account_id email ↔
      applied = true := by
  obtain ⟨cred, stored, own, disabled⟩ := frozen.account
  rw [run_user_delete_found _ who frozen.unlisted frozen.index] at ran
  have works : ∀ k ∈ documents account_id email, only key applied k = none := by
    intro k listed
    refine if_neg ?_
    rintro rfl
    exact held_not_document held listed
  have erased := run_delete_account (only key applied) stored own disabled works uuid viewer
  rw [ran] at erased
  have unlisted := erased.unlisted (fun gone => gone.elim (fun gone => held_registry gone.1)
    fun listed => by simp [documents, admin_store.KEY, admin_store.REGISTRY_COL] at listed) frozen.unlisted
  have unknown : address db' account_id = none := erased.unknown (.inr (by simp [documents]))
  rw [← failing_none, run_user_delete_unknown _ again unlisted unknown]
  constructor
  · intro gone
    by_contra failed
    refine gone.held key (erased.held.mpr ⟨held, ?_⟩)
    rintro (⟨-, effect⟩ | listed)
    · exact effect (by simp [only, failed])
    · exact held_not_document held listed
  · rintro rfl
    refine ⟨fun k listed => erased.erased k (.inr listed) ?_, fun k held' => ?_⟩
    · rcases mem_documents listed with rfl | rfl | rfl | rfl <;> simp
    · obtain ⟨held', kept⟩ := erased.held.mp held'
      refine kept (.inl ⟨held', ?_⟩)
      unfold only
      split <;> simp

/-- What an attempt leaves that stops at a document. -/
private theorem stopped (frozen : Frozen p db account_id email) (who : signed p jwks db b = some viewer)
    (before : List (Col × String)) {after : List (Col × String)} (split_ : documents account_id email = before ++ key :: after) (once : key ∉ before)
    (ran : (Prog.run (failing (only key applied)) ((admin.user_delete p uuid b account_id).lower (production jwks)) db).2 = db') :
    Erased (fun k => Held db account_id k ∨ k ∈ before ∨ k = key ∧ applied = true) db db' := by
  obtain ⟨cred, stored, own, disabled⟩ := frozen.account
  rw [run_user_delete_found _ who frozen.unlisted frozen.index] at ran
  have works : ∀ k ∈ before, only key applied k = none := by
    intro k listed
    refine if_neg ?_
    rintro rfl
    exact once listed
  have erased := run_delete_account_fails (only key applied) stored own disabled split_ works (if_pos rfl) uuid viewer
  rw [ran] at erased
  refine erased.congr fun k => or_congr (and_iff_left_of_imp fun held => ?_) Iff.rfl
  have other : k ≠ key := by
    rintro rfl
    have absent : k ∉ documents account_id email := held_not_document held
    simp [split_] at absent
  simp [only, other]

/-- The account is found again, and the next attempt finishes. -/
private theorem finishes_found (frozen : Frozen p db account_id email)
    {before : List (Col × String)} (index : (.accountsByUuid, account_id) ∉ before) (account : (.accounts, email) ∉ before)
    (registry : admin_store.KEY ∉ before) (listed : key = (.fcmTokens, account_id) ∨ key = (.profiles, account_id) ∨ applied = false)
    (erased : Erased (fun k => Held db account_id k ∨ k ∈ before ∨ k = key ∧ applied = true) db db')
    (again : signed p jwks db' b' = some viewer') :
    Gone (Prog.run exec ((admin.user_delete p uuid' b' account_id).lower (production jwks)) db').2 account_id email := by
  refine (erased.frozen ?_ ?_ ?_ frozen).finishes again
  · rintro (held | gone | ⟨here, effect⟩)
    · exact held_registry held
    · exact registry gone
    · rcases listed with rfl | rfl | rfl <;> simp [admin_store.KEY, admin_store.REGISTRY_COL] at here effect
  · rintro (held | gone | ⟨here, effect⟩)
    · exact held_not_index held
    · exact index gone
    · rcases listed with rfl | rfl | rfl <;> simp at here effect
  · rintro (held | gone | ⟨here, effect⟩)
    · exact held_not_account held
    · exact account gone
    · rcases listed with rfl | rfl | rfl <;> simp at here effect

/-- The index is gone, so that nothing more is deleted. -/
private theorem finishes_unknown (frozen : Frozen p db account_id email)
    {before : List (Col × String)} (registry : admin_store.KEY ∉ key :: before)
    (erased : Erased (fun k => Held db account_id k ∨ k ∈ before ∨ k = key ∧ applied = true) db db')
    (index : (.accountsByUuid, account_id) ∈ before ∨ (.accountsByUuid, account_id) = key ∧ applied = true)
    (again : signed p jwks db' b' = some viewer') :
    (Prog.run exec ((admin.user_delete p uuid' b' account_id).lower (production jwks)) db').2 = db' := by
  have unlisted : account_id ∉ admin_store.listed p.admins db' := erased.unlisted ?_ frozen.unlisted
  · rw [← failing_none, run_user_delete_unknown _ again unlisted (erased.unknown (.inr index))]
  · rintro (held | gone | ⟨here, -⟩)
    · exact held_registry held
    · exact registry (List.mem_cons_of_mem _ gone)
    · exact registry (here ▸ List.mem_cons_self)

end attempts

/-- An administrator deletes a frozen account and one deletion is answered with an
    error; then the request is repeated and nothing fails. The account is gone
    altogether if and only if the deletion had no effect and comes before that of the
    account itself, or had its effect and is not that of the index. -/
theorem deletion_finishes_iff (p : Console) (jwks : String → String → Option JwkPub) {db db' : Db} {account_id email : String}
    (frozen : Frozen p db account_id email) (uuid : Draw → String) {b : admin.Browser} {viewer : String}
    (who : signed p jwks db b = some viewer) {key : Col × String} (deletes : Deletes db account_id email key) (applied : Bool)
    (ran : (Prog.run (failing (only key applied)) ((admin.user_delete p uuid b account_id).lower (production jwks)) db).2 = db')
    (uuid' : Draw → String) {b' : admin.Browser} {viewer' : String} (again : signed p jwks db' b' = some viewer') :
    Gone (Prog.run exec ((admin.user_delete p uuid' b' account_id).lower (production jwks)) db').2 account_id email ↔
      Finishes account_id key applied := by
  rcases deletes with held | listed
  · rw [finishes_held frozen who held ran again]
    have col := held.1
    cases applied with
    | false =>
      simp only [Finishes, Bool.false_eq_true, false_iff, if_false]
      intro listed
      simp only [List.mem_cons, List.not_mem_nil, or_false] at listed
      rcases listed with rfl | rfl | rfl <;> simp at col
    | true =>
      simp only [Finishes, if_true, true_iff]
      rintro rfl
      simp at col
  · rcases mem_documents listed with rfl | rfl | rfl | rfl
    · have erased := stopped frozen who [] rfl (by simp) ran
      refine iff_of_true (finishes_found frozen (by simp) (by simp) (by simp) (.inl rfl) erased again) ?_
      cases applied <;> simp [Finishes]
    · have erased := stopped frozen who [(.fcmTokens, account_id)] rfl (by simp) ran
      refine iff_of_true (finishes_found frozen (by simp) (by simp) (by simp [admin_store.KEY, admin_store.REGISTRY_COL])
        (.inr (.inl rfl)) erased again) ?_
      cases applied <;> simp [Finishes]
    · have erased := stopped frozen who [(.fcmTokens, account_id), (.profiles, account_id)] rfl (by simp) ran
      cases applied with
      | false =>
        refine iff_of_true (finishes_found frozen (by simp) (by simp) (by simp [admin_store.KEY, admin_store.REGISTRY_COL])
          (.inr (.inr rfl)) erased again) (by simp [Finishes])
      | true =>
        rw [finishes_unknown frozen (by simp [admin_store.KEY, admin_store.REGISTRY_COL]) erased (.inr ⟨rfl, rfl⟩) again]
        refine iff_of_false (erased.not_gone frozen ?_) (by simp [Finishes])
        rintro (held | listed | ⟨here, -⟩)
        · exact held_not_account held
        · simp at listed
        · cases here
    · have erased := stopped frozen who [(.fcmTokens, account_id), (.profiles, account_id), (.accountsByUuid, account_id)]
        rfl (by simp) ran
      rw [finishes_unknown frozen (by simp [admin_store.KEY, admin_store.REGISTRY_COL]) erased (.inl (by simp)) again]
      cases applied with
      | false =>
        refine iff_of_false (erased.not_gone frozen ?_) (by simp [Finishes])
        rintro (held | listed | ⟨-, effect⟩)
        · exact held_not_account held
        · simp at listed
        · cases effect
      | true =>
        refine iff_of_true ⟨fun k listed => erased.erased k ?_ ?_, fun k held => ?_⟩ (by simp [Finishes])
        · rcases mem_documents listed with rfl | rfl | rfl | rfl <;> simp
        · rcases mem_documents listed with rfl | rfl | rfl | rfl <;> simp
        · obtain ⟨held, kept⟩ := erased.held.mp held
          exact kept (.inl held)

/-! ### A frozen account -/

/-- An administrator is signed in, and the account of somebody else is frozen. -/
def start : Db :=
  [((Col.accounts, "c@x"), account_fields "c@x" "c" ⟨"pc", "xc", "yc", 0⟩ 50 true),
    ((.accountsByUuid, "c"), .ofEntries [("email", some (.string "c@x"))]),
    ((.profiles, "c"), .ofEntries [("name", some (.string "C"))])].foldl (fun db e => db.write e.1 e.2) LastAdmin.start

def page (i : Nat) : Prog Fs Response :=
  (admin.user_delete Reference.console (Entropy.unary.uuid i) LastAdmin.browser "c").lower (production fun _ _ => none)

/-- An attempt in which one deletion has no effect. -/
def attempt (key : Col × String) : Db := (Prog.run (failing (only key false)) (page 0) start).2

private theorem start_frozen : Frozen Reference.console start "c" "c@x" := by
  refine ⟨?_, ⟨⟨"c", "pc", "xc", "yc", 0, true⟩, ?_, rfl, rfl⟩, ?_⟩ <;> decide +kernel

/-- The profile cannot be deleted at first. -/
theorem deletion_finishes_profile : Gone (Prog.run exec (page 1) (attempt (.profiles, "c"))).2 "c" "c@x" := by
  have who : signed Reference.console (fun _ _ => none) start LastAdmin.browser = some "a" := by decide +kernel
  have again : signed Reference.console (fun _ _ => none) (attempt (.profiles, "c")) LastAdmin.browser = some "a" := by
    decide +kernel
  have deletes : Deletes start "c" "c@x" (.profiles, "c") := .inr (by simp [documents])
  exact (deletion_finishes_iff Reference.console (fun _ _ => none) start_frozen (Entropy.unary.uuid 0) who deletes false rfl
    (Entropy.unary.uuid 1) again).mpr (by simp [Finishes])

/-- If the account itself cannot be deleted, it stays: neither deleting it again nor
    thawing it finds it any more. -/
theorem deletion_stuck : Frozen Reference.console start "c" "c@x" ∧
    signed Reference.console (fun _ _ => none) (attempt (.accounts, "c@x")) LastAdmin.browser = some "a" ∧
    ¬ Gone (Prog.run exec (page 1) (attempt (.accounts, "c@x"))).2 "c" "c@x" ∧
    (credential (Prog.run exec ((admin.user_enable Reference.console (Entropy.unary.uuid 2) LastAdmin.browser "c").lower
      (production fun _ _ => none)) (Prog.run exec (page 1) (attempt (.accounts, "c@x"))).2).2 "c@x").map
        registration.Credential.disabled = some true := by
  refine ⟨start_frozen, by decide +kernel, fun gone => ?_, by decide +kernel⟩
  have kept : ((Prog.run exec (page 1) (attempt (.accounts, "c@x"))).2.docs.get (.accounts, "c@x")).isSome = true := by
    decide +kernel
  rw [gone.documents (.accounts, "c@x") (by simp [documents])] at kept
  cases kept

end RustOp.Web.AccountDeletion
