import RustOp.Web.RegistrarReference
import RustOp.Web.AccountIdentity

/-!
Who is left to use the console. Administrators are listed in one document and
their accounts are kept in others, and each request of the console guards only
one of the two: accounts of administrators may be frozen, and the list may keep
only those that are.
-/
namespace RustOp.Web.LastAdmin
open RustOp.Effects RustOp.Text RustOp.Firestore registration
open AccountIdentity (credential)

/-- The account is listed as an administrator, exists and is not frozen. -/
def Live (p : Console) (db : Db) (account_id email : String) : Prop :=
  account_id ∈ admin_store.listed p.admins db ∧
    ∃ cred, credential db email = some cred ∧ cred.account_id = account_id ∧ cred.disabled = false

/-- Somebody can use the console. -/
def Manned (p : Console) (db : Db) : Prop := ∃ account_id email, Live p db account_id email

/-- The address that the index has for an account. -/
def address (db : Db) (account_id : String) : Option String :=
  ((db.docs.get (.accountsByUuid, account_id)).bind Db.readable).bind fun f => field_str f "email"

/-- The administrator who is signed in. -/
def signed (p : Console) (jwks : String → String → Option JwkPub) (db : Db) (b : admin.Browser) : Option String :=
  (Prog.run exec ((admin.require_admin p b).lower (production jwks)) db).1.toOption

/-- What may be asked of the console, and what relying parties may ask. -/
inductive Request where
  | user_disable (b : admin.Browser) (account_id : String)
  | user_enable (b : admin.Browser) (account_id : String)
  | user_delete (b : admin.Browser) (account_id : String)
  | user_grant_admin (b : admin.Browser) (account_id : String)
  | user_revoke_admin (b : admin.Browser) (account_id : String)
  | account_disable (headers : Headers) (form : Form)

def Request.run (p : Console) (jwks : String → String → Option JwkPub) (uuid : Draw → String) : Request → Prog Fs Response
  | .user_disable b account_id => (admin.user_disable p uuid b account_id).lower (production jwks)
  | .user_enable b account_id => (admin.user_enable p uuid b account_id).lower (production jwks)
  | .user_delete b account_id => (admin.user_delete p uuid b account_id).lower (production jwks)
  | .user_grant_admin b account_id => (admin.user_grant_admin p uuid b account_id).lower (production jwks)
  | .user_revoke_admin b account_id => (admin.user_revoke_admin p uuid b account_id).lower (production jwks)
  | .account_disable headers form => (RustOp.Web.account_disable p uuid headers form).lower (production jwks)

/-- Other traffic leaves the list alone, and accounts as they are but for their passkeys. -/
structure Elsewhere (db db' : Db) : Prop where
  registry : db'.docs.get admin_store.KEY = db.docs.get admin_store.KEY
  accounts : ∀ email cred, credential db email = some cred →
    ∃ cred', credential db' email = some cred' ∧ cred'.account_id = cred.account_id ∧ cred'.disabled = cred.disabled

/-- A request is served to its end, though storage may fail, or other traffic comes between. -/
inductive Step (p : Console) (jwks : String → String → Option JwkPub) : Db → Option Request → Db → Prop
  | serve (request : Request) (uuid : Draw → String) {db db' : Db} {r : Response}
      (ran : Runs sem (request.run p jwks uuid) db r db') : Step p jwks db (some request) db'
  | pass {db db' : Db} (changes : Elsewhere db db') : Step p jwks db none db'

/-- What the guards do not see: freezing another account leaves somebody whose
    address is not the frozen one, and if the list has more than one entry, taking
    one away leaves somebody else. -/
def Request.Spares (p : Console) (jwks : String → String → Option JwkPub) (db : Db) : Request → Prop
  | .user_disable b account_id => ∀ viewer, signed p jwks db b = some viewer → account_id ≠ viewer →
      ∃ account_id' email, Live p db account_id' email ∧ address db account_id ≠ some email
  | .user_revoke_admin b account_id => ∀ viewer, signed p jwks db b = some viewer →
      1 < (admin_store.entries p.admins db).length → ∃ account_id' email, Live p db account_id' email ∧ account_id' ≠ account_id
  | _ => True

/-! ### What the operations read and change -/

section operations
variable {db db' : Db}

/-- A program that only reads. -/
private theorem runs_of_reads {α : Type} {p : Prog Fs α} {a : α} (uses : p.Uses fun o : FsOp => o.writes = none)
    (ran : Runs sem p db a db') : db' = db := by
  refine uses.runs (I := fun s => s = db) (fun o s r s' reads same does => ?_) ran rfl
  rw [← same]
  refine sem_read (fun s => ?_) does
  cases o <;> first | rfl | cases reads

private theorem credential_runs {email : String} {r : Except String (Option registration.Credential)}
    (ran : Runs sem (get_credential email) db r db') : db' = db ∧ ∀ found, r = .ok found → found = credential db email := by
  obtain ⟨answer, s, does, rest⟩ := runs_call.mp ran
  obtain ⟨rfl, read⟩ := sem_get_doc does
  obtain ⟨rfl, rfl⟩ := runs_ret.mp rest
  refine ⟨rfl, fun found same => ?_⟩
  cases answer with
  | error e => cases same
  | ok doc =>
    cases same
    rw [read doc rfl]
    rfl

private theorem find_email_runs {account_id : String} {r : Except String (Option String)}
    (ran : Runs sem (find_email_by_account_id account_id) db r db') :
    db' = db ∧ ∀ found, r = .ok found → found = address db account_id := by
  obtain ⟨answer, s, does, rest⟩ := runs_call.mp ran
  obtain ⟨rfl, read⟩ := sem_get_doc does
  obtain ⟨rfl, rfl⟩ := runs_ret.mp rest
  refine ⟨rfl, fun found same => ?_⟩
  cases answer with
  | error e => cases same
  | ok doc =>
    cases same
    rw [read doc rfl]
    rfl

private theorem load_registry_runs {j : admin_store.Codec} {r : Except String (List admin_store.AdminEntry × Option Nat)}
    (ran : Runs sem (admin_store.load_registry j) db r db') :
    db' = db ∧ ∀ es ut, r = .ok (es, ut) → es = admin_store.entries j db := by
  obtain ⟨answer, s, does, rest⟩ := runs_call.mp ran
  obtain ⟨rfl, read⟩ := sem_get_with_time does
  rcases answer with e | found
  · obtain ⟨rfl, rfl⟩ := runs_ret.mp rest
    exact ⟨rfl, fun es ut same => by cases same⟩
  · have stored := read found rfl
    unfold admin_store.entries admin_store.KEY
    cases doc : s.docs.get (admin_store.REGISTRY_COL, admin_store.REGISTRY_ID) with
    | none =>
      rw [doc] at stored
      subst stored
      obtain ⟨rfl, rfl⟩ := runs_ret.mp rest
      exact ⟨rfl, fun es ut same => by cases same; rfl⟩
    | some doc =>
      rw [doc] at stored
      subst stored
      obtain ⟨rfl, rfl⟩ := runs_ret.mp rest
      exact ⟨rfl, fun es ut same => by cases same; rfl⟩

private theorem is_admin_runs {j : admin_store.Codec} {account_id : String} {r : Except String Bool}
    (ran : Runs sem (admin_store.is_admin j account_id) db r db') :
    db' = db ∧ ∀ found, r = .ok found → (found = true ↔ account_id ∈ admin_store.listed j db) := by
  obtain ⟨loaded, s, load, rest⟩ := runs_bind.mp ran
  obtain ⟨rfl, read⟩ := load_registry_runs load
  rcases loaded with e | ⟨es, ut⟩
  · obtain ⟨rfl, rfl⟩ := runs_ret.mp rest
    exact ⟨rfl, fun found same => by cases same⟩
  · obtain ⟨rfl, rfl⟩ := runs_ret.mp rest
    refine ⟨rfl, fun found same => ?_⟩
    cases same
    rw [read es ut rfl, admin_store.listed, List.any_eq_true, List.mem_map]
    simp

private theorem get_unexpired_runs {col : Col} {id : String} {r : Option Fields}
    (ran : Runs sem (FirestoreStore.get_unexpired col id) db r db') {f : Fields} (found : r = some f) :
    (Prog.run exec (FirestoreStore.get_unexpired col id) db).1 = some f := by
  obtain ⟨answer, s, does, rest⟩ := runs_call.mp ran
  obtain ⟨rfl, read⟩ := sem_get_doc does
  subst found
  rcases answer with e | _ | f'
  · cases (runs_ret.mp rest).1
  · cases (runs_ret.mp rest).1
  · obtain ⟨t, s', clock, rest⟩ := runs_call.mp rest
    obtain ⟨rfl, rfl⟩ := sem_now clock
    have stored := read _ rfl
    dsimp only [Prog.bind, Prog.pure_eq] at rest
    by_cases late : expired_at f' s'.clock = true
    · rw [if_pos late] at rest
      cases (runs_ret.mp rest).1
    · rw [if_neg late] at rest
      cases (runs_ret.mp rest).1
      simp [FirestoreStore.get_unexpired, doc_expired, exec, ← stored, late]

variable {p : Console} {jwks : String → String → Option JwkPub}

private theorem session_account_runs {sid : Option String} {r : Option String}
    (ran : Runs sem ((session_account sid).lower (production jwks)) db r db') {account_id : String} (found : r = some account_id) :
    (Prog.run exec ((session_account sid).lower (production jwks)) db).1 = some account_id := by
  cases sid with
  | none =>
    rw [found] at ran
    cases (runs_ret.mp ran).1
  | some sid =>
    have program : (session_account (some sid)).lower (production jwks) =
        FirestoreStore.get_unexpired .sessions sid >>= fun f => .ret ((f.map (Session.from_fields sid)).map Session.account_id) := by
      simp [session_account, store, production, Firestore.production, FirestoreStore.run, FirestoreStore.get_session]
    rw [program] at ran ⊢
    obtain ⟨f, s, first, rest⟩ := runs_bind.mp ran
    have same := (runs_ret.mp rest).1
    rw [found] at same
    cases f with
    | none => cases same
    | some f => rw [Prog.run_bind, get_unexpired_runs first rfl, Prog.run_ret, same]

/-- Whoever is let into the console is signed in. -/
private theorem require_admin_runs {b : admin.Browser} {r : Except Response String}
    (ran : Runs sem ((admin.require_admin p b).lower (production jwks)) db r db') :
    db' = db ∧ ∀ viewer, r = .ok viewer → signed p jwks db b = some viewer := by
  refine ⟨runs_of_reads (require_admin_uses (fun _ => id) jwks p b) ran, fun viewer entered => ?_⟩
  subst entered
  unfold signed admin.require_admin at *
  rw [Prog.lower_bind] at ran ⊢
  obtain ⟨account, s, first, rest⟩ := runs_bind.mp ran
  obtain rfl := runs_of_reads (session_account_uses (fun _ => id) jwks b.sid) first
  have same := Firestore.run_of_reads (session_account_uses (fun _ => id) jwks b.sid) s
  cases account with
  | none => cases (runs_ret.mp rest).1
  | some account =>
    rw [Prog.run_bind, session_account_runs first rfl, same]
    dsimp only at rest ⊢
    split at rest
    · cases (runs_ret.mp rest).1
    · rename_i available
      rw [if_neg available]
      rw [Prog.lower_bind, lower_firestore] at rest ⊢
      obtain ⟨listed, s', check, rest⟩ := runs_bind.mp rest
      obtain ⟨rfl, read⟩ := is_admin_runs check
      rcases listed with e | _ | _
      · cases (runs_ret.mp rest).1
      · cases (runs_ret.mp rest).1
      · cases (runs_ret.mp rest).1
        have here := (read true rfl).mp rfl
        rw [Prog.run_bind, admin_store.run_is_admin, decide_eq_true here]
        rfl

/-- A page is shown to whoever is signed in, and nothing happens otherwise. -/
private theorem as_admin_runs {b : admin.Browser} {page : String → Prog Fs Response} {r : Response}
    (ran : Runs sem ((admin.as_admin p b page).lower (production jwks)) db r db') :
    db' = db ∨ ∃ viewer, signed p jwks db b = some viewer ∧ Runs sem (page viewer) db r db' := by
  unfold admin.as_admin at ran
  rw [Prog.lower_bind] at ran
  obtain ⟨entered, s, first, rest⟩ := runs_bind.mp ran
  obtain ⟨rfl, who⟩ := require_admin_runs first
  cases entered with
  | error refused => exact .inl (runs_ret.mp rest).2
  | ok viewer =>
    dsimp only at rest
    rw [lower_firestore] at rest
    exact .inr ⟨viewer, who viewer rfl, rest⟩

private theorem with_email_runs {account_id : String} {page : String → Prog Fs Response} {r : Response}
    (ran : Runs sem (admin.with_email account_id page) db r db') :
    db' = db ∨ ∃ email, address db account_id = some email ∧ Runs sem (page email) db r db' := by
  unfold admin.with_email at ran
  obtain ⟨found, s, first, rest⟩ := runs_bind.mp ran
  obtain ⟨rfl, read⟩ := find_email_runs first
  rcases found with e | _ | email
  · exact .inl (runs_ret.mp rest).2
  · exact .inl (runs_ret.mp rest).2
  · exact .inr ⟨email, (read _ rfl).symm, rest⟩

end operations

/-! ### What the requests leave -/

/-- Neither the list nor the account of an address is written. -/
def Quiet (email : String) (o : FsOp) : Prop := o.writes ≠ some admin_store.KEY ∧ o.writes ≠ some (.accounts, email)

private theorem quiet_elsewhere {email : String} {o : FsOp} {key : Col × String} (writes : o.writes = some key)
    (list : key.1 ≠ .admins) (accounts : key.1 ≠ .accounts) : Quiet email o := by
  constructor
  · rw [writes]
    rintro ⟨⟩
    exact list rfl
  · rw [writes]
    rintro ⟨⟩
    exact accounts rfl

private theorem quiet_reads (email : String) (o : FsOp) (none : o.writes = none) : Quiet email o := by
  simp [Quiet, none]

private theorem quiet_log (email id : String) (f : Fields) : Quiet email (.create_if_absent .auditLog id f) :=
  quiet_elsewhere rfl (by simp) (by simp)

private theorem quiet_account {email other : String} {o : FsOp} (writes : o.writes = some (.accounts, other))
    (different : other ≠ email) : Quiet email o := by
  constructor
  · rw [writes]
    simp [admin_store.KEY, admin_store.REGISTRY_COL]
  · rw [writes]
    simpa using different

section requests
variable {p : Console} {jwks : String → String → Option JwkPub} {uuid : Draw → String} {db db' : Db} {account_id email : String}

private theorem Live.frame (live : Live p db account_id email)
    (registry : db'.docs.get admin_store.KEY = db.docs.get admin_store.KEY)
    (account : db'.docs.get (.accounts, email) = db.docs.get (.accounts, email)) : Live p db' account_id email := by
  obtain ⟨listed, cred, stored, rest⟩ := live
  refine ⟨?_, cred, ?_, rest⟩
  · rwa [admin_store.listed, admin_store.entries, registry]
  · rwa [credential, account]

private theorem Live.runs {α : Type} {q : Prog Fs α} {a : α} (live : Live p db account_id email) (uses : q.Uses (Quiet email))
    (ran : Runs sem q db a db') : Live p db' account_id email := by
  refine uses.runs (I := fun s => Live p s account_id email) (fun o s r s' quiet live does => ?_) ran live
  exact live.frame (sem_frame quiet.1 does) (sem_frame quiet.2 does)

private theorem disable_account_quiet {other : String} (different : other ≠ email) (actor : String) :
    (account_admin.disable_account uuid actor other).Uses (Quiet email) := by
  refine account_admin.disable_account_uses (quiet_reads email) (quiet_log email) (quiet_account rfl different) ?_ uuid actor
  intro col id listed
  refine quiet_elsewhere rfl ?_ ?_ <;> rintro rfl <;> simp at listed

private theorem user_disable_live {b : admin.Browser} {target viewer : String} {r : Response} (live : Live p db account_id email)
    (other : address db target ≠ some email) (ran : Runs sem (admin.user_disable_as p uuid b target viewer) db r db') :
    Live p db' account_id email := by
  unfold admin.user_disable_as at ran
  split at ran
  · rw [(runs_ret.mp ran).2]
    exact live
  · obtain rfl | ⟨found, leads, rest⟩ := with_email_runs ran
    · exact live
    · refine live.runs ((disable_account_quiet ?_ viewer).bind fun outcome => ?_) rest
      · rintro rfl
        exact other leads
      · cases outcome <;> trivial

/-- Thawing an account leaves one that is not frozen as it is. -/
private theorem user_enable_live {target viewer : String} {r : Response} (live : Live p db account_id email)
    (ran : Runs sem (admin.user_enable_as p uuid target viewer) db r db') : Live p db' account_id email := by
  obtain rfl | ⟨found, leads, rest⟩ := with_email_runs ran
  · exact live
  · by_cases same : found = email
    · subst same
      obtain ⟨listed, cred, stored, own, thawed⟩ := live
      obtain ⟨outcome, s, first, rest⟩ := runs_bind.mp rest
      have unwritten : Live p s account_id found := by
        obtain ⟨read, s, first, then_⟩ := runs_bind.mp first
        obtain ⟨rfl, known⟩ := credential_runs first
        have live : Live p s account_id found := ⟨listed, cred, stored, own, thawed⟩
        rcases read with e | _ | cred'
        · rwa [(runs_ret.mp then_).2]
        · rwa [(runs_ret.mp then_).2]
        · have same : cred' = cred := by simpa [stored] using known _ rfl
          subst same
          have kept : account_admin.flag_account found cred' false = .ret (.ok ()) := if_pos thawed
          dsimp only at then_
          rw [kept, Prog.ret_bind] at then_
          dsimp only at then_
          obtain ⟨logged, s'', logs, then_⟩ := runs_bind.mp then_
          rw [(runs_ret.mp then_).2]
          exact live.runs (account_admin.record_uses (quiet_reads found) (quiet_log found _) ..) logs
      cases outcome <;> rwa [(runs_ret.mp rest).2]
    · refine live.runs ((account_admin.enable_account_uses (quiet_reads email) (quiet_log email) (quiet_account rfl same) uuid
        viewer).bind fun outcome => ?_) rest
      cases outcome <;> trivial

/-- Only frozen accounts are deleted. -/
private theorem user_delete_live {b : admin.Browser} {target viewer : String} {r : Response} (live : Live p db account_id email)
    (ran : Runs sem (admin.user_delete_as p uuid b target viewer) db r db') : Live p db' account_id email := by
  unfold admin.user_delete_as at ran
  obtain ⟨found, s, first, rest⟩ := runs_bind.mp ran
  obtain ⟨rfl, -⟩ := is_admin_runs first
  rcases found with e | _ | _
  · rwa [(runs_ret.mp rest).2]
  · obtain rfl | ⟨found, leads, rest⟩ := with_email_runs rest
    · exact live
    · by_cases same : found = email
      · subst same
        obtain ⟨listed, cred, stored, own, thawed⟩ := live
        obtain ⟨outcome, s', first, rest⟩ := runs_bind.mp rest
        have unwritten : Live p s' account_id found := by
          obtain ⟨read, s', first, then_⟩ := runs_bind.mp first
          obtain ⟨rfl, known⟩ := credential_runs first
          have live : Live p s' account_id found := ⟨listed, cred, stored, own, thawed⟩
          rcases read with e | _ | cred'
          · rwa [(runs_ret.mp then_).2]
          · rwa [(runs_ret.mp then_).2]
          · have same : cred' = cred := by simpa [stored] using known _ rfl
            subst same
            simp only [thawed, Bool.not_false, if_true] at then_
            rwa [(runs_ret.mp then_).2]
        rcases outcome with e | _ | _ | _ <;> rwa [(runs_ret.mp rest).2]
      · refine live.runs ((account_admin.delete_account_uses (quiet_reads email) (quiet_log email) (quiet_account rfl same) ?_ uuid
          viewer).bind fun outcome => ?_) rest
        · intro col id listed
          refine quiet_elsewhere rfl ?_ ?_ <;> rintro rfl <;> simp at listed
        · rcases outcome with e | _ | _ | _ <;> trivial
  · rwa [(runs_ret.mp rest).2]

private theorem Live.write (trips : p.admins.RoundTrips) {es : List admin_store.AdminEntry} (live : Live p db account_id email)
    (kept : account_id ∈ es.map admin_store.AdminEntry.account_id) :
    Live p (db.write admin_store.KEY (admin_store.entries_field p.admins es)) account_id email := by
  obtain ⟨-, cred, stored, rest⟩ := live
  refine ⟨?_, cred, ?_, rest⟩
  · rwa [admin_store.listed, admin_store.entries_write trips]
  · rwa [credential, get_write, if_neg (by simp [admin_store.KEY, admin_store.REGISTRY_COL])]

/-- A grant adds to the list. -/
private theorem grant_admin_live (trips : p.admins.RoundTrips) {target viewer : String}
    {r : Except String admin_store.GrantAdminResult} (live : Live p db account_id email)
    (ran : Runs sem (admin_store.grant_admin p.admins target viewer) db r db') : Live p db' account_id email := by
  obtain ⟨loaded, s, first, rest⟩ := runs_bind.mp ran
  obtain ⟨rfl, read⟩ := load_registry_runs first
  rcases loaded with e | ⟨es, ut⟩
  · rwa [(runs_ret.mp rest).2]
  · obtain rfl := read es ut rfl
    have kept : ∀ entry, account_id ∈ (admin_store.entries p.admins s ++ [entry]).map admin_store.AdminEntry.account_id := by
      intro entry
      rw [List.map_append]
      exact List.mem_append_left _ live.1
    dsimp only at rest
    split at rest
    · rwa [(runs_ret.mp rest).2]
    · obtain ⟨t, s', clock, rest⟩ := runs_call.mp rest
      obtain ⟨rfl, rfl⟩ := sem_now clock
      dsimp only [Prog.bind] at rest
      cases ut with
      | none =>
        obtain ⟨answer, s'', does, rest⟩ := runs_call.mp rest
        have written : Live p s'' account_id email := by
          obtain ⟨rfl, -⟩ | ⟨-, rfl, -⟩ := sem_create_if_absent does
          · exact live
          · exact live.write trips (kept _)
        cases answer <;> rwa [(runs_ret.mp rest).2]
      | some ut =>
        obtain ⟨answer, s'', does, rest⟩ := runs_call.mp rest
        have written : Live p s'' account_id email := by
          obtain ⟨rfl, -⟩ | ⟨-, rfl, -⟩ := sem_set_if_unchanged does
          · exact live
          · exact live.write trips (kept _)
        cases answer <;> rwa [(runs_ret.mp rest).2]

/-- A revocation takes one name off the list, and only a list with several has one taken off. -/
private theorem revoke_admin_live (trips : p.admins.RoundTrips) {target : String} {r : Except String admin_store.RevokeAdminResult}
    (live : Live p db account_id email) (other : 1 < (admin_store.entries p.admins db).length → account_id ≠ target)
    (ran : Runs sem (admin_store.revoke_admin p.admins target) db r db') : Live p db' account_id email := by
  obtain ⟨loaded, s, first, rest⟩ := runs_bind.mp ran
  obtain ⟨rfl, read⟩ := load_registry_runs first
  rcases loaded with e | ⟨es, ut⟩
  · rwa [(runs_ret.mp rest).2]
  · obtain rfl := read es ut rfl
    dsimp only at rest
    split at rest
    · rename_i decided
      have several := (admin_store.decide_revoke_revoked decided).2
      cases ut with
      | none => rwa [(runs_ret.mp rest).2]
      | some ut =>
        obtain ⟨answer, s', does, rest⟩ := runs_call.mp rest
        have written : Live p s' account_id email := by
          obtain ⟨rfl, -⟩ | ⟨-, rfl, -⟩ := sem_set_if_unchanged does
          · exact live
          · refine live.write trips ?_
            obtain ⟨entry, stored, own⟩ := List.mem_map.mp live.1
            refine List.mem_map.mpr ⟨entry, List.mem_filter.mpr ⟨stored, ?_⟩, own⟩
            simpa [own] using other several
        cases answer <;> rwa [(runs_ret.mp rest).2]
    · rwa [(runs_ret.mp rest).2]

private theorem user_grant_admin_live (trips : p.admins.RoundTrips) {b : admin.Browser} {target viewer : String} {r : Response}
    (live : Live p db account_id email) (ran : Runs sem (admin.user_grant_admin_as p uuid b target viewer) db r db') :
    Live p db' account_id email := by
  obtain ⟨outcome, s, first, rest⟩ := runs_bind.mp ran
  have live := grant_admin_live trips live first
  rcases outcome with e | _ | _ | _
  · rwa [(runs_ret.mp rest).2]
  · obtain ⟨logged, s', logs, rest⟩ := runs_bind.mp rest
    rw [(runs_ret.mp rest).2]
    exact live.runs (account_admin.record_uses (quiet_reads email) (quiet_log email _) ..) logs
  · rwa [(runs_ret.mp rest).2]
  · rwa [(runs_ret.mp rest).2]

private theorem user_revoke_admin_live (trips : p.admins.RoundTrips) {b : admin.Browser} {target viewer : String} {r : Response}
    (live : Live p db account_id email) (other : 1 < (admin_store.entries p.admins db).length → account_id ≠ target)
    (ran : Runs sem (admin.user_revoke_admin_as p uuid b target viewer) db r db') : Live p db' account_id email := by
  obtain ⟨outcome, s, first, rest⟩ := runs_bind.mp ran
  have live := revoke_admin_live trips live other first
  rcases outcome with e | _ | _ | _ | _
  · rwa [(runs_ret.mp rest).2]
  · obtain ⟨logged, s', logs, rest⟩ := runs_bind.mp rest
    have live := live.runs (account_admin.record_uses (quiet_reads email) (quiet_log email _) ..) logs
    split at rest <;> rwa [(runs_ret.mp rest).2]
  · rwa [(runs_ret.mp rest).2]
  · rwa [(runs_ret.mp rest).2]
  · rwa [(runs_ret.mp rest).2]

private theorem refuse_admin_runs {r : Option Response} (ran : Runs sem (refuse_admin p email) db r db') :
    db' = db ∧ (r = none → ∀ cred, credential db email = some cred → cred.account_id ∉ admin_store.listed p.admins db) := by
  obtain ⟨read, s, first, rest⟩ := runs_bind.mp ran
  obtain ⟨rfl, known⟩ := credential_runs first
  rcases read with e | _ | cred
  · obtain ⟨rfl, rfl⟩ := runs_ret.mp rest
    exact ⟨rfl, fun same => by cases same⟩
  · obtain ⟨rfl, rfl⟩ := runs_ret.mp rest
    refine ⟨rfl, fun _ cred stored => ?_⟩
    rw [← known none rfl] at stored
    cases stored
  · obtain ⟨found, s', check, rest⟩ := runs_bind.mp rest
    obtain ⟨rfl, protected_⟩ := is_admin_runs check
    rcases found with e | _ | _
    · obtain ⟨rfl, rfl⟩ := runs_ret.mp rest
      exact ⟨rfl, fun same => by cases same⟩
    · obtain ⟨rfl, rfl⟩ := runs_ret.mp rest
      refine ⟨rfl, fun _ cred' stored listed => ?_⟩
      rw [← known _ rfl] at stored
      cases stored
      cases (protected_ false rfl).mpr listed
    · obtain ⟨rfl, rfl⟩ := runs_ret.mp rest
      exact ⟨rfl, fun same => by cases same⟩

private theorem authorize_quiet (headers : Headers) (form : Form) :
    ((authorize_invite_client p headers form).lower (production jwks)).Uses (Quiet email) := by
  have each : (authorize_invite_client p headers form).Uses fun o => (production jwks o).Uses (Quiet email) := by
    refine (authenticate_client_uses ?_ ?_ ?_ ?_ p.toServer headers form).bind fun r => ?_
    · exact fun col id => ⟨quiet_reads email _ rfl, fun _ => trivial⟩
    · exact fun uri kid => trivial
    · exact ⟨quiet_reads email _ rfl, fun _ => trivial⟩
    · refine fun key ttl => ⟨quiet_reads email _ rfl, fun t => ⟨quiet_elsewhere rfl (by simp) (by simp), fun r => ?_⟩⟩
      cases r <;> trivial
    · cases r with
      | error e => trivial
      | ok client =>
        dsimp only
        split
        · trivial
        · split <;> trivial
  exact each.lower fun o uses => uses

/-- Relying parties do not freeze administrators. -/
private theorem account_disable_live {headers : Headers} {form : Form} {r : Response} (live : Live p db account_id email)
    (ran : Runs sem ((account_disable p uuid headers form).lower (production jwks)) db r db') : Live p db' account_id email := by
  unfold account_disable at ran
  split at ran
  · rwa [(runs_ret.mp ran).2]
  · rw [Prog.lower_bind] at ran
    obtain ⟨authorized, s, first, rest⟩ := runs_bind.mp ran
    have live := live.runs (authorize_quiet headers form) first
    cases authorized with
    | error refused => rwa [(runs_ret.mp rest).2]
    | ok who =>
      obtain ⟨client, target⟩ := who
      dsimp only at rest
      rw [lower_firestore] at rest
      obtain ⟨refused, s', first, rest⟩ := runs_bind.mp rest
      obtain ⟨rfl, spared⟩ := refuse_admin_runs first
      cases refused with
      | some refused => rwa [(runs_ret.mp rest).2]
      | none =>
        refine live.runs ((disable_account_quiet ?_ _).bind fun outcome => ?_) rest
        · rintro rfl
          obtain ⟨listed, cred, stored, own, -⟩ := live
          exact spared rfl cred stored (own ▸ listed)
        · rcases outcome with e | _ | _ | _ <;> trivial

private theorem Live.elsewhere (live : Live p db account_id email) (changes : Elsewhere db db') :
    Live p db' account_id email := by
  obtain ⟨listed, cred, stored, own, thawed⟩ := live
  obtain ⟨cred', stored', same, flag⟩ := changes.accounts email cred stored
  refine ⟨?_, cred', stored', same.trans own, flag.trans thawed⟩
  rwa [admin_store.listed, admin_store.entries, changes.registry]

/-- A step that spares somebody leaves the console manned. -/
private theorem Step.manned (trips : p.admins.RoundTrips) {label : Option Request} (step : Step p jwks db label db')
    (spares : ∀ request ∈ label, request.Spares p jwks db) (manned : Manned p db) : Manned p db' := by
  obtain ⟨account_id, email, live⟩ := manned
  cases step with
  | pass changes => exact ⟨_, _, live.elsewhere changes⟩
  | serve request uuid ran =>
    have spares := spares request rfl
    cases request with
    | user_disable b target =>
      obtain rfl | ⟨viewer, who, page⟩ := as_admin_runs ran
      · exact ⟨_, _, live⟩
      · by_cases self : target = viewer
        · unfold admin.user_disable_as at page
          rw [if_pos self] at page
          obtain ⟨-, rfl⟩ := runs_ret.mp page
          exact ⟨_, _, live⟩
        · obtain ⟨account_id', email', live, other⟩ := spares viewer who self
          exact ⟨_, _, user_disable_live live other page⟩
    | user_enable b target =>
      obtain rfl | ⟨viewer, -, page⟩ := as_admin_runs ran
      · exact ⟨_, _, live⟩
      · exact ⟨_, _, user_enable_live live page⟩
    | user_delete b target =>
      obtain rfl | ⟨viewer, -, page⟩ := as_admin_runs ran
      · exact ⟨_, _, live⟩
      · exact ⟨_, _, user_delete_live live page⟩
    | user_grant_admin b target =>
      obtain rfl | ⟨viewer, -, page⟩ := as_admin_runs ran
      · exact ⟨_, _, live⟩
      · exact ⟨_, _, user_grant_admin_live trips live page⟩
    | user_revoke_admin b target =>
      obtain rfl | ⟨viewer, who, page⟩ := as_admin_runs ran
      · exact ⟨_, _, live⟩
      · by_cases several : 1 < (admin_store.entries p.admins db).length
        · obtain ⟨account_id', email', live, other⟩ := spares viewer who several
          exact ⟨_, _, user_revoke_admin_live trips live (fun _ => other) page⟩
        · exact ⟨_, _, user_revoke_admin_live trips live (fun several' => absurd several' several) page⟩
    | account_disable headers form => exact ⟨_, _, account_disable_live live ran⟩

end requests

/-! ### Runs -/

/-- A step in which a request to the console spares somebody who can use it. -/
def Sparing (p : Console) (jwks : String → String → Option JwkPub) (db db' : Db) : Prop :=
  ∃ label, Step p jwks db label db' ∧ ∀ request ∈ label, request.Spares p jwks db

/-- Requests of any number of administrators and relying parties, one after the
    other: as long as freezing and revoking spare somebody who can use the console,
    somebody can use it in every state. -/
theorem console_stays_manned (p : Console) (trips : p.admins.RoundTrips) (jwks : String → String → Option JwkPub) {db db' : Db}
    (manned : Manned p db) (steps : Relation.ReflTransGen (Sparing p jwks) db db') : Manned p db' := by
  induction steps with
  | refl => exact manned
  | tail _ step ih =>
    obtain ⟨label, step, spares⟩ := step
    exact step.manned trips spares ih

/-! ### Two administrators -/

/-- Both are listed, and one of them is signed in. -/
def start : Db :=
  [((Col.accounts, "a@x"), account_fields "a@x" "a" ⟨"pa", "xa", "ya", 0⟩ 10 false),
    ((.accounts, "b@x"), account_fields "b@x" "b" ⟨"pb", "xb", "yb", 0⟩ 20 false),
    ((.accountsByUuid, "a"), .ofEntries [("email", some (.string "a@x"))]),
    ((.accountsByUuid, "b"), .ofEntries [("email", some (.string "b@x"))]),
    (admin_store.KEY, admin_store.entries_field admin_store.registry [⟨"a", "cli", 30⟩, ⟨"b", "a", 40⟩]),
    ((.sessions, "s"), Session.to_fields ⟨"s", "a", 900⟩ 2000)].foldl (fun db e => db.write e.1 e.2) { clock := 1000 }

def browser : admin.Browser := ⟨[], some "s"⟩

/-- A request served with nothing in between. -/
def serve (i : Nat) (request : Request) (db : Db) : Db :=
  (Prog.run exec (request.run Reference.console (fun _ _ => none) (Entropy.unary.uuid i)) db).2

private theorem serve_step (i : Nat) (request : Request) (db : Db) :
    Step Reference.console (fun _ _ => none) db (some request) (serve i request db) :=
  .serve request (Entropy.unary.uuid i) ((runs_ofHandler.mpr rfl).mono fun o s r s' does => (show sem o s r s' from .inl does))

private theorem start_live : Live Reference.console start "a" "a@x" := by
  refine ⟨?_, ⟨"a", "pa", "xa", "ya", 0, false⟩, ?_, rfl, rfl⟩ <;> decide +kernel

/-- One administrator freezes the other, and somebody can still use the console. -/
theorem console_stays_manned_frozen : Manned Reference.console (serve 0 (.user_disable browser "b") start) := by
  refine console_stays_manned Reference.console admin_store.registry_roundTrips (fun _ _ => none) ⟨_, _, start_live⟩
    (.single ⟨_, serve_step 0 (.user_disable browser "b") start, ?_⟩)
  rintro _ ⟨⟩ viewer - -
  exact ⟨_, _, start_live, by decide +kernel⟩

/-- The administrator who froze the other then gives up the right, which the list
    allows: it has two entries. -/
def deserted : Db := serve 1 (.user_revoke_admin browser "a") (serve 0 (.user_disable browser "b") start)

private theorem deserted_state : admin_store.listed admin_store.registry deserted = ["b"] ∧
    ∀ e ∈ deserted.docs.pairs, e.1.1 = .accounts → field_str e.2.fields "accountId" = some "b" →
      field_bool e.2.fields "disabled" = some true := by
  decide +kernel

/-- Nobody can use the console any more. -/
theorem console_deserted : ∃ db db' : Db, Manned Reference.console db ∧
    Relation.ReflTransGen (fun s s' => ∃ request, Step Reference.console (fun _ _ => none) s (some request) s') db db' ∧
    ¬ Manned Reference.console db' := by
  refine ⟨start, deserted, ⟨_, _, start_live⟩, .tail (.single ⟨_, serve_step ..⟩) ⟨_, serve_step ..⟩, ?_⟩
  rintro ⟨account_id, email, listed, cred, stored, rfl, thawed⟩
  obtain ⟨list, frozen⟩ := deserted_state
  have last : cred.account_id = "b" := by
    have here : cred.account_id ∈ admin_store.listed admin_store.registry deserted := listed
    rw [list] at here
    simpa using here
  obtain ⟨f, read, parsed⟩ := Option.bind_eq_some_iff.mp stored
  obtain ⟨doc, found, filled⟩ := Option.bind_eq_some_iff.mp read
  obtain ⟨-, rfl⟩ := Db.readable_eq_some.mp filled
  obtain ⟨credential_id, -, same⟩ := Option.bind_eq_some_iff.mp parsed
  cases same
  have own : field_str doc.fields "accountId" = some "b" := by
    cases named : field_str doc.fields "accountId" with
    | none => simp [named] at last
    | some u => simpa [named] using last
  have flag := frozen _ (Table.get_eq_some_iff.mp found) rfl own
  simp [flag] at thawed

end RustOp.Web.LastAdmin
