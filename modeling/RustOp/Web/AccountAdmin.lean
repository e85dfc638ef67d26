import RustOp.Web.Registration

/-!
What administrators do to accounts: freezing ends the sessions and tokens of an
account, and only a frozen account is deleted. Each operation leaves an entry in
the audit log.
-/
namespace RustOp.Web
open RustOp.Effects RustOp.Firestore registration

/-- Adds an entry to the log. Whether it is written is not looked at. -/
def audit_log.record (id actor action target detail : String) : Prog Fs Unit := do
  let now ← Firestore.fs .now
  let _ ← Firestore.fs (.create_if_absent .auditLog id
    (.ofEntries [("actor", some (.string actor)), ("action", some (.string action)), ("target", some (.string target)),
      ("detail", some (.string detail)), ("at", some (ts now))]))
  return ()

namespace account_admin

/-- How much was revoked. Collections that could not be searched are listed. -/
structure RevocationCounts where
  sessions : Nat := 0
  access_tokens : Nat := 0
  refresh_tokens : Nat := 0
  query_errors : List String := []
deriving DecidableEq, Repr

/-- The counts as the log shows them. -/
def RevocationCounts.detail (email : String) (counts : RevocationCounts) : String :=
  "email=" ++ email ++ " sessions=" ++ toString counts.sessions ++ " access_tokens=" ++ toString counts.access_tokens ++
    " refresh_tokens=" ++ toString counts.refresh_tokens ++ " query_errors=[" ++
    ", ".intercalate (counts.query_errors.map fun col => "\"" ++ col ++ "\"") ++ "]"

inductive DisableOutcome where
  | Disabled (counts : RevocationCounts)
  | AlreadyDisabled (counts : RevocationCounts)
  | NotFound

inductive EnableOutcome where
  | Enabled
  | AlreadyEnabled
  | NotFound

inductive DeleteOutcome where
  | Deleted (counts : RevocationCounts)
  | NotDisabled
  | NotFound

/-- Deletes the documents of a result, and counts the deletions that worked. -/
def delete_rows (col : Col) : List (String × Fields) → Prog Fs Nat
  | [] => return 0
  | (id, _) :: rows => do
    let deleted ← Firestore.fs (.delete_doc col id)
    let revoked ← delete_rows col rows
    match deleted with
    | .ok () => return revoked + 1
    | .error _ => return revoked

/-- Deletes the documents of an account in a collection. -/
def revoke_by_account (col : Col) (account_id : String) : Prog Fs (Except String Nat) := do
  match ← Firestore.fs (.query_eq col "accountId" account_id) with
  | .error e => return .error e
  | .ok rows => return .ok (← delete_rows col rows)

/-- Ends everything an account has open, one collection after the other. -/
def revoke_all (account_id : String) : Prog Fs RevocationCounts := do
  let counts : RevocationCounts := {}
  let counts := match ← revoke_by_account .sessions account_id with
    | .ok n => { counts with sessions := n }
    | .error _ => { counts with query_errors := counts.query_errors ++ ["sessions"] }
  let counts := match ← revoke_by_account .accessTokens account_id with
    | .ok n => { counts with access_tokens := n }
    | .error _ => { counts with query_errors := counts.query_errors ++ ["accessTokens"] }
  match ← revoke_by_account .refreshTokens account_id with
  | .ok n => return { counts with refresh_tokens := n }
  | .error _ => return { counts with query_errors := counts.query_errors ++ ["refreshTokens"] }

/-- Sets the flag unless it is already as wanted. -/
def flag_account (email : String) (cred : registration.Credential) (disabled : Bool) : Prog Fs (Except String Unit) :=
  if cred.disabled = disabled then return .ok () else set_disabled email disabled

def disable_account (uuid : Draw → String) (actor email : String) : Prog Fs (Except String DisableOutcome) := do
  match ← get_credential email with
  | .error e => return .error e
  | .ok none => return .ok .NotFound
  | .ok (some cred) =>
  match ← flag_account email cred true with
  | .error e => return .error e
  | .ok () =>
  let counts ← revoke_all cred.account_id
  audit_log.record (uuid .audit_log) actor "disable_account" cred.account_id (counts.detail email)
  return .ok (if cred.disabled then .AlreadyDisabled counts else .Disabled counts)

def enable_account (uuid : Draw → String) (actor email : String) : Prog Fs (Except String EnableOutcome) := do
  match ← get_credential email with
  | .error e => return .error e
  | .ok none => return .ok .NotFound
  | .ok (some cred) =>
  match ← flag_account email cred false with
  | .error e => return .error e
  | .ok () =>
  audit_log.record (uuid .audit_log) actor "enable_account" cred.account_id
    ("email=" ++ email ++ " already_enabled=" ++ toString (!cred.disabled))
  return .ok (if cred.disabled then .Enabled else .AlreadyEnabled)

/-- Deletes documents until one cannot be deleted. -/
def delete_all : List (Col × String) → Prog Fs (Except String Unit)
  | [] => return .ok ()
  | (col, id) :: rest => do
    match ← Firestore.fs (.delete_doc col id) with
    | .error e => return .error e
    | .ok () => delete_all rest

def delete_account (uuid : Draw → String) (actor email : String) : Prog Fs (Except String DeleteOutcome) := do
  match ← get_credential email with
  | .error e => return .error e
  | .ok none => return .ok .NotFound
  | .ok (some cred) =>
  if !cred.disabled then
    return .ok .NotDisabled
  let counts ← revoke_all cred.account_id
  match ← delete_all [(.fcmTokens, cred.account_id), (.profiles, cred.account_id), (.accountsByUuid, cred.account_id),
      (.accounts, email)] with
  | .error e => return .error e
  | .ok () =>
  audit_log.record (uuid .audit_log) actor "delete_account" cred.account_id (counts.detail email)
  return .ok (.Deleted counts)

/-! ### What the operations do -/

section uses
variable {allowed : FsOp → Prop} (reads : ∀ o : FsOp, o.writes = none → allowed o)
include reads

theorem record_uses {id : String} (logs : ∀ f, allowed (.create_if_absent .auditLog id f)) (actor action target detail : String) :
    (audit_log.record id actor action target detail).Uses allowed :=
  ⟨reads _ rfl, fun _ => ⟨logs _, fun _ => trivial⟩⟩

omit reads in
theorem delete_rows_uses {col : Col} (deletes : ∀ id, allowed (.delete_doc col id)) (rows : List (String × Fields)) :
    (delete_rows col rows).Uses allowed := by
  induction rows with
  | nil => trivial
  | cons row rows ih =>
    refine ⟨deletes _, fun deleted => ih.bind fun revoked => ?_⟩
    cases deleted <;> trivial

theorem revoke_by_account_uses {col : Col} (deletes : ∀ id, allowed (.delete_doc col id)) (account_id : String) :
    (revoke_by_account col account_id).Uses allowed := by
  refine ⟨reads _ rfl, fun r => ?_⟩
  cases r with
  | error e => trivial
  | ok rows => exact (delete_rows_uses deletes rows).bind fun _ => trivial

theorem revoke_all_uses (deletes : ∀ col id, col ∈ [Col.sessions, .accessTokens, .refreshTokens] → allowed (.delete_doc col id))
    (account_id : String) : (revoke_all account_id).Uses allowed := by
  have revokes : ∀ col, col ∈ [Col.sessions, .accessTokens, .refreshTokens] → (revoke_by_account col account_id).Uses allowed :=
    fun col listed => revoke_by_account_uses reads (fun id => deletes col id listed) account_id
  refine (revokes .sessions (by simp)).bind fun sessions => ?_
  refine (revokes .accessTokens (by simp)).bind fun access_tokens => ?_
  refine (revokes .refreshTokens (by simp)).bind fun refresh_tokens => ?_
  cases refresh_tokens <;> trivial

omit reads in
theorem flag_account_uses {email : String} {disabled : Bool}
    (flags : allowed (.update_field .accounts email "disabled" (.boolean disabled))) (cred : registration.Credential) :
    (flag_account email cred disabled).Uses allowed := by
  unfold flag_account
  split
  · trivial
  · exact ⟨flags, fun _ => trivial⟩

variable (logs : ∀ id f, allowed (.create_if_absent .auditLog id f))
include logs

theorem disable_account_uses {email : String} (flags : allowed (.update_field .accounts email "disabled" (.boolean true)))
    (deletes : ∀ col id, col ∈ [Col.sessions, .accessTokens, .refreshTokens] → allowed (.delete_doc col id))
    (uuid : Draw → String) (actor : String) : (disable_account uuid actor email).Uses allowed := by
  refine (get_credential_uses reads email).bind fun r => ?_
  rcases r with e | _ | cred
  · trivial
  · trivial
  · refine (flag_account_uses flags cred).bind fun r => ?_
    cases r with
    | error e => trivial
    | ok u =>
      refine (revoke_all_uses reads deletes cred.account_id).bind fun counts => ?_
      exact (record_uses reads (logs _) ..).bind fun _ => trivial

theorem enable_account_uses {email : String} (flags : allowed (.update_field .accounts email "disabled" (.boolean false)))
    (uuid : Draw → String) (actor : String) : (enable_account uuid actor email).Uses allowed := by
  refine (get_credential_uses reads email).bind fun r => ?_
  rcases r with e | _ | cred
  · trivial
  · trivial
  · refine (flag_account_uses flags cred).bind fun r => ?_
    cases r with
    | error e => trivial
    | ok u => exact (record_uses reads (logs _) ..).bind fun _ => trivial

omit reads logs in
theorem delete_all_uses {keys : List (Col × String)} (deletes : ∀ key ∈ keys, allowed (.delete_doc key.1 key.2)) :
    (delete_all keys).Uses allowed := by
  induction keys with
  | nil => trivial
  | cons key rest ih =>
    refine ⟨deletes key List.mem_cons_self, fun r => ?_⟩
    cases r with
    | error e => trivial
    | ok u => exact ih fun key listed => deletes key (List.mem_cons_of_mem _ listed)

theorem delete_account_uses {email : String} (account : allowed (.delete_doc .accounts email))
    (deletes : ∀ col id, col ∈ [Col.sessions, .accessTokens, .refreshTokens, .fcmTokens, .profiles, .accountsByUuid] →
      allowed (.delete_doc col id)) (uuid : Draw → String) (actor : String) : (delete_account uuid actor email).Uses allowed := by
  refine (get_credential_uses reads email).bind fun r => ?_
  rcases r with e | _ | cred
  · trivial
  · trivial
  · dsimp only
    split
    · trivial
    · refine (revoke_all_uses reads (fun col id listed => deletes col id ?_) cred.account_id).bind fun counts => ?_
      · exact List.mem_append_left [Col.fcmTokens, .profiles, .accountsByUuid] listed
      · refine (delete_all_uses fun key listed => ?_).bind fun r => ?_
        · simp only [List.mem_cons, List.not_mem_nil, or_false] at listed
          rcases listed with rfl | rfl | rfl | rfl
          · exact deletes _ _ (by simp)
          · exact deletes _ _ (by simp)
          · exact deletes _ _ (by simp)
          · exact account
        · cases r with
          | error e => trivial
          | ok u => exact (record_uses reads (logs _) ..).bind fun _ => trivial

end uses

end account_admin
end RustOp.Web
