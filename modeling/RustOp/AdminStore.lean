import RustOp.Effects.History
import RustOp.Firestore.Footprint

/-!
The administrators: one document lists them all, and it is written only in the
version that was read. The calls that grant and revoke, however many run at
once, amount to a sequence of changes to one list.
-/
namespace RustOp.admin_store
open RustOp.Effects RustOp.Firestore

def REGISTRY_COL : Col := .admins
def REGISTRY_ID : String := "_registry"

structure AdminEntry where
  account_id : String
  granted_by : String
  granted_at : Nat
deriving DecidableEq, Repr

/-- `serde_json` on lists of entries. -/
structure Codec where
  to_string : List AdminEntry → Option String
  from_str : String → Option (List AdminEntry)

/-- What is written is read back. -/
def Codec.RoundTrips (j : Codec) : Prop := ∀ entries, ∃ text, j.to_string entries = some text ∧ j.from_str text = some entries

def parse_entries (j : Codec) (fields : Fields) : List AdminEntry :=
  ((field_str fields "entries").bind j.from_str).getD []

def entries_field (j : Codec) (entries : List AdminEntry) : Fields :=
  .ofEntries [("entries", some (.string ((j.to_string entries).getD "[]")))]

/-- The entries and the version they were read in, if the document exists. -/
def load_registry (j : Codec) : Prog Fs (Except String (List AdminEntry × Option Nat)) := do
  match ← fs (.get_doc_with_update_time REGISTRY_COL REGISTRY_ID) with
  | .error e => return .error e
  | .ok (some (fields, update_time)) => return .ok (parse_entries j fields, some update_time)
  | .ok none => return .ok ([], none)

def is_admin (j : Codec) (account_id : String) : Prog Fs (Except String Bool) := do
  match ← load_registry j with
  | .error e => return .error e
  | .ok (entries, _) => return .ok (entries.any fun e => e.account_id == account_id)

def list_admins (j : Codec) : Prog Fs (Except String (List String)) := do
  match ← load_registry j with
  | .error e => return .error e
  | .ok (entries, _) => return .ok (entries.map AdminEntry.account_id)

inductive GrantAdminResult where
  | Granted
  | AlreadyAdmin
  | Conflict
deriving DecidableEq, Repr

def grant_admin (j : Codec) (account_id granted_by : String) : Prog Fs (Except String GrantAdminResult) := do
  match ← load_registry j with
  | .error e => return .error e
  | .ok (entries, update_time) =>
    if entries.any fun e => e.account_id == account_id then
      return .ok .AlreadyAdmin
    let now ← fs .now
    let entries := entries ++ [⟨account_id, granted_by, now⟩]
    let answer ← match update_time with
      | some ut => fs (.set_doc_if_unchanged REGISTRY_COL REGISTRY_ID (entries_field j entries) ut)
      | none => fs (.create_if_absent REGISTRY_COL REGISTRY_ID (entries_field j entries))
    match answer with
    | .error e => return .error e
    | .ok ok => return .ok (if ok then .Granted else .Conflict)

inductive RevokeAdminResult where
  | Revoked
  | NotAdmin
  | LastAdminGuard
  | Conflict
deriving DecidableEq, Repr

def decide_revoke (entries : List AdminEntry) (target : String) : RevokeAdminResult :=
  if !entries.any fun e => e.account_id == target then .NotAdmin
  else if entries.length ≤ 1 then .LastAdminGuard
  else .Revoked

def revoke_admin (j : Codec) (account_id : String) : Prog Fs (Except String RevokeAdminResult) := do
  match ← load_registry j with
  | .error e => return .error e
  | .ok (entries, update_time) =>
    match decide_revoke entries account_id with
    | .Revoked =>
      let remaining := entries.filter fun e => e.account_id != account_id
      let some ut := update_time | return .error "admin_store: revoke_admin: inconsistent state"
      match ← fs (.set_doc_if_unchanged REGISTRY_COL REGISTRY_ID (entries_field j remaining) ut) with
      | .error e => return .error e
      | .ok ok => return .ok (if ok then .Revoked else .Conflict)
    | other => return .ok other

/-! ### Calls -/

inductive Call where
  | grant (account_id granted_by : String)
  | revoke (account_id : String)
deriving DecidableEq, Repr

inductive Answer where
  | grant (result : Except String GrantAdminResult)
  | revoke (result : Except String RevokeAdminResult)

def Call.run (j : Codec) : Call → Prog Fs Answer
  | .grant account_id granted_by => .grant <$> grant_admin j account_id granted_by
  | .revoke account_id => .revoke <$> revoke_admin j account_id

/-- The call says that it changed the registry. -/
def Answer.Changed : Answer → Prop
  | .grant result => result = .ok .Granted
  | .revoke result => result = .ok .Revoked

/-- The call says that it did not. -/
def Answer.Refused : Answer → Prop
  | .grant result => result = .ok .AlreadyAdmin ∨ result = .ok .Conflict
  | .revoke result => result = .ok .NotAdmin ∨ result = .ok .LastAdminGuard ∨ result = .ok .Conflict

/-! ### A sequence of changes -/

/-- What a call makes of the identifiers in the registry. -/
def Call.apply : Call → List String → List String
  | .grant account_id _, ids => ids ++ [account_id]
  | .revoke account_id, ids => ids.filter (· != account_id)

/-- A call that may change the registry: nobody is entered twice, and somebody is left. -/
def Call.Allowed : Call → List String → Prop
  | .grant account_id _, ids => account_id ∉ ids
  | .revoke account_id, ids => account_id ∈ ids ∧ 1 < ids.length

/-- The registry after changes, newest first. -/
def replay (changes : List Call) : List String := changes.foldr Call.apply []

/-- Each change was allowed where it was made. -/
def Valid : List Call → Prop
  | [] => True
  | c :: older => c.Allowed (replay older) ∧ Valid older

theorem Valid.nodup {changes : List Call} (valid : Valid changes) : (replay changes).Nodup := by
  induction changes with
  | nil => exact List.nodup_nil
  | cons c older ih =>
    obtain ⟨allowed, valid⟩ := valid
    cases c with
    | grant a b =>
      refine List.Nodup.append (ih valid) (List.nodup_singleton a) ?_
      rw [List.disjoint_singleton]
      exact allowed
    | revoke a => exact (ih valid).filter _

/-- Taking one of several distinct identifiers away leaves another. -/
private theorem filter_ne_nil {ids : List String} {a : String} (nodup : ids.Nodup) (several : 1 < ids.length) :
    ids.filter (· != a) ≠ [] := by
  intro none
  have all : ∀ x ∈ ids, x = a := fun x listed => by
    simpa using List.filter_eq_nil_iff.mp none x listed
  match ids, several with
  | x :: y :: rest, _ =>
    have same : x = y := (all x (by simp)).trans (all y (by simp)).symm
    rw [same] at nodup
    simp at nodup

theorem Valid.nonempty {changes : List Call} (valid : Valid changes) (some : changes ≠ []) : replay changes ≠ [] := by
  cases changes with
  | nil => exact absurd rfl some
  | cons c older =>
    cases c with
    | grant a b => simp [replay, Call.apply]
    | revoke a => exact filter_ne_nil valid.2.nodup valid.1.2

/-- A later list still holds an identifier unless a revocation of it came between. -/
theorem mem_replay_append {newer older : List Call} {a : String} (held : a ∈ replay older) :
    a ∈ replay (newer ++ older) ∨ .revoke a ∈ newer := by
  induction newer with
  | nil => exact .inl held
  | cons c rest ih =>
    rcases ih with still | revoked
    · cases c with
      | grant b g => exact .inl (List.mem_append_left _ still)
      | revoke b =>
        by_cases same : b = a
        · exact .inr (by simp [same])
        · refine .inl (List.mem_filter.mpr ⟨still, ?_⟩)
          simpa using Ne.symm same
    · exact .inr (List.mem_cons_of_mem _ revoked)

/-- A later list still lacks an identifier unless a grant of it came between. -/
theorem not_mem_replay_append {newer older : List Call} {a : String} (lacks : a ∉ replay older) :
    a ∉ replay (newer ++ older) ∨ ∃ g, .grant a g ∈ newer := by
  induction newer with
  | nil => exact .inl lacks
  | cons c rest ih =>
    rcases ih with still | ⟨g, granted⟩
    · cases c with
      | grant b g =>
        by_cases same : b = a
        · exact .inr ⟨g, by simp [same]⟩
        · refine .inl fun listed => ?_
          rcases List.mem_append.mp listed with before | new
          · exact still before
          · exact same (List.mem_singleton.mp new).symm
      | revoke b => exact .inl fun listed => still (List.mem_of_mem_filter listed)
    · exact .inr ⟨g, List.mem_cons_of_mem _ granted⟩

end RustOp.admin_store
