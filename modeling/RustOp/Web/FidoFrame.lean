import RustOp.RoundTrip

/-!
Whose passkeys the ceremonies of a user change. In memory they are kept by user.
On Firestore a document is named after its credential alone, so whoever saves or
updates a credential of the same identifier takes the document over.
-/
namespace RustOp.Web.fido.store
open RustOp.Effects RustOp.Firestore

/-- What the ceremonies of a user do to a store. -/
inductive Call where
  | save (cred : StoredCredential)
  | update (cred_id : String) (new_count : UInt32)
deriving DecidableEq, Repr

/-- The credential identifier of a call. -/
def Call.id : Call → String
  | .save cred => cred.id
  | .update cred_id _ => cred_id

def Call.run (p : Server) (user : String) : Call → Prog Fs Unit
  | .save cred => save_credential p user cred
  | .update cred_id new_count => update_sign_count p user cred_id new_count

/-- The documents after calls of a user, one after the other. -/
def performed (p : Server) (user : String) (calls : List Call) (db : Db) : Db :=
  calls.foldl (fun db c => (Prog.run exec (c.run p user) db).2) db

namespace MemFidoStore

def call (m : MemFidoStore) (user : String) : Call → MemFidoStore
  | .save cred => m.save_credential user cred
  | .update cred_id new_count => m.update_sign_count user cred_id new_count

def performed (m : MemFidoStore) (user : String) (calls : List Call) : MemFidoStore :=
  calls.foldl (fun m c => m.call user c) m

/-- Only the list of the user is touched. -/
private theorem find_call {user other : String} (different : other ≠ user) (m : MemFidoStore) (c : Call) :
    (m.call user c).find_credentials other = m.find_credentials other := by
  cases c with
  | save cred => simp [call, save_credential, find_credentials, Table.get_set_ne _ different]
  | update cred_id new_count =>
    simp only [call, update_sign_count]
    split
    · simp [find_credentials, Table.get_set_ne _ different]
    · rfl

theorem find_performed {user other : String} (different : other ≠ user) (calls : List Call) (m : MemFidoStore) :
    (m.performed user calls).find_credentials other = m.find_credentials other := by
  induction calls generalizing m with
  | nil => rfl
  | cons c rest ih => exact (ih (m.call user c)).trans (find_call different m c)

end MemFidoStore

/-- The credential a document holds for a user. -/
def credential_of (p : Server) (user : String) (f : Fields) : Option StoredCredential :=
  if field_str f "user" = some user then cred_from_fields p f else none

/-- The document of this name is a credential of somebody else. -/
def OfAnother (p : Server) (user : String) (db : Db) (id : String) : Prop :=
  ∃ doc other, db.docs.get (.fidoCredentials, id) = some doc ∧ other ≠ user ∧ (credential_of p other doc.fields).isSome

section calls
variable (p : Server)

/-- The passkeys of a user among the documents, in their order. -/
def listed (user : String) (e : (Col × String) × Doc) : Option StoredCredential :=
  if e.1.1 = .fidoCredentials then credential_of p user e.2.fields else none

private theorem run_find (user : String) (db : Db) :
    (Prog.run exec (find_credentials p user) db).1 = db.docs.pairs.filterMap (listed p user) := by
  simp only [find_credentials, Firestore.fs, Prog.call_bind, Prog.ret_bind, Prog.run_call, exec, Prog.pure_eq, Prog.run_ret,
    List.filterMap_map, List.filterMap_filter]
  refine List.filterMap_congr fun e _ => ?_
  by_cases col : e.1.1 = .fidoCredentials
  · by_cases own : field_str e.2.fields "user" = some user <;> simp [listed, credential_of, col, own]
  · simp [listed, col]

/-- A call writes one document, for its user, or nothing. -/
private theorem run_call (user : String) (c : Call) (db : Db) :
    (∃ cred, (Prog.run exec (c.run p user) db).2 = db.write (.fidoCredentials, c.id) (cred_to_fields p user cred)) ∨
      (Prog.run exec (c.run p user) db).2 = db ∧
        ∀ doc, db.docs.get (.fidoCredentials, c.id) = some doc → cred_from_fields p doc.fields = none := by
  cases c with
  | save cred => exact .inl ⟨cred, rfl⟩
  | update cred_id new_count =>
    simp only [Call.run, Call.id, update_sign_count, Firestore.fs, Prog.call_bind, Prog.ret_bind, Prog.run_call, exec]
    cases stored : db.docs.get (.fidoCredentials, cred_id) with
    | none => exact .inr ⟨rfl, by simp⟩
    | some doc =>
      by_cases blank : doc.fields.entries.isEmpty
      · refine .inr ⟨by simp [Db.readable, blank], fun other same => ?_⟩
        obtain rfl := Option.some.inj same
        have empty : doc.fields = ∅ := AList.ext (List.isEmpty_iff.mp blank)
        rw [empty]
        rfl
      · simp only [Option.bind_some, Db.readable, blank, Bool.false_eq_true, if_false]
        cases read : cred_from_fields p doc.fields with
        | none => exact .inr ⟨rfl, fun other same => by rw [← Option.some.inj same, read]⟩
        | some cred => exact .inl ⟨_, rfl⟩

/-- What a user wrote belongs to that user. -/
private theorem credential_of_written {user other : String} (different : other ≠ user) (cred : StoredCredential) :
    credential_of p other (cred_to_fields p user cred) = none := by
  have owner : field_str (cred_to_fields p user cred) "user" = some user := by
    obtain ⟨id, key, sign_count⟩ := cred
    cases key <;> simp [cred_to_fields, parts, kty, field_str, Table.ofEntries, Table.get_put]
  rw [credential_of, owner, if_neg fun same => different (Option.some.inj same).symm]

/-- The passkeys of a user, as the documents list them. -/
private def listing (user : String) (db : Db) : List StoredCredential := db.docs.pairs.filterMap (listed p user)

variable {p} {user other : String} {db : Db} {c : Call}

private theorem listed_written (different : other ≠ user) (id : String) (cred : StoredCredential) (time : Nat) :
    listed p other ((.fidoCredentials, id), ⟨cred_to_fields p user cred, time⟩) = none :=
  credential_of_written p different cred

/-- A document that is of nobody else may be taken over. -/
private theorem listing_kept (own : ¬ OfAnother p user db c.id) (different : other ≠ user) :
    listing p other (Prog.run exec (c.run p user) db).2 = listing p other db := by
  rcases run_call p user c db with ⟨cred, wrote⟩ | ⟨same, -⟩
  · rw [wrote]
    refine Table.filterMap_set (listed_written different c.id cred _) fun doc stored => ?_
    by_contra gave
    exact own ⟨doc, other, stored, different, Option.isSome_iff_ne_none.mpr gave⟩
  · rw [same]

private theorem listing_le (different : other ≠ user) :
    (listing p other (Prog.run exec (c.run p user) db).2).length ≤ (listing p other db).length := by
  rcases run_call p user c db with ⟨cred, wrote⟩ | ⟨same, -⟩
  · rw [wrote]
    exact Table.filterMap_set_le (listed_written different c.id cred _)
  · rw [same]

/-- Whose document is taken over has one passkey less. -/
private theorem listing_lt {doc : Doc} (stored : db.docs.get (.fidoCredentials, c.id) = some doc) (different : other ≠ user)
    (held : (credential_of p other doc.fields).isSome) :
    (listing p other (Prog.run exec (c.run p user) db).2).length < (listing p other db).length := by
  rcases run_call p user c db with ⟨cred, wrote⟩ | ⟨-, unread⟩
  · rw [wrote]
    exact Table.filterMap_set_lt (listed_written different c.id cred _) stored held
  · simp [credential_of, unread doc stored] at held

/-- Taking over what is of nobody else leaves the documents of others theirs. -/
private theorem ofAnother_call (own : ¬ OfAnother p user db c.id) (id : String) :
    OfAnother p user (Prog.run exec (c.run p user) db).2 id ↔ OfAnother p user db id := by
  rcases run_call p user c db with ⟨cred, wrote⟩ | ⟨same, -⟩
  · by_cases here : id = c.id
    · subst here
      refine iff_of_false ?_ own
      rintro ⟨doc, other, stored, different, held⟩
      rw [wrote, get_write, if_pos rfl] at stored
      obtain rfl := Option.some.inj stored
      simp [credential_of_written p different cred] at held
    · simp [OfAnother, wrote, get_write, here]
  · rw [same]

private theorem listing_performed_le (different : other ≠ user) (calls : List Call) (db : Db) :
    (listing p other (performed p user calls db)).length ≤ (listing p other db).length := by
  induction calls generalizing db with
  | nil => exact le_rfl
  | cons c rest ih => exact (ih _).trans (listing_le different)

private theorem listing_performed (different : other ≠ user) {calls : List Call} {db : Db}
    (own : ∀ c ∈ calls, ¬ OfAnother p user db c.id) : listing p other (performed p user calls db) = listing p other db := by
  induction calls generalizing db with
  | nil => rfl
  | cons c rest ih =>
    have first := own c List.mem_cons_self
    refine (ih fun x listed taken => ?_).trans (listing_kept first different)
    exact own x (List.mem_cons_of_mem c listed) ((ofAnother_call first x.id).mp taken)

/-- One call on the document of somebody else is enough. -/
private theorem listing_lost {calls : List Call} {db : Db} (taken : ∃ c ∈ calls, OfAnother p user db c.id) :
    ∃ other, other ≠ user ∧ (listing p other (performed p user calls db)).length < (listing p other db).length := by
  induction calls generalizing db with
  | nil => simp at taken
  | cons c rest ih =>
    by_cases first : OfAnother p user db c.id
    · obtain ⟨doc, other, stored, different, held⟩ := first
      exact ⟨other, different, (listing_performed_le different rest _).trans_lt (listing_lt stored different held)⟩
    · obtain ⟨x, listed, taken⟩ := taken
      have later : x ∈ rest := by
        rcases List.mem_cons.mp listed with rfl | later
        · exact absurd taken first
        · exact later
      obtain ⟨other, different, fewer⟩ := ih ⟨x, later, (ofAnother_call first x.id).mpr taken⟩
      refine ⟨other, different, ?_⟩
      rw [← listing_kept first different]
      exact fewer

end calls

/-- The ceremonies of a user change nobody else's passkeys, in memory and on
    Firestore, exactly if none is about a document of somebody else. -/
theorem others_keep_credentials (p : Server) (user : String) (calls : List Call) (m : MemFidoStore) (db : Db) :
    (∀ other, other ≠ user →
      (m.performed user calls).find_credentials other = m.find_credentials other ∧
      (Prog.run exec (find_credentials p other) (performed p user calls db)).1 =
        (Prog.run exec (find_credentials p other) db).1) ↔
    ∀ c ∈ calls, ¬ OfAnother p user db c.id := by
  constructor
  · intro kept c listed taken
    obtain ⟨other, different, fewer⟩ := listing_lost ⟨c, listed, taken⟩
    have same := (kept other different).2
    rw [run_find, run_find] at same
    exact fewer.ne (congrArg List.length same)
  · intro own other different
    refine ⟨MemFidoStore.find_performed different calls m, ?_⟩
    rw [run_find, run_find]
    exact listing_performed different own

/-! ### A credential identifier that is taken -/

/-- A security key. Every user has one with the same identifier. -/
def twin (user : String) : StoredCredential := ⟨"AAAA", .Ed25519 user.toUTF8.toList, 0⟩

/-- One user has a passkey. -/
def registered : Db := (Prog.run exec (save_credential RoundTrip.server "alice" (twin "alice")) { clock := 0 }).2

/-- Another user registers a passkey of the same identifier. -/
theorem others_keep_credentials_taken :
    (Prog.run exec (find_credentials RoundTrip.server "alice") registered).1 = [twin "alice"] ∧
    (Prog.run exec (find_credentials RoundTrip.server "alice")
      (performed RoundTrip.server "bob" [.save (twin "bob")] registered)).1 = [] := by
  decide +kernel

end RustOp.Web.fido.store
