import RustOp.Effects.Prog
import RustOp.Effects.Table
import RustOp.Firestore.Timestamp

/-!
The Firestore client: typed fields, documents, and the operations on them. A
document carries the time of its last write, and a conditional write or delete
takes effect only if that time is still the one the caller read.
-/
namespace RustOp.Firestore
open RustOp.Effects

/-! ### Fields -/

/-- A field value. An integer travels as its decimal text. -/
inductive Value where
  | string (v : String)
  | timestamp (v : String)
  | boolean (v : Bool)
  | integer (v : Nat)
deriving DecidableEq, Repr

/-- The fields of a document, by name. -/
abbrev Fields := Table String Value

def field_str (fields : Fields) (name : String) : Option String :=
  match fields.get name with
  | some (.string v) => some v
  | _ => none

def field_bool (fields : Fields) (name : String) : Option Bool :=
  match fields.get name with
  | some (.boolean v) => some v
  | _ => none

def field_u64 (fields : Fields) (name : String) : Option Nat :=
  match fields.get name with
  | some (.integer v) => some v
  | _ => none

/-- A timestamp in epoch seconds. Firestore stores valid timestamps only; text
    that the parser panics on counts as no field. -/
def field_ts_secs (fields : Fields) (name : String) : Option Nat :=
  match fields.get name with
  | some (.timestamp v) => parse_rfc3339_secs v
  | _ => none

/-! ### Documents -/

/-- The collections. -/
inductive Col where
  | interactions
  | sessions
  | authCodes
  | accessTokens
  | refreshTokens
  | cibaRequests
  | cibaHistory
  | accounts
  | accountsByUuid
  | parRequests
  | nonces
  | webauthnChallenges
  | clients
  | dcrTokens
  | emailChallenges
  | profiles
  | fcmTokens
  | admins
  | fidoCredentials
  | fidoChallenges
  | auditLog
deriving DecidableEq, Repr

/-- A document and the time of its last write. -/
structure Doc where
  fields : Fields
  update_time : Nat

/-- The operations of the client, and the clock of the process. -/
inductive FsOp where
  | get_doc (col : Col) (id : String)
  | get_doc_with_update_time (col : Col) (id : String)
  | set_doc (col : Col) (id : String) (fields : Fields)
  | update_field (col : Col) (id field : String) (value : Value)
  | set_doc_if_unchanged (col : Col) (id : String) (fields : Fields) (update_time : Nat)
  | create_if_absent (col : Col) (id : String) (fields : Fields)
  | delete_doc (col : Col) (id : String)
  | delete_doc_if_unchanged (col : Col) (id : String) (update_time : Nat)
  | merge_doc (col : Col) (id : String) (fields : Fields)
  | query_eq (col : Col) (field value : String)
  | now

@[reducible] def FsOp.Res : FsOp → Type
  | .get_doc .. => Except String (Option Fields)
  | .get_doc_with_update_time .. => Except String (Option (Fields × Nat))
  | .set_doc .. => Except String Unit
  | .update_field .. => Except String Unit
  | .set_doc_if_unchanged .. => Except String Bool
  | .create_if_absent .. => Except String Bool
  | .delete_doc .. => Except String Unit
  | .delete_doc_if_unchanged .. => Except String Bool
  | .merge_doc .. => Except String Unit
  | .query_eq .. => Except String (List (String × Fields))
  | .now => Nat

@[reducible] def Fs : Sig := ⟨FsOp, FsOp.Res⟩

/-- One request to Firestore. -/
@[simp] def fs (o : FsOp) : Prog Fs o.Res := .call o .ret

/-- The documents, the number of writes so far, and the clock. -/
structure Db where
  clock : Nat
  writes : Nat := 0
  docs : Table (Col × String) Doc := ∅

namespace Db

/-- Writes a document; its time is new. -/
def write (db : Db) (key : Col × String) (fields : Fields) : Db :=
  { db with writes := db.writes + 1, docs := db.docs.set key ⟨fields, db.writes + 1⟩ }

def erase (db : Db) (key : Col × String) : Db := { db with docs := db.docs.remove key }

/-- The document was last written at the given time. -/
def unchanged (db : Db) (key : Col × String) (update_time : Nat) : Bool :=
  (db.docs.get key).any fun doc => doc.update_time = update_time

/-- What reading a document without fields gives: nothing. -/
def readable (doc : Doc) : Option Fields := if doc.fields.entries.isEmpty then none else some doc.fields

theorem readable_eq_some {doc : Doc} {f : Fields} : readable doc = some f ↔ doc.fields.entries.isEmpty = false ∧ doc.fields = f := by
  simp [readable]

end Db

theorem get_write (db : Db) (key : Col × String) (f : Fields) (k : Col × String) :
    (db.write key f).docs.get k = if k = key then some ⟨f, db.writes + 1⟩ else db.docs.get k := Table.get_set _ _ _ _

theorem get_erase (db : Db) (key k : Col × String) :
    (db.erase key).docs.get k = if k = key then none else db.docs.get k := Table.get_remove _ _ _

/-- What Firestore answers and does when every request reaches it. -/
def exec : Prog.Handler Fs Db
  | .get_doc col id, db => (.ok ((db.docs.get (col, id)).bind Db.readable), db)
  | .get_doc_with_update_time col id, db => (.ok ((db.docs.get (col, id)).map fun doc => (doc.fields, doc.update_time)), db)
  | .set_doc col id fields, db => (.ok (), db.write (col, id) fields)
  | .update_field col id field value, db =>
    match db.docs.get (col, id) with
    | some doc => (.ok (), db.write (col, id) (doc.fields.set field value))
    | none => (.error "update_field", db)
  | .set_doc_if_unchanged col id fields update_time, db =>
    if db.unchanged (col, id) update_time then (.ok true, db.write (col, id) fields) else (.ok false, db)
  | .create_if_absent col id fields, db =>
    if (db.docs.get (col, id)).isNone then (.ok true, db.write (col, id) fields) else (.ok false, db)
  | .delete_doc col id, db => (.ok (), db.erase (col, id))
  | .delete_doc_if_unchanged col id update_time, db =>
    if db.unchanged (col, id) update_time then (.ok true, db.erase (col, id)) else (.ok false, db)
  | .merge_doc col id fields, db =>
    (.ok (), db.write (col, id) (Table.merge (((db.docs.get (col, id)).map Doc.fields).getD ∅) fields))
  | .query_eq col field value, db =>
    (.ok ((db.docs.pairs.filter fun e => e.1.1 = col && field_str e.2.fields field = some value).map
      fun e => (e.1.2, e.2.fields)), db)
  | .now, db => (db.clock, db)

/-- No request moves the clock. -/
theorem exec_clock (o : FsOp) (db : Db) : (exec o db).2.clock = db.clock := by
  cases o <;> simp only [exec] <;> (try split) <;> rfl

end RustOp.Firestore
