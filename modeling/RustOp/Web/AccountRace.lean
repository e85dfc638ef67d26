import RustOp.Effects.History
import RustOp.Web.Registration

/-!
Writers of one account at once: a registration replaces the whole document with
the flag it read, a login writes the counter and an administrator the flag. The
flag stays the one last set as long as no registration writes an older one back.
-/
namespace RustOp.Web.AccountRace
open RustOp.Effects RustOp.Firestore registration

/-- An operation on the account of an address. -/
inductive AccountOp where
  | save_credential (account_id : String) (c : webauthn.RegOutcome)
  | update_sign_count (n : Nat)
  | set_disabled (disabled : Bool)

def AccountOp.run (email : String) : AccountOp → Prog Fs (Except String Unit)
  | .save_credential account_id c => registration.save_credential email account_id c
  | .update_sign_count n => registration.update_sign_count email n
  | .set_disabled disabled => registration.set_disabled email disabled

/-- The flag of stored fields. -/
def flag (f : Fields) : Bool := (field_bool f "disabled").getD false

/-- The flag that is stored for an address. -/
def storedFlag (email : String) (db : Db) : Bool := ((db.docs.get (.accounts, email)).map fun doc => flag doc.fields).getD false

/-- The flag that a registration takes from what it read. -/
def readFlag (found : Option Fields) : Bool := ((found.bind Credential.from_fields).map Credential.disabled).getD false

variable {ι : Type}

/-- Operations about to begin. -/
def race (email : String) (ops : ι → AccountOp) (db : Db) : Pool Fs Db ι (Except String Unit) :=
  ⟨db, fun i => (ops i).run email, []⟩

/-- Anything that leaves the account alone. -/
def Elsewhere (email : String) (db db' : Db) : Prop := db'.docs.get (.accounts, email) = db.docs.get (.accounts, email)

/-- What an operation sets the flag to. -/
def setsFlag (email : String) : (o : FsOp) → o.Res → Option Bool
  | .update_field .accounts id "disabled" (.boolean b), .ok () => if id = email then some b else none
  | _, _ => none

/-- The flag last set, or the one at the beginning. -/
def lastFlag (email : String) (first : Bool) (trace : List (Occurrence Fs ι)) : Bool :=
  (trace.findSome? fun e => setsFlag email e.op e.answer).getD first

/-- A registration that writes the account read the flag that is stored now. -/
def Undisturbed (email : String) (c c' : Pool Fs Db ι (Except String Unit)) : Prop :=
  ∀ i f a found, c'.trace = ⟨i, .set_doc .accounts email f, a⟩ :: c.trace →
    ⟨i, .get_doc .accounts email, .ok found⟩ ∈ c.trace → readFlag found = storedFlag email c.state

/-- The fields come from one registration, or from the beginning. Only the
    counter and the flag may have changed since. -/
def Whole (email : String) (first : Option Doc) (trace : List (Occurrence Fs ι)) (f : Fields) : Prop :=
  ∃ g, ((∃ doc, first = some doc ∧ doc.fields = g) ∨ ∃ i, ⟨i, .set_doc .accounts email g, .ok ()⟩ ∈ trace) ∧
    ∀ name, name ≠ "signCount" → name ≠ "disabled" → f.get name = g.get name

/-! ### What an operation does -/

/-- The requests of an operation on an account. -/
inductive Lawful (email : String) (past : Past Fs) : FsOp → Prop where
  | read : Lawful email past (.get_doc .accounts email)
  | now : Lawful email past .now
  | save {found : Option Fields} {account_id : String} {c : webauthn.RegOutcome} {t : Nat}
      (read : ⟨.get_doc .accounts email, .ok found⟩ ∈ past) :
      Lawful email past (.set_doc .accounts email (account_fields email account_id c t (readFlag found)))
  | index (account_id : String) (f : Fields) : Lawful email past (.set_doc .accountsByUuid account_id f)
  | count (n : Nat) : Lawful email past (.update_field .accounts email "signCount" (.integer n))
  | flag (b : Bool) : Lawful email past (.update_field .accounts email "disabled" (.boolean b))

private theorem save_justified (email account_id : String) (c : webauthn.RegOutcome) :
    (registration.save_credential email account_id c).Justified (Lawful email) (fun _ _ => True) [] := by
  refine .call .read fun found => ?_
  rcases found with e | found
  · exact .ret trivial
  · refine .call .now fun t => .call (.save (.tail _ List.mem_cons_self)) fun r => ?_
    rcases r with e | u
    · exact .ret trivial
    · exact .call (.index _ _) fun _ => .ret trivial

theorem op_justified (email : String) (op : AccountOp) : (op.run email).Justified (Lawful email) (fun _ _ => True) [] := by
  cases op with
  | save_credential account_id c => exact save_justified email account_id c
  | update_sign_count n => exact .call (.count n) fun _ => .ret trivial
  | set_disabled b => exact .call (.flag b) fun _ => .ret trivial

@[simp] private theorem flag_account_fields (email account_id : String) (c : webauthn.RegOutcome) (t : Nat) (b : Bool) :
    flag (account_fields email account_id c t b) = b := by
  simp [flag, account_fields, Table.ofEntries, field_bool, Table.get_put]

private theorem storedFlag_write (email : String) (db : Db) (f : Fields) :
    storedFlag email (db.write (.accounts, email) f) = flag f := by
  simp [storedFlag, get_write]

/-- Requests that do not set the flag. -/
private theorem lastFlag_cons {email : String} {first : Bool} {e : Occurrence Fs ι} {trace : List (Occurrence Fs ι)}
    (none : setsFlag email e.op e.answer = .none) : lastFlag email first (e :: trace) = lastFlag email first trace := by
  simp [lastFlag, none]

/-- The document changes by a registration, by its counter or by its flag, or not at all. -/
private inductive Change (email : String) (past : Past Fs) (db db' : Db) (e : (o : FsOp) × o.Res) : Prop where
  | none (same : db'.docs.get (.accounts, email) = db.docs.get (.accounts, email)) (unset : setsFlag email e.1 e.2 = .none)
  | save {found : Option Fields} {account_id : String} {c : webauthn.RegOutcome} {t : Nat}
      (read : ⟨.get_doc .accounts email, .ok found⟩ ∈ past)
      (wrote : e = ⟨.set_doc .accounts email (account_fields email account_id c t (readFlag found)), .ok ()⟩)
      (after : db' = db.write (.accounts, email) (account_fields email account_id c t (readFlag found)))
  | count {doc : Doc} (n : Nat) (stored : db.docs.get (.accounts, email) = some doc) (unset : setsFlag email e.1 e.2 = .none)
      (after : db' = db.write (.accounts, email) (doc.fields.set "signCount" (.integer n)))
  | flag {doc : Doc} (b : Bool) (stored : db.docs.get (.accounts, email) = some doc) (set : setsFlag email e.1 e.2 = some b)
      (after : db' = db.write (.accounts, email) (doc.fields.set "disabled" (.boolean b)))

private theorem Lawful.change {email : String} {past : Past Fs} {o : FsOp} {r : o.Res} {db db' : Db} (lawful : Lawful email past o)
    (does : exec o db = (r, db')) : Change email past db db' ⟨o, r⟩ := by
  cases lawful with
  | read =>
    obtain ⟨-, rfl⟩ := Prod.mk.inj does
    exact .none rfl rfl
  | now =>
    obtain ⟨-, rfl⟩ := Prod.mk.inj does
    exact .none rfl rfl
  | save read =>
    obtain ⟨rfl, rfl⟩ := Prod.mk.inj does
    exact .save read rfl rfl
  | index account_id f =>
    obtain ⟨-, rfl⟩ := Prod.mk.inj does
    exact .none (by simp [get_write]) rfl
  | count n =>
    cases stored : db.docs.get (.accounts, email) with
    | none =>
      simp only [exec, stored, Prod.mk.injEq] at does
      obtain ⟨rfl, rfl⟩ := does
      exact .none rfl rfl
    | some doc =>
      simp only [exec, stored, Prod.mk.injEq] at does
      obtain ⟨rfl, rfl⟩ := does
      exact .count n stored rfl rfl
  | flag b =>
    cases stored : db.docs.get (.accounts, email) with
    | none =>
      simp only [exec, stored, Prod.mk.injEq] at does
      obtain ⟨rfl, rfl⟩ := does
      exact .none rfl rfl
    | some doc =>
      simp only [exec, stored, Prod.mk.injEq] at does
      obtain ⟨rfl, rfl⟩ := does
      exact .flag b stored (if_pos rfl) rfl

private theorem Whole.cons {email : String} {first : Option Doc} {trace : List (Occurrence Fs ι)} {f : Fields}
    (whole : Whole email first trace f) (e : Occurrence Fs ι) : Whole email first (e :: trace) f := by
  obtain ⟨g, source, same⟩ := whole
  exact ⟨g, source.imp_right fun ⟨i, listed⟩ => ⟨i, List.mem_cons_of_mem _ listed⟩, same⟩

private theorem Whole.set {email : String} {first : Option Doc} {trace : List (Occurrence Fs ι)} {f : Fields}
    (whole : Whole email first trace f) {name : String} (patched : name = "signCount" ∨ name = "disabled") (v : Value) :
    Whole email first trace (f.set name v) := by
  obtain ⟨g, source, same⟩ := whole
  refine ⟨g, source, fun x notCount notFlag => ?_⟩
  rw [Table.get_set_ne _ (by rcases patched with rfl | rfl <;> assumption)]
  exact same x notCount notFlag

/-! ### Runs -/

variable [DecidableEq ι]

/-- The flag is the one last set, and the passkey one that was written whole. -/
structure Inv (email : String) (db : Db) (c : Pool Fs Db ι (Except String Unit)) : Prop where
  flag : storedFlag email c.state = lastFlag email (storedFlag email db) c.trace
  whole : ∀ doc, c.state.docs.get (.accounts, email) = some doc →
    Whole email (db.docs.get (.accounts, email)) c.trace doc.fields

private theorem Inv.step {email : String} {db : Db} {c c' : Pool Fs Db ι (Except String Unit)} (inv : Inv email db c)
    (did : Pool.Did (Sem.ofHandler exec) (Elsewhere email) (fun _ => Lawful email) c c') (calm : Undisturbed email c c') :
    Inv email db c' := by
  cases did with
  | env changes trace threads =>
    refine ⟨?_, ?_⟩
    · rw [trace, ← inv.flag, storedFlag, changes]
      rfl
    · rw [trace, changes]
      exact inv.whole
  | act e k next allowed does trace threads =>
    cases allowed.change does with
    | none same unset =>
      refine ⟨?_, ?_⟩
      · rw [trace, lastFlag_cons unset, ← inv.flag, storedFlag, same]
        rfl
      · rw [trace, same]
        exact fun doc stored => (inv.whole doc stored).cons e
    | @save found account_id cred t read wrote after =>
      obtain ⟨i, o, r⟩ := e
      cases wrote
      refine ⟨?_, ?_⟩
      · have old := calm i _ _ found trace (Pool.mem_past.mp read)
        rw [trace, lastFlag_cons rfl, ← inv.flag, after, storedFlag_write, flag_account_fields, old]
      · rw [trace, after]
        intro doc stored
        rw [get_write, if_pos rfl] at stored
        cases stored
        exact ⟨_, .inr ⟨i, List.mem_cons_self⟩, fun _ _ _ => rfl⟩
    | @count doc n stored unset after =>
      refine ⟨?_, ?_⟩
      · rw [trace, lastFlag_cons unset, ← inv.flag, after, storedFlag_write, storedFlag, stored]
        simp [AccountRace.flag, field_bool, Table.get_set]
      · rw [trace, after]
        intro doc' stored'
        rw [get_write, if_pos rfl] at stored'
        cases stored'
        exact ((inv.whole doc stored).set (.inl rfl) _).cons e
    | @flag doc b stored set after =>
      refine ⟨?_, ?_⟩
      · rw [trace, after, storedFlag_write]
        simp [AccountRace.flag, field_bool, lastFlag, set]
      · rw [trace, after]
        intro doc' stored'
        rw [get_write, if_pos rfl] at stored'
        cases stored'
        exact ((inv.whole doc stored).set (.inr rfl) _).cons e

/-- Any number of operations on one account in any order: if every registration
    writes back a flag that is still the stored one, no freeze and no unfreeze is
    lost, and the stored passkey was written whole. -/
theorem freeze_kept (email : String) (ops : ι → AccountOp) (db : Db) {c : Pool Fs Db ι (Except String Unit)}
    (steps : Relation.ReflTransGen (fun c c' => Pool.Step (Sem.ofHandler exec) (Elsewhere email) c c' ∧ Undisturbed email c c')
      (race email ops db) c) :
    storedFlag email c.state = lastFlag email (storedFlag email db) c.trace ∧
      ∀ doc, c.state.docs.get (.accounts, email) = some doc →
        Whole email (db.docs.get (.accounts, email)) c.trace doc.fields := by
  have honest : (race email ops db).Honest (fun _ => Lawful email) fun _ _ _ => True := fun i => op_justified email (ops i)
  have start : Inv email db (race email ops db) := by
    refine ⟨rfl, fun doc stored => ⟨doc.fields, .inl ⟨doc, stored, rfl⟩, fun _ _ _ => rfl⟩⟩
  obtain ⟨inv, -⟩ := honest.induct (fun _ _ inv _ did calm => inv.step did calm) start steps
  exact ⟨inv.flag, inv.whole⟩

/-! ### A registration and a freeze -/

/-- What an answer says of the flag of an account. -/
def seenFlag (email : String) : (o : FsOp) → o.Res → Option Bool
  | .get_doc .accounts id, .ok found => if id = email then some (readFlag found) else none
  | _, _ => none

/-- A test of the condition before a turn. -/
def calmBefore (email : String) (c : Pool Fs Db ι (Except String Unit)) (i : ι) : Bool :=
  match (c.threads i).next with
  | some (.set_doc .accounts _ _) => c.trace.all fun e => (seenFlag email e.op e.answer).all (· == storedFlag email c.state)
  | _ => true

private theorem calmBefore_promises (email : String) (c : Pool Fs Db ι (Except String Unit)) (i : ι)
    (calm : calmBefore email c i = true) : Undisturbed email c (Pool.fire exec c i) := by
  intro j f a found acted read
  unfold Pool.fire at acted
  split at acted
  · simp at acted
  · rename_i o k next
    obtain ⟨rfl, rfl, -⟩ := Occurrence.mk.inj (List.cons.inj acted).1
    rw [calmBefore, next] at calm
    have same := List.all_eq_true.mp calm _ read
    simpa [seenFlag] using same

/-- A new passkey. -/
def outcome : webauthn.RegOutcome := ⟨"cred2", "x2", "y2", 0⟩

/-- An account that is not frozen. -/
def registered : Db := Db.write { clock := 1000 } (.accounts, "a@x") (account_fields "a@x" "u1" ⟨"cred1", "x1", "y1", 0⟩ 900 false)

/-- The account is registered again while an administrator freezes it. -/
def frozen (i : Fin 2) : AccountOp := if i.val = 0 then .save_credential "u1" outcome else .set_disabled true

theorem freeze_kept_in_turn :
    let c := Pool.schedule exec (race "a@x" frozen registered) (Pool.turns [0, 0, 0, 0, 1])
    lastFlag "a@x" false c.trace = true ∧ storedFlag "a@x" c.state = lastFlag "a@x" (storedFlag "a@x" registered) c.trace := by
  refine ⟨by decide +kernel, ?_⟩
  exact (freeze_kept "a@x" frozen registered
    (Pool.schedule_steps_where (P := fun c i => calmBefore "a@x" c i = true) (calmBefore_promises "a@x") (by decide +kernel))).1

/-- The registration reads the account, the administrator freezes it, and the
    registration writes it back: the freeze is lost. -/
theorem freeze_lost : ∃ c, Relation.ReflTransGen (Pool.Step (Sem.ofHandler exec) (Elsewhere "a@x"))
    (race "a@x" frozen registered) c ∧ c.Finished ∧ lastFlag "a@x" (storedFlag "a@x" registered) c.trace = true ∧
    storedFlag "a@x" c.state = false := by
  refine ⟨Pool.schedule exec (race "a@x" frozen registered) (Pool.turns [0, 1, 0, 0, 0]), Pool.schedule_steps _ _ _ _,
    Pool.finished_iff.mpr ?_, ?_, ?_⟩
  · decide +kernel
  · decide +kernel
  · decide +kernel

end RustOp.Web.AccountRace
