import RustOp.AdminStore
import RustOp.JsonText

/-!
Any number of calls to grant and to revoke, interleaved with each other and with
other traffic, their requests failing before or after they took effect: the
calls that changed the registry changed it one after another.
-/
namespace RustOp.admin_store
open RustOp.Effects RustOp.Firestore

/-- The place of the registry. -/
def KEY : Col × String := (REGISTRY_COL, REGISTRY_ID)

def entries (j : Codec) (db : Db) : List AdminEntry :=
  match db.docs.get KEY with
  | some doc => parse_entries j doc.fields
  | none => []

/-- The identifiers in the registry. -/
def listed (j : Codec) (db : Db) : List String := (entries j db).map AdminEntry.account_id

variable {ι : Type}

/-- Calls that run, and those of them whose requests changed a document, newest first. -/
structure World (ι : Type) where
  pool : Pool Fs Db ι Answer
  effective : List ι

/-- What happens besides the calls leaves the registry alone. -/
def Elsewhere (db db' : Db) : Prop := Grows KEY db db' ∧ db'.docs.get KEY = db.docs.get KEY

/-- One request of a call, which changes a document or does not, or something else. -/
inductive Step [DecidableEq ι] : World ι → World ι → Prop where
  | quiet {w : World ι} {c : Pool Fs Db ι Answer} (step : Pool.Step sem (fun _ _ => False) w.pool c)
      (same : c.state.docs = w.pool.state.docs) : Step w ⟨c, w.effective⟩
  | effect {w : World ι} {c : Pool Fs Db ι Answer} {e : Occurrence Fs ι} (step : Pool.Step sem (fun _ _ => False) w.pool c)
      (changed : c.state.docs ≠ w.pool.state.docs) (acted : c.trace = e :: w.pool.trace) :
      Step w ⟨c, e.thread :: w.effective⟩
  | env {w : World ι} {db : Db} (changes : Elsewhere w.pool.state db) : Step w ⟨{ w.pool with state := db }, w.effective⟩

/-- Calls about to begin while there is no registry. -/
structure Start (j : Codec) (calls : ι → Call) (w : World ι) : Prop where
  stamped : Stamped w.pool.state
  absent : w.pool.state.docs.get KEY = none
  threads : ∀ i, w.pool.threads i = (calls i).run j
  trace : w.pool.trace = []
  effective : w.effective = []

/-! ### What a call does -/

/-- A program found this at the place of the registry. -/
def Seen (past : Past Fs) (found : Option (Fields × Nat)) : Prop :=
  ⟨.get_doc_with_update_time REGISTRY_COL REGISTRY_ID, .ok found⟩ ∈ past

/-- A program tried to write the registry and was answered so. -/
inductive Wrote (past : Past Fs) (answer : Except String Bool) : Prop where
  | replace {f : Fields} {ut : Nat} (listed : ⟨.set_doc_if_unchanged REGISTRY_COL REGISTRY_ID f ut, answer⟩ ∈ past)
  | create {f : Fields} (listed : ⟨.create_if_absent REGISTRY_COL REGISTRY_ID f, answer⟩ ∈ past)

/-- The entries that a call makes of those it read. -/
inductive Makes : Call → List AdminEntry → List AdminEntry → Prop where
  | grant {a g : String} {t : Nat} {es : List AdminEntry} (new : (es.any fun e => e.account_id == a) = false) :
      Makes (.grant a g) es (es ++ [⟨a, g, t⟩])
  | revoke {a : String} {es : List AdminEntry} (found : (es.any fun e => e.account_id == a) = true) (several : 1 < es.length) :
      Makes (.revoke a) es (es.filter fun e => e.account_id != a)

/-- The requests of a call: it writes once, and only what it makes of what it read. -/
inductive Lawful (j : Codec) (call : Call) (past : Past Fs) : FsOp → Prop where
  | read : Lawful j call past (.get_doc_with_update_time REGISTRY_COL REGISTRY_ID)
  | now : Lawful j call past .now
  | replace {f : Fields} {ut : Nat} {next : List AdminEntry} (seen : Seen past (some (f, ut)))
      (first : ∀ answer, ¬ Wrote past answer) (makes : Makes call (parse_entries j f) next) :
      Lawful j call past (.set_doc_if_unchanged REGISTRY_COL REGISTRY_ID (entries_field j next) ut)
  | create {next : List AdminEntry} (seen : Seen past none) (first : ∀ answer, ¬ Wrote past answer)
      (makes : Makes call [] next) : Lawful j call past (.create_if_absent REGISTRY_COL REGISTRY_ID (entries_field j next))

/-- What the answer of a call tells of its requests. -/
structure Tells (past : Past Fs) (a : Answer) : Prop where
  changed : a.Changed → Wrote past (.ok true)
  refused : a.Refused → ∀ answer, Wrote past answer → answer = .ok false

private theorem wrote_cons {e : (o : FsOp) × o.Res} {past : Past Fs} {answer : Except String Bool} :
    Wrote (e :: past) answer ↔ Wrote [e] answer ∨ Wrote past answer := by
  constructor
  · rintro (listed | listed)
    · rcases List.mem_cons.mp listed with rfl | before
      · exact .inl (.replace List.mem_cons_self)
      · exact .inr (.replace before)
    · rcases List.mem_cons.mp listed with rfl | before
      · exact .inl (.create List.mem_cons_self)
      · exact .inr (.create before)
  · rintro ((now | now) | (before | before))
    · rw [List.mem_singleton] at now
      subst now
      exact .replace List.mem_cons_self
    · rw [List.mem_singleton] at now
      subst now
      exact .create List.mem_cons_self
    · exact .replace (List.mem_cons_of_mem _ before)
    · exact .create (List.mem_cons_of_mem _ before)

private theorem not_wrote_read {col : Col} {id : String} {r : (FsOp.get_doc_with_update_time col id).Res}
    (answer : Except String Bool) : ¬ Wrote [⟨.get_doc_with_update_time col id, r⟩] answer := by
  rintro (listed | listed) <;> simp at listed

private theorem not_wrote_now {r : FsOp.now.Res} (answer : Except String Bool) : ¬ Wrote [⟨.now, r⟩] answer := by
  rintro (listed | listed) <;> simp at listed

private theorem wrote_replace {f : Fields} {ut : Nat} {r answer : Except String Bool} :
    Wrote [⟨.set_doc_if_unchanged REGISTRY_COL REGISTRY_ID f ut, r⟩] answer ↔ answer = r := by
  constructor
  · rintro (listed | listed)
    · simpa using (Sigma.mk.inj (List.mem_singleton.mp listed)).2
    · simp at listed
  · rintro rfl
    exact .replace List.mem_cons_self

private theorem wrote_create {f : Fields} {r answer : Except String Bool} :
    Wrote [⟨.create_if_absent REGISTRY_COL REGISTRY_ID f, r⟩] answer ↔ answer = r := by
  constructor
  · rintro (listed | listed)
    · simp at listed
    · simpa using (Sigma.mk.inj (List.mem_singleton.mp listed)).2
  · rintro rfl
    exact .create List.mem_cons_self

private theorem wrote_nil (answer : Except String Bool) : ¬ Wrote [] answer := by
  rintro (listed | listed) <;> cases listed

/-- The write is answered, and the call answers. -/
private theorem tells_write {past : Past Fs} {e : (o : FsOp) × o.Res} {r : Except String Bool}
    (first : ∀ answer, ¬ Wrote past answer) (wrote : ∀ answer, Wrote [e] answer ↔ answer = r) {a : Answer}
    (changed : a.Changed → r = .ok true) (refused : a.Refused → r = .ok false) : Tells (e :: past) a where
  changed claims := wrote_cons.mpr (.inl ((wrote _).mpr (changed claims).symm))
  refused claims answer was := by
    rcases wrote_cons.mp was with now | before
    · rw [(wrote answer).mp now, refused claims]
    · exact absurd before (first answer)

private theorem tells_unwritten {past : Past Fs} (first : ∀ answer, ¬ Wrote past answer) {a : Answer}
    (unchanged : ¬ a.Changed) : Tells past a :=
  ⟨fun claims => absurd claims unchanged, fun _ answer was => absurd was (first answer)⟩

private theorem unwritten_now {past : Past Fs} {t : Nat} (first : ∀ answer, ¬ Wrote past answer)
    (answer : Except String Bool) : ¬ Wrote (⟨.now, t⟩ :: past) answer := fun was =>
  (wrote_cons.mp was).elim (not_wrote_now answer) (first answer)

/-- How a call answers when its write was answered. -/
def Call.settle : Call → Except String Bool → Answer
  | .grant .., r => .grant (r.map fun ok => if ok then .Granted else .Conflict)
  | .revoke .., r => .revoke (r.map fun ok => if ok then .Revoked else .Conflict)

private theorem settle_changed {call : Call} {r : Except String Bool} (claims : (call.settle r).Changed) : r = .ok true := by
  cases call <;> rcases r with e | (_ | _) <;> simp_all [Call.settle, Answer.Changed, Except.map]

private theorem settle_refused {call : Call} {r : Except String Bool} (claims : (call.settle r).Refused) : r = .ok false := by
  cases call <;> rcases r with e | (_ | _) <;> simp_all [Call.settle, Answer.Refused, Except.map]

private theorem grant_run (j : Codec) (a g : String) : (Call.grant a g).run j =
    .call (.get_doc_with_update_time REGISTRY_COL REGISTRY_ID) fun
      | .error e => .ret (.grant (.error e))
      | .ok none => .call .now fun t => .call (.create_if_absent REGISTRY_COL REGISTRY_ID (entries_field j ([] ++ [⟨a, g, t⟩])))
          fun r => .ret ((Call.grant a g).settle r)
      | .ok (some (f, ut)) =>
        if (parse_entries j f).any fun e => e.account_id == a then .ret (.grant (.ok .AlreadyAdmin))
        else .call .now fun t =>
          .call (.set_doc_if_unchanged REGISTRY_COL REGISTRY_ID (entries_field j (parse_entries j f ++ [⟨a, g, t⟩])) ut)
            fun r => .ret ((Call.grant a g).settle r) := by
  simp only [Call.run, grant_admin, load_registry, fs, map_eq_pure_bind, Prog.call_bind, Prog.ret_bind]
  refine congrArg (Prog.call _) (funext fun r => ?_)
  rcases r with e | (_ | ⟨f, ut⟩)
  · rfl
  · refine congrArg (Prog.call _) (funext fun t => congrArg (Prog.call _) (funext fun r => ?_))
    cases r <;> rfl
  · simp only [Prog.pure_eq, Prog.ret_bind]
    by_cases held : ((parse_entries j f).any fun e => e.account_id == a) = true
    · simp only [held, ↓reduceIte]
      rfl
    · simp only [held, Bool.false_eq_true, ↓reduceIte]
      refine congrArg (Prog.call _) (funext fun t => congrArg (Prog.call _) (funext fun r => ?_))
      cases r <;> rfl

private theorem revoke_run (j : Codec) (a : String) : (Call.revoke a).run j =
    .call (.get_doc_with_update_time REGISTRY_COL REGISTRY_ID) fun
      | .error e => .ret (.revoke (.error e))
      | .ok none => .ret (.revoke (.ok .NotAdmin))
      | .ok (some (f, ut)) =>
        if decide_revoke (parse_entries j f) a = .Revoked then
          .call (.set_doc_if_unchanged REGISTRY_COL REGISTRY_ID
              (entries_field j ((parse_entries j f).filter fun e => e.account_id != a)) ut)
            fun r => .ret ((Call.revoke a).settle r)
        else .ret (.revoke (.ok (decide_revoke (parse_entries j f) a))) := by
  simp only [Call.run, revoke_admin, load_registry, fs, map_eq_pure_bind, Prog.call_bind, Prog.ret_bind]
  refine congrArg (Prog.call _) (funext fun r => ?_)
  rcases r with e | (_ | ⟨f, ut⟩)
  · rfl
  · rfl
  · simp only [Prog.pure_eq, Prog.ret_bind]
    cases decided : decide_revoke (parse_entries j f) a with
    | Revoked =>
      refine congrArg (Prog.call _) (funext fun r => ?_)
      cases r <;> rfl
    | _ => rfl

private theorem grant_justified (j : Codec) (a g : String) :
    ((Call.grant a g).run j).Justified (Lawful j (.grant a g)) Tells [] := by
  rw [grant_run]
  refine .call .read fun r => ?_
  have unwritten : ∀ answer, ¬ Wrote [⟨.get_doc_with_update_time REGISTRY_COL REGISTRY_ID, r⟩] answer := not_wrote_read
  rcases r with e | (_ | ⟨f, ut⟩)
  · exact .ret (tells_unwritten unwritten (by simp [Answer.Changed]))
  · refine .call .now fun t => .call (.create (.tail _ List.mem_cons_self) (unwritten_now unwritten) (.grant rfl)) fun r => ?_
    exact .ret (tells_write (unwritten_now unwritten) (fun _ => wrote_create) settle_changed settle_refused)
  · dsimp only
    split
    · exact .ret (tells_unwritten unwritten (by simp [Answer.Changed]))
    · next held =>
      refine .call .now fun t => .call (.replace (.tail _ List.mem_cons_self) (unwritten_now unwritten)
        (.grant (by simpa using held))) fun r => ?_
      exact .ret (tells_write (unwritten_now unwritten) (fun _ => wrote_replace) settle_changed settle_refused)

theorem decide_revoke_revoked {es : List AdminEntry} {a : String} (decided : decide_revoke es a = .Revoked) :
    (es.any fun e => e.account_id == a) = true ∧ 1 < es.length := by
  unfold decide_revoke at decided
  split at decided
  · cases decided
  · next held =>
    split at decided
    · cases decided
    · next several => exact ⟨by simpa using held, by omega⟩

private theorem revoke_justified (j : Codec) (a : String) :
    ((Call.revoke a).run j).Justified (Lawful j (.revoke a)) Tells [] := by
  rw [revoke_run]
  refine .call .read fun r => ?_
  have unwritten : ∀ answer, ¬ Wrote [⟨.get_doc_with_update_time REGISTRY_COL REGISTRY_ID, r⟩] answer := not_wrote_read
  rcases r with e | (_ | ⟨f, ut⟩)
  · exact .ret (tells_unwritten unwritten (by simp [Answer.Changed]))
  · exact .ret (tells_unwritten unwritten (by simp [Answer.Changed]))
  · dsimp only
    split
    · next decided =>
      obtain ⟨found, several⟩ := decide_revoke_revoked decided
      refine .call (.replace List.mem_cons_self unwritten (.revoke found several)) fun r => ?_
      exact .ret (tells_write unwritten (fun _ => wrote_replace) settle_changed settle_refused)
    · next other => exact .ret (tells_unwritten unwritten (by simpa [Answer.Changed] using other))

/-- Every call keeps to what it read. -/
theorem call_justified (j : Codec) (call : Call) : (call.run j).Justified (Lawful j call) Tells [] := by
  cases call with
  | grant a g => exact grant_justified j a g
  | revoke a => exact revoke_justified j a

/-! ### What a request does -/

/-- What a program saw at a version is what is stored in that version. -/
def Known (past : Past Fs) (db : Db) : Prop := ∀ f ut, Seen past (some (f, ut)) →
  ut ≤ db.writes ∧ ∀ doc, db.docs.get KEY = some doc → doc.update_time = ut → doc.fields = f

private theorem Known.grows {past : Past Fs} {db db' : Db} (known : Known past db) (grows : Grows KEY db db') : Known past db' := by
  intro f ut seen
  obtain ⟨old, same⟩ := known f ut seen
  refine ⟨old.trans grows.writes, fun doc stored timed => ?_⟩
  exact same doc (grows.unchanged doc stored (timed ▸ old)) timed

/-- An answer adds what it shows. -/
private theorem Known.cons {past : Past Fs} {o : FsOp} {r : o.Res} {db db' : Db} (known : Known past db) (stamped : Stamped db)
    (does : sem o db r db') : Known (⟨o, r⟩ :: past) db' := by
  intro f ut seen
  rcases List.mem_cons.mp seen with now | before
  · obtain ⟨rfl, same⟩ := Sigma.mk.inj now
    obtain rfl := eq_of_heq same
    rcases does with ran | ⟨⟨e, failed⟩, -⟩
    · simp only [exec, Prod.mk.injEq, Except.ok.injEq] at ran
      obtain ⟨found, rfl⟩ := ran
      cases stored : db.docs.get (REGISTRY_COL, REGISTRY_ID) with
      | none => simp [stored] at found
      | some doc =>
        simp only [stored, Option.map_some, Option.some.injEq, Prod.mk.injEq] at found
        obtain ⟨rfl, rfl⟩ := found
        refine ⟨stamped _ doc stored, fun doc' stored' timed => ?_⟩
        rw [KEY, stored] at stored'
        rw [Option.some.inj stored']
    · cases failed
  · exact known.grows (.sem does) f ut before

/-- The write was answered, and took effect or not. -/
inductive Effect (j : Codec) (call : Call) (past : Past Fs) (e : (o : FsOp) × o.Res) (db db' : Db) : Prop where
  | none (same : db' = db) (unwritten : ¬ Wrote [e] (.ok true))
  | write {next : List AdminEntry} {answer : Except String Bool} (makes : Makes call (entries j db) next)
      (written : db' = db.write KEY (entries_field j next)) (wrote : Wrote [e] answer) (denied : answer ≠ .ok false)
      (first : ∀ answer, ¬ Wrote past answer)

private theorem Lawful.effect {j : Codec} {call : Call} {past : Past Fs} {o : FsOp} {r : o.Res} {db db' : Db}
    (lawful : Lawful j call past o) (known : Known past db) (does : sem o db r db') : Effect j call past ⟨o, r⟩ db db' := by
  cases lawful with
  | read => exact .none (sem_read (fun _ => rfl) does) (not_wrote_read _)
  | now => exact .none (sem_read (fun _ => rfl) does) (not_wrote_now _)
  | @replace f ut next seen first makes =>
    rcases sem_set_if_unchanged does with ⟨same, denied⟩ | ⟨current, written, confirmed⟩
    · exact .none same fun was => denied (wrote_replace.mp was).symm
    · obtain ⟨doc, stored, timed⟩ := Db.unchanged_iff.mp current
      have read : entries j db = parse_entries j f := by
        rw [entries, KEY, stored, ← (known f ut seen).2 doc stored timed]
      exact .write (read ▸ makes) written (wrote_replace.mpr rfl) confirmed first
  | create seen first makes =>
    rcases sem_create_if_absent does with ⟨same, denied⟩ | ⟨absent, written, confirmed⟩
    · exact .none same fun was => denied (wrote_create.mp was).symm
    · have read : entries j db = [] := by rw [entries, KEY, absent]
      exact .write (read ▸ makes) written (wrote_create.mpr rfl) confirmed first

private theorem Makes.apply {call : Call} {es next : List AdminEntry} (makes : Makes call es next) :
    next.map AdminEntry.account_id = call.apply (es.map AdminEntry.account_id) ∧
      call.Allowed (es.map AdminEntry.account_id) := by
  cases makes with
  | @grant a g t es new =>
    refine ⟨by simp [Call.apply], fun held => ?_⟩
    obtain ⟨e, stored, same⟩ := List.mem_map.mp held
    have refused := List.any_eq_false.mp new e stored
    simp [same] at refused
  | @revoke a es found several =>
    obtain ⟨e, stored, same⟩ := List.any_eq_true.mp found
    refine ⟨?_, List.mem_map.mpr ⟨e, stored, by simpa using same⟩, by simpa using several⟩
    rw [Call.apply, List.filter_map]
    rfl

theorem entries_write {j : Codec} (codec : j.RoundTrips) (db : Db) (next : List AdminEntry) :
    entries j (db.write KEY (entries_field j next)) = next := by
  have stored : (db.write KEY (entries_field j next)).docs.get KEY = some ⟨entries_field j next, db.writes + 1⟩ :=
    Table.get_set_self _ _ _
  obtain ⟨text, printed, parsed⟩ := codec next
  rw [entries, stored]
  simp [parse_entries, entries_field, Table.ofEntries, Table.get_put, field_str, printed, parsed]

/-- A write is seen in the time of the document. -/
private theorem docs_write_ne {db : Db} (stamped : Stamped db) (f : Fields) : (db.write KEY f).docs ≠ db.docs := by
  intro same
  have stored : db.docs.get KEY = some ⟨f, db.writes + 1⟩ := by
    rw [← same]
    exact Table.get_set_self _ _ _
  exact absurd (stamped _ _ stored) (Nat.not_succ_le_self _)

/-! ### Runs -/

variable [DecidableEq ι]

/-- The registry is what the effective calls made of it, and the pasts of the calls say which these are. -/
structure Inv (j : Codec) (calls : ι → Call) (w : World ι) : Prop where
  honest : w.pool.Honest (fun i => Lawful j (calls i)) (fun _ => Tells)
  stamped : Stamped w.pool.state
  known : ∀ i, Known (Pool.past w.pool.trace i) w.pool.state
  replayed : listed j w.pool.state = replay (w.effective.map calls)
  valid : Valid (w.effective.map calls)
  once : w.effective.Nodup
  wrote : ∀ i ∈ w.effective, ∃ answer, Wrote (Pool.past w.pool.trace i) answer ∧ answer ≠ .ok false
  confirmed : ∀ i, Wrote (Pool.past w.pool.trace i) (.ok true) → i ∈ w.effective

private theorem Start.inv {j : Codec} {calls : ι → Call} {w : World ι} (start : Start j calls w) : Inv j calls w where
  honest i := by
    rw [start.threads, start.trace]
    exact call_justified j (calls i)
  stamped := start.stamped
  known i f ut seen := by
    rw [start.trace] at seen
    cases seen
  replayed := by
    rw [start.effective, listed, entries, start.absent]
    rfl
  valid := by
    rw [start.effective]
    trivial
  once := by
    rw [start.effective]
    exact List.nodup_nil
  wrote i effective := by
    rw [start.effective] at effective
    cases effective
  confirmed i was := by
    rw [start.trace] at was
    exact absurd was (wrote_nil _)

private theorem Inv.env {j : Codec} {calls : ι → Call} {w : World ι} {db : Db} (inv : Inv j calls w)
    (changes : Elsewhere w.pool.state db) : Inv j calls ⟨{ w.pool with state := db }, w.effective⟩ where
  honest := inv.honest
  stamped := changes.1.stamped inv.stamped
  known i := (inv.known i).grows changes.1
  replayed := by
    rw [← inv.replayed]
    simp only [listed, entries, changes.2]
  valid := inv.valid
  once := inv.once
  wrote := inv.wrote
  confirmed := inv.confirmed

/-- What a request of one call adds to the pasts. -/
private theorem known_act {trace : List (Occurrence Fs ι)} {e : Occurrence Fs ι} {db db' : Db} (stamped : Stamped db)
    (known : ∀ i, Known (Pool.past trace i) db) (does : sem e.op db e.answer db') (i : ι) :
    Known (Pool.past (e :: trace) i) db' := by
  rw [Pool.past_cons]
  by_cases own : e.thread = i
  · rw [if_pos own]
    exact (known i).cons stamped does
  · rw [if_neg own]
    exact (known i).grows (.sem does)

private theorem wrote_act {trace : List (Occurrence Fs ι)} {e : Occurrence Fs ι} {i : ι} {answer : Except String Bool} :
    Wrote (Pool.past (e :: trace) i) answer ↔
      (e.thread = i ∧ Wrote [⟨e.op, e.answer⟩] answer) ∨ Wrote (Pool.past trace i) answer := by
  rw [Pool.past_cons]
  by_cases own : e.thread = i
  · rw [if_pos own, wrote_cons]
    simp [own]
  · simp [own]

/-- A request without effect leaves the sequence of changes as it is, any other extends it by its call. -/
private theorem Inv.act {j : Codec} (codec : j.RoundTrips) {calls : ι → Call} {w : World ι} {c : Pool Fs Db ι Answer}
    (inv : Inv j calls w) (step : Pool.Step sem (fun _ _ => False) w.pool c) : ∃ e, c.trace = e :: w.pool.trace ∧
      ((c.state.docs = w.pool.state.docs ∧ Inv j calls ⟨c, w.effective⟩) ∨
        (c.state.docs ≠ w.pool.state.docs ∧ Inv j calls ⟨c, e.thread :: w.effective⟩)) := by
  obtain ⟨honest, did⟩ := inv.honest.step step
  cases did with
  | env never => exact never.elim
  | act e k next allowed does trace threads =>
    refine ⟨e, trace, ?_⟩
    have grows : Grows KEY w.pool.state c.state := .sem does
    have known : ∀ i, Known (Pool.past c.trace i) c.state := by
      rw [trace]
      exact known_act inv.stamped inv.known does
    cases allowed.effect (inv.known e.thread) does with
    | none same unwritten =>
      refine .inl ⟨by rw [same], honest, grows.stamped inv.stamped, known, ?_, inv.valid, inv.once, fun i effective => ?_,
        fun i was => ?_⟩
      · rw [same]
        exact inv.replayed
      · obtain ⟨answer, was, granted⟩ := inv.wrote i effective
        refine ⟨answer, ?_, granted⟩
        rw [trace]
        exact wrote_act.mpr (.inr was)
      · rw [trace] at was
        rcases wrote_act.mp was with ⟨-, now⟩ | before
        · exact absurd now unwritten
        · exact inv.confirmed i before
    | @write es answer makes written wrote denied first =>
      obtain ⟨applied, ok⟩ := makes.apply
      have new : e.thread ∉ w.effective := fun effective => by
        obtain ⟨answer, was, -⟩ := inv.wrote _ effective
        exact first answer was
      refine .inr ⟨?_, honest, grows.stamped inv.stamped, known, ?_, ⟨?_, inv.valid⟩, List.nodup_cons.mpr ⟨new, inv.once⟩,
        fun i effective => ?_, fun i was => ?_⟩
      · rw [written]
        exact docs_write_ne inv.stamped _
      · rw [listed, written, entries_write codec, applied, List.map_cons, replay, List.foldr_cons]
        exact congrArg _ inv.replayed
      · rw [← inv.replayed]
        exact ok
      · rw [trace]
        rcases List.mem_cons.mp effective with rfl | before
        · exact ⟨answer, wrote_act.mpr (.inl ⟨rfl, wrote⟩), denied⟩
        · obtain ⟨answer, was, granted⟩ := inv.wrote i before
          exact ⟨answer, wrote_act.mpr (.inr was), granted⟩
      · rw [trace] at was
        rcases wrote_act.mp was with ⟨rfl, -⟩ | before
        · exact List.mem_cons_self
        · exact List.mem_cons_of_mem _ (inv.confirmed i before)

private theorem Inv.step {j : Codec} (codec : j.RoundTrips) {calls : ι → Call} {w w' : World ι} (inv : Inv j calls w)
    (step : Step w w') : Inv j calls w' ∧ w.effective <:+ w'.effective := by
  cases step with
  | env changes => exact ⟨inv.env changes, List.suffix_refl _⟩
  | quiet step same =>
    obtain ⟨e, -, ⟨-, inv'⟩ | ⟨changed, -⟩⟩ := inv.act codec step
    · exact ⟨inv', List.suffix_refl _⟩
    · exact absurd same changed
  | effect step changed acted =>
    obtain ⟨e, trace, ⟨same, -⟩ | ⟨-, inv'⟩⟩ := inv.act codec step
    · exact absurd same changed
    · obtain rfl : e = _ := (List.cons.inj (trace.symm.trans acted)).1
      exact ⟨inv', List.suffix_cons _ _⟩

private theorem Inv.steps {j : Codec} (codec : j.RoundTrips) {calls : ι → Call} {w w' : World ι} (inv : Inv j calls w)
    (steps : Relation.ReflTransGen Step w w') : Inv j calls w' ∧ w.effective <:+ w'.effective := by
  induction steps with
  | refl => exact ⟨inv, List.suffix_refl _⟩
  | tail _ step ih =>
    obtain ⟨inv', newer⟩ := ih.1.step codec step
    exact ⟨inv', ih.2.trans newer⟩

/-! ### The registry -/

/-- What holds of the registry and of the answers at any moment. -/
structure Linear (j : Codec) (calls : ι → Call) (w : World ι) : Prop where
  /-- The registry is what the effective calls made of it, in their order, each allowed where it came. -/
  replayed : listed j w.pool.state = replay (w.effective.map calls)
  valid : Valid (w.effective.map calls)
  distinct : (listed j w.pool.state).Nodup
  /-- A call that says so changed the registry exactly once. -/
  changed : ∀ i a, w.pool.threads i = .ret a → a.Changed → w.effective.count i = 1
  /-- A call that says it did not never changed anything. -/
  refused : ∀ i a, w.pool.threads i = .ret a → a.Refused → i ∉ w.effective
  /-- Only a revocation undoes a grant, and only a grant a revocation. -/
  granted : ∀ newer i older a g, w.effective = newer ++ i :: older → calls i = .grant a g →
    a ∈ listed j w.pool.state ∨ ∃ k ∈ newer, calls k = .revoke a
  revoked : ∀ newer i older a, w.effective = newer ++ i :: older → calls i = .revoke a →
    a ∉ listed j w.pool.state ∨ ∃ k ∈ newer, ∃ g, calls k = .grant a g
  /-- Both questions are answered from the same list. -/
  agree : ∀ a, ∃ ids, (Prog.run exec (list_admins j) w.pool.state).1 = .ok ids ∧ ids = listed j w.pool.state ∧
    (Prog.run exec (is_admin j a) w.pool.state).1 = .ok (decide (a ∈ ids))

private theorem run_list_admins (j : Codec) (db : Db) : (Prog.run exec (list_admins j) db).1 = .ok (listed j db) := by
  unfold listed entries KEY
  cases stored : db.docs.get (REGISTRY_COL, REGISTRY_ID) <;> simp [list_admins, load_registry, exec, stored]

theorem run_is_admin (j : Codec) (a : String) (db : Db) :
    (Prog.run exec (is_admin j a) db).1 = .ok (decide (a ∈ listed j db)) := by
  have same : ((entries j db).any fun e => e.account_id == a) = decide (a ∈ listed j db) := by
    rw [Bool.eq_iff_iff]
    simp [listed]
  rw [← same]
  unfold entries KEY
  cases stored : db.docs.get (REGISTRY_COL, REGISTRY_ID) <;> simp [is_admin, load_registry, exec, stored]

private theorem Inv.linear {j : Codec} {calls : ι → Call} {w : World ι} (inv : Inv j calls w) : Linear j calls w where
  replayed := inv.replayed
  valid := inv.valid
  distinct := by
    rw [inv.replayed]
    exact inv.valid.nodup
  changed i a ends claims := by
    have tells := inv.honest i
    rw [ends] at tells
    exact List.count_eq_one_of_mem inv.once (inv.confirmed i (tells.changed claims))
  refused i a ends claims effective := by
    have tells := inv.honest i
    rw [ends] at tells
    obtain ⟨answer, was, granted⟩ := inv.wrote i effective
    exact granted (tells.refused claims answer was)
  granted newer i older a g sequence call := by
    have held : a ∈ replay (.grant a g :: older.map calls) := List.mem_append_right _ (List.mem_singleton_self a)
    rw [inv.replayed, sequence, List.map_append, List.map_cons, call]
    exact (mem_replay_append held).imp_right List.mem_map.mp
  revoked newer i older a sequence call := by
    have lacks : a ∉ replay (.revoke a :: older.map calls) := fun held => by simp [replay, Call.apply] at held
    rw [inv.replayed, sequence, List.map_append, List.map_cons, call]
    refine (not_mem_replay_append lacks).imp_right fun regranted => ?_
    obtain ⟨g, granted⟩ := regranted
    obtain ⟨k, newer, same⟩ := List.mem_map.mp granted
    exact ⟨k, newer, g, same⟩
  agree a := ⟨_, run_list_admins j _, rfl, run_is_admin j a _⟩

/-- The registry is linearisable and never emptied. -/
theorem registry_linearisable (j : Codec) (codec : j.RoundTrips) (calls : ι → Call) {w w' : World ι} (start : Start j calls w)
    (steps : Relation.ReflTransGen Step w w') : Linear j calls w' ∧
      ∀ w'', Relation.ReflTransGen Step w' w'' → listed j w'.pool.state ≠ [] → listed j w''.pool.state ≠ [] := by
  obtain ⟨inv, -⟩ := start.inv.steps codec steps
  refine ⟨inv.linear, fun w'' later some => ?_⟩
  obtain ⟨inv', newer⟩ := inv.steps codec later
  rw [inv'.replayed]
  refine inv'.valid.nonempty fun none => some ?_
  have blank : w'.effective = [] := List.suffix_nil.mp (List.map_eq_nil_iff.mp none ▸ newer)
  rw [inv.replayed, blank]
  rfl

/-! ### The registry as text -/

section text
open JsonText

def print_entry (e : AdminEntry) : List Char :=
  "\x7b\"account_id\":\"".toList ++ (quoted e.account_id ++ (",\"granted_by\":\"".toList ++ (quoted e.granted_by ++
    (",\"granted_at\":".toList ++ (number e.granted_at ++ ['\x7d'])))))

def read_entry (text : List Char) : Option (AdminEntry × List Char) := do
  let (account_id, text) ← unquote (← expect "\x7b\"account_id\":\"" text)
  let (granted_by, text) ← unquote (← expect ",\"granted_by\":\"" text)
  let (granted_at, text) ← unnumber (← expect ",\"granted_at\":" text)
  let text ← expect "\x7d" text
  some (⟨String.ofList account_id, String.ofList granted_by, granted_at⟩, text)

private theorem read_print_entry (e : AdminEntry) (rest : List Char) : read_entry (print_entry e ++ rest) = some (e, rest) := by
  have closing := expect_append "\x7d" rest
  rw [show "\x7d".toList = ['\x7d'] by simp, List.singleton_append] at closing
  have digits := unnumber_number e.granted_at (c := '\x7d') (by decide) rest
  unfold read_entry print_entry
  simp only [List.append_assoc, List.singleton_append, expect_append, unquote_quoted, digits, closing, Option.bind_eq_bind,
    Option.bind_some, String.ofList_toList]

/-- Entries with commas between them, and the closing bracket. -/
def print_rest : List AdminEntry → List Char
  | [] => [']']
  | [e] => print_entry e ++ [']']
  | e :: es => print_entry e ++ ',' :: print_rest es

def read_rest : Nat → List Char → Option (List AdminEntry)
  | 0, _ => none
  | n + 1, text => do
    let (e, text) ← read_entry text
    match text with
    | [']'] => some [e]
    | ',' :: rest => (e :: ·) <$> read_rest n rest
    | _ => none

private theorem read_print_rest {es : List AdminEntry} {n : Nat} (some : es ≠ []) (enough : es.length ≤ n) :
    read_rest n (print_rest es) = .some es := by
  induction es generalizing n with
  | nil => exact absurd rfl some
  | cons e es ih =>
    obtain ⟨m, rfl⟩ : ∃ m, n = m + 1 := ⟨n - 1, by simp at enough; omega⟩
    cases es with
    | nil => simp [print_rest, read_rest, read_print_entry]
    | cons e' es =>
      have tail := ih (n := m) (by simp) (by simpa using enough)
      simp [print_rest, read_rest, read_print_entry, tail]

private theorem length_print_rest (es : List AdminEntry) : es.length ≤ (print_rest es).length := by
  induction es with
  | nil => simp
  | cons e es ih =>
    cases es with
    | nil => simp [print_rest]
    | cons e' es =>
      simp only [print_rest, List.length_cons, List.length_append] at ih ⊢
      omega

/-- The entries as the serializer writes them. -/
def registry : Codec where
  to_string entries := some (String.ofList ('[' :: print_rest entries))
  from_str text :=
    match text.toList with
    | ['[', ']'] => some []
    | '[' :: rest => read_rest rest.length rest
    | _ => none

example : registry.to_string [⟨"u1", "cli", 7⟩] =
    some "[\x7b\"account_id\":\"u1\",\"granted_by\":\"cli\",\"granted_at\":7\x7d]" := by decide +kernel

theorem registry_roundTrips : registry.RoundTrips := by
  intro es
  refine ⟨_, rfl, ?_⟩
  cases es with
  | nil => rfl
  | cons e es =>
    have read := read_print_rest (List.cons_ne_nil e es) (length_print_rest _)
    obtain ⟨tail, first⟩ : ∃ tail, print_rest (e :: es) = '\x7b' :: tail := by
      cases es <;> exact ⟨_, rfl⟩
    simp only [registry, String.toList_ofList]
    rw [first] at read ⊢
    exact read

end text

/-! ### Two grants at once -/

private theorem exists_step {w : World ι} {c : Pool Fs Db ι Answer} (step : Pool.Step sem (fun _ _ => False) w.pool c) :
    ∃ effective, Step w ⟨c, effective⟩ := by
  by_cases same : c.state.docs = w.pool.state.docs
  · exact ⟨_, .quiet step same⟩
  · have acted : ∃ e, c.trace = e :: w.pool.trace := by
      cases step with
      | act i next does => exact ⟨_, rfl⟩
      | env never => exact never.elim
    obtain ⟨e, acted⟩ := acted
    exact ⟨_, .effect step same acted⟩

private theorem exists_run {w : World ι} {c : Pool Fs Db ι Answer}
    (steps : Relation.ReflTransGen (Pool.Step sem fun _ _ => False) w.pool c) :
    ∃ effective, Relation.ReflTransGen Step w ⟨c, effective⟩ := by
  induction steps with
  | refl => exact ⟨_, .refl⟩
  | tail _ step ih =>
    obtain ⟨earlier, run⟩ := ih
    obtain ⟨effective, step⟩ := exists_step (w := ⟨_, earlier⟩) step
    exact ⟨effective, run.tail step⟩

/-- Two administrators are granted before there is a registry. -/
def twoGrants (i : Fin 2) : Call := if i = 0 then .grant "u1" "cli" else .grant "u2" "cli"

def twoGrants.start : World (Fin 2) := ⟨⟨{ clock := 7 }, fun i => (twoGrants i).run registry, []⟩, []⟩

/-- They take turns, the first one first. -/
def twoGrants.last : Pool Fs Db (Fin 2) Answer := Pool.schedule exec twoGrants.start.pool (Pool.turns [0, 1, 0, 1, 0, 1])

private theorem twoGrants.started : Start registry twoGrants twoGrants.start where
  stamped k doc stored := by cases stored
  absent := rfl
  threads i := rfl
  trace := rfl
  effective := rfl

private theorem twoGrants.ran : ∃ effective, Relation.ReflTransGen Step twoGrants.start ⟨twoGrants.last, effective⟩ := by
  refine exists_run (Relation.ReflTransGen.mono (fun c c' step => ?_) _ _ (Pool.schedule_steps exec (fun _ _ => False) _ _))
  exact step.mono (fun _ _ _ _ does => .inl does) (fun _ _ => id)

/-- One of the two grants is made, and the other finds a conflict. -/
theorem registry_linearisable_two : ∃ effective, Relation.ReflTransGen Step twoGrants.start ⟨twoGrants.last, effective⟩ ∧
    (twoGrants.last.threads 0).result = some (.grant (.ok .Granted)) ∧
    (twoGrants.last.threads 1).result = some (.grant (.ok .Conflict)) ∧
    listed registry twoGrants.last.state = ["u1"] ∧ Linear registry twoGrants ⟨twoGrants.last, effective⟩ := by
  obtain ⟨effective, steps⟩ := twoGrants.ran
  refine ⟨effective, steps, ?_, ?_, ?_, ?_⟩
  · rfl
  · rfl
  · decide +kernel
  · exact (registry_linearisable registry registry_roundTrips twoGrants twoGrants.started steps).1

end RustOp.admin_store
