import RustOp.Firestore.Footprint
import RustOp.Grants

/-!
Single-use records. Whoever spends one reads it, finds it unspent, and writes it
under the condition that nobody wrote it since; so however the callers
interleave and whichever of their requests fail, at most one of them succeeds.
-/
namespace RustOp.Firestore
open RustOp.Effects RustOp.Text

/-! ### The records -/

/-- A record and the way it is spent: a code is taken, a refresh token marked
    used, a mandate consumed, a backchannel request decided or its approval
    redeemed, an initial access token deleted. -/
inductive Credential where
  | code (c : String)
  | refresh (t : String)
  | mandate (t : String)
  | decision (r : String)
  | approval (r : String)
  | iat (hash : String)

namespace Credential

def key : Credential → Col × String
  | .code c => (.authCodes, c)
  | .refresh t => (.refreshTokens, t)
  | .mandate t => (.accessTokens, t)
  | .decision r => (.cibaRequests, r)
  | .approval r => (.cibaRequests, r)
  | .iat hash => (.dcrTokens, hash)

/-- A document that was spent. -/
def spentFields : Credential → Fields → Bool
  | .code _, f => (field_bool f "used").getD false
  | .refresh _, f => (field_bool f "used").getD false
  | .mandate _, f => (field_bool f "mandateConsumed").getD false
  | .decision _, f => CibaStatus.parse ((field_str f "status").getD "pending") ≠ .Pending
  | .approval _, _ => false
  | .iat _, _ => false

/-- Whether a missing document counts as spent. Codes are not deleted, so one
    without a document was never saved. -/
def goneIsSpent : Credential → Bool
  | .code _ => false
  | _ => true

def Spent (cred : Credential) (db : Db) : Prop :=
  match db.docs.get cred.key with
  | some doc => cred.spentFields doc.fields = true
  | none => cred.goneIsSpent = true

/-- The request that spends the record, answered with success. -/
def Pays (cred : Credential) : (o : FsOp) → o.Res → Prop
  | .set_doc_if_unchanged col id _ _, r => (col, id) = cred.key ∧ r = .ok true ∧
      (match cred with | .approval _ => False | .iat _ => False | _ => True)
  | .delete_doc_if_unchanged col id _, r => (col, id) = cred.key ∧ r = .ok true ∧
      (match cred with | .approval _ => True | .iat _ => True | _ => False)
  | _, _ => False

/-- What a step may do while the record is watched: it does not unspend it, and
    spends it at most from unspent. -/
def Rely (cred : Credential) (db db' : Db) : Prop := Grows cred.key db db' ∧ (cred.Spent db → cred.Spent db')

def Keeps (cred : Credential) : Guarantee Fs Db := fun o db r db' =>
  cred.Rely db db' ∧ (cred.Pays o r → ¬ cred.Spent db ∧ cred.Spent db')

/-- The document was last seen with these fields at this time. -/
def Known (cred : Credential) (f : Fields) (time : Nat) (db : Db) : Prop :=
  Stamped db ∧ time ≤ db.writes ∧ ∀ doc, db.docs.get cred.key = some doc → doc.update_time = time → doc.fields = f

variable (cred : Credential)

theorem stable_stamped : Stable cred.Rely Stamped := fun _ _ step stamped => step.1.stamped stamped

theorem stable_known (f : Fields) (time : Nat) : Stable cred.Rely (cred.Known f time) := by
  rintro db db' ⟨grows, -⟩ ⟨stamped, old, same⟩
  refine ⟨grows.stamped stamped, old.trans grows.writes, fun doc stored timed => ?_⟩
  exact same doc (grows.unchanged doc stored (timed ▸ old)) timed

/-- A request that leaves the record alone, or deletes it for good. -/
def Harmless (o : FsOp) : Prop :=
  o.writes ≠ some cred.key ∨ (∃ col id, o = .delete_doc col id) ∧ cred.goneIsSpent = true

variable {cred}

theorem pays_writes {o : FsOp} {r : o.Res} (pays : cred.Pays o r) : o.writes = some cred.key ∧ ∀ col id, o ≠ .delete_doc col id := by
  cases o with
  | set_doc_if_unchanged col id f time => exact ⟨congrArg some pays.1, fun _ _ => by simp⟩
  | delete_doc_if_unchanged col id time => exact ⟨congrArg some pays.1, fun _ _ => by simp⟩
  | _ => exact pays.elim

private theorem spent_congr {db db' : Db} (same : db'.docs.get cred.key = db.docs.get cred.key) :
    cred.Spent db' ↔ cred.Spent db := by
  unfold Spent
  rw [same]

/-- What holds of the effect of a request holds however it is answered. -/
private theorem spent_of_exec {o : FsOp} {db db' : Db} {r : o.Res} (does : sem o db r db')
    (keeps : cred.Spent db → cred.Spent (exec o db).2) (spent : cred.Spent db) : cred.Spent db' := by
  rcases does with ran | ⟨-, rfl | rfl⟩
  · have after := keeps spent
    rwa [ran] at after
  · exact spent
  · exact keeps spent

/-- A request that may be made at any time. -/
def Honest (cred : Credential) (o : FsOp) : Prop := ∀ db r db', sem o db r db' → cred.Keeps o db r db'

theorem honest_of_harmless {o : FsOp} (harmless : cred.Harmless o) : cred.Honest o := by
  intro db r db' does
  refine ⟨⟨.sem does, spent_of_exec does fun spent => ?_⟩, fun pays => ?_⟩
  · rcases harmless with other | ⟨⟨col, id, rfl⟩, gone⟩
    · exact (spent_congr (exec_frame other db)).mpr spent
    · by_cases same : (col, id) = cred.key
      · have erased : (exec (.delete_doc col id) db).2.docs.get cred.key = none := by
          rw [← same]
          exact Table.get_remove_self _ _
        simpa [Spent, erased] using gone
      · exact (spent_congr (Table.get_remove_ne _ (Ne.symm same))).mpr spent
  · obtain ⟨written, notDelete⟩ := pays_writes pays
    rcases harmless with other | ⟨⟨col, id, rfl⟩, -⟩
    · exact absurd written other
    · exact absurd rfl (notDelete col id)

/-- Linking tokens to a code leaves its use alone. -/
private theorem honest_link (c code access_token : String) (refresh_token : Option String) :
    (Credential.code c).Honest (.merge_doc .authCodes code (FirestoreStore.link_fields access_token refresh_token)) := by
  intro db r db' does
  refine ⟨⟨.sem does, spent_of_exec does fun spent => ?_⟩, fun pays => pays.elim⟩
  by_cases same : c = code
  · subst same
    unfold Spent at spent ⊢
    cases stored : db.docs.get (Credential.code c).key with
    | none => simp [stored, goneIsSpent] at spent
    | some doc =>
      rw [stored] at spent
      have merged : (exec (.merge_doc .authCodes c (FirestoreStore.link_fields access_token refresh_token)) db).2.docs.get
          (Credential.code c).key =
          some ⟨doc.fields.merge (FirestoreStore.link_fields access_token refresh_token), db.writes + 1⟩ := by
        simp only [exec, Db.write, key] at stored ⊢
        rw [Table.get_set_self, stored]
        rfl
      rw [merged]
      simpa [spentFields, field_bool, Table.get_merge, FirestoreStore.link_fields, Table.ofEntries, Table.get_put] using spent
  · have other : (FsOp.merge_doc .authCodes code (FirestoreStore.link_fields access_token refresh_token)).writes ≠
        some (Credential.code c).key := by
      simp [FsOp.writes, key, Ne.symm same]
    exact (spent_congr (exec_frame other db)).mpr spent

/-- A conditional delete deletes a document that was there. -/
private theorem honest_cas_delete (gone : cred.goneIsSpent = true) (col : Col) (id : String) (time : Nat) :
    cred.Honest (.delete_doc_if_unchanged col id time) := by
  have absent : ∀ db : Db, (col, id) = cred.key → (db.erase (col, id)).docs.get cred.key = none := by
    intro db same
    rw [← same]
    exact Table.get_remove_self _ _
  by_cases same : (col, id) = cred.key
  · intro db r db' does
    refine ⟨⟨.sem does, spent_of_exec does fun spent => ?_⟩, fun pays => ?_⟩
    · simp only [exec]
      split
      · simpa [Spent, absent db same] using gone
      · exact spent
    · obtain ⟨-, rfl, kind⟩ := pays
      rcases does with ran | ⟨⟨e, failed⟩, -⟩
      · simp only [exec] at ran
        split at ran
        · rename_i current
          obtain ⟨doc, stored, -⟩ := Db.unchanged_iff.mp current
          cases ran
          refine ⟨?_, by simpa [Spent, absent db same] using gone⟩
          rw [same] at stored
          cases cred <;> simp_all [Spent, spentFields]
        · cases ran
      · cases failed
  · exact honest_of_harmless (.inl (by simpa [FsOp.writes] using same))

/-- A conditional write does not bring back a redeemed approval. -/
private theorem honest_cas_approval (q : String) (col : Col) (id : String) (f : Fields) (time : Nat) :
    (Credential.approval q).Honest (.set_doc_if_unchanged col id f time) := by
  by_cases same : (col, id) = (Credential.approval q).key
  · intro db r db' does
    refine ⟨⟨.sem does, spent_of_exec does fun spent => ?_⟩, fun pays => pays.2.2.elim⟩
    simp only [exec]
    split
    · rename_i current
      obtain ⟨doc, stored, -⟩ := Db.unchanged_iff.mp current
      rw [same] at stored
      simp [Spent, stored, spentFields] at spent
    · exact spent
  · exact honest_of_harmless (.inl (by simpa [FsOp.writes] using same))

/-! ### Contracts -/

section contracts
variable {α : Type}

private theorem contract_of_honest {allowed : FsOp → Prop} (honest : ∀ o, allowed o → cred.Honest o) {p : Prog Fs α}
    (uses : p.Uses allowed) : Prog.Contract sem cred.Rely cred.Keeps Stamped p fun _ => Stamped :=
  .of_uses cred.stable_stamped (fun o s r s' ok stamped does => by
    have keeps := honest o ok s r s' does
    exact ⟨keeps, keeps.1.1.stamped stamped⟩) uses

/-- Reading tells what the document is until its next write. -/
private theorem contract_read (cred : Credential) {k : Except String (Option (Fields × Nat)) → Prog Fs α} {Q : α → Db → Prop}
    (failed : ∀ e, Prog.Contract sem cred.Rely cred.Keeps Stamped (k (.error e)) Q)
    (none : Prog.Contract sem cred.Rely cred.Keeps Stamped (k (.ok none)) Q)
    (found : ∀ f time, Prog.Contract sem cred.Rely cred.Keeps (cred.Known f time) (k (.ok (some (f, time)))) Q) :
    Prog.Contract sem cred.Rely cred.Keeps Stamped (.call (.get_doc_with_update_time cred.key.1 cred.key.2) k) Q := by
  intro db r db' stamped does
  have harmless : cred.Harmless (.get_doc_with_update_time cred.key.1 cred.key.2) := .inl (by simp [FsOp.writes])
  have keeps := honest_of_harmless harmless db r db' does
  have stamped' := keeps.1.1.stamped stamped
  refine ⟨keeps, ?_⟩
  rcases does with ran | ⟨⟨e, rfl⟩, -⟩
  · simp only [exec, Prod.mk.injEq] at ran
    obtain ⟨rfl, rfl⟩ := ran
    cases stored : db.docs.get (cred.key.1, cred.key.2) with
    | none => exact ⟨Stamped, cred.stable_stamped, stamped', none⟩
    | some doc =>
      refine ⟨_, cred.stable_known doc.fields doc.update_time, ⟨stamped, stamped _ _ stored, ?_⟩, found _ _⟩
      intro doc' stored' _
      obtain rfl := Option.some.inj (stored.symm.trans stored')
      rfl
  · exact ⟨Stamped, cred.stable_stamped, stamped', failed e⟩

/-- A reading of the clock keeps what is known. -/
private theorem contract_now (cred : Credential) {k : Nat → Prog Fs α} {Q : α → Db → Prop} {f : Fields} {time : Nat}
    (rest : ∀ now, Prog.Contract sem cred.Rely cred.Keeps (cred.Known f time) (k now) Q) :
    Prog.Contract sem cred.Rely cred.Keeps (cred.Known f time) (.call .now k) Q := by
  intro db r db' known does
  have harmless : cred.Harmless .now := .inl (by simp [FsOp.writes])
  have keeps := honest_of_harmless harmless db r db' does
  exact ⟨keeps, _, cred.stable_known f time, cred.stable_known f time _ _ keeps.1 known, rest r⟩

/-- Writing a spent document over the unspent one that was read. -/
private theorem contract_cas (cred : Credential) {f f' : Fields} {time : Nat} (unspent : cred.spentFields f = false)
    (spends : cred.spentFields f' = true) {k : Except String Bool → Prog Fs α} {Q : α → Db → Prop}
    (rest : ∀ r, Prog.Contract sem cred.Rely cred.Keeps Stamped (k r) Q) :
    Prog.Contract sem cred.Rely cred.Keeps (cred.Known f time)
      (.call (.set_doc_if_unchanged cred.key.1 cred.key.2 f' time) k) Q := by
  rintro db r db' ⟨stamped, -, same⟩ does
  have written : cred.Spent (db.write (cred.key.1, cred.key.2) f') := by
    unfold Spent
    rw [show (db.write (cred.key.1, cred.key.2) f').docs.get cred.key = some ⟨f', db.writes + 1⟩ from
      Table.get_set_self _ _ _]
    exact spends
  have kept : cred.Rely db db' := by
    refine ⟨.sem does, spent_of_exec does fun spent => ?_⟩
    simp only [exec]
    split
    · exact written
    · exact spent
  refine ⟨⟨kept, fun pays => ?_⟩, Stamped, cred.stable_stamped, kept.1.stamped stamped, rest r⟩
  obtain ⟨-, rfl, -⟩ := pays
  rcases does with ran | ⟨⟨e, failed⟩, -⟩
  · simp only [exec] at ran
    split at ran
    · rename_i current
      obtain ⟨doc, stored, timed⟩ := Db.unchanged_iff.mp current
      cases ran
      refine ⟨?_, written⟩
      unfold Spent
      rw [show db.docs.get cred.key = some doc from stored]
      dsimp only
      rw [same doc stored timed, unspent]
      decide
    · cases ran
  · cases failed

private theorem contract_done {P : Db → Prop} (a : α) (stamped : ∀ db, P db → Stamped db) :
    Prog.Contract sem cred.Rely cred.Keeps P (.ret a) fun _ => Stamped := stamped

private theorem known_stamped {f : Fields} {time : Nat} (db : Db) (known : cred.Known f time db) : Stamped db := known.1

end contracts

/-- The operation does not save the record anew, nor decides for `Pending`,
    which no handler does. -/
def Spares : Credential → BackendOp → Prop
  | .code c, .store (.save_code x) => x.code ≠ c
  | .refresh t, .store (.save_refresh_token x) => x.token ≠ t
  | .mandate t, .store (.save_access_token x) => x.token ≠ t
  | .decision r, .ciba (.create id ..) => id ≠ r
  | .decision r, .ciba (.transition_if_pending id status) => id = r → status ≠ .Pending
  | .approval r, .ciba (.create id ..) => id ≠ r
  | _, _ => True

private theorem delete_named_uses {allowed : FsOp → Prop} {col : Col} (deletes : ∀ t, allowed (.delete_doc col t))
    (t : Option String) : (FirestoreStore.delete_named col t).Uses allowed := by
  cases t with
  | none => trivial
  | some t => exact ⟨deletes t, fun _ => trivial⟩

private theorem take_code_contract (c : String) :
    Prog.Contract sem (Credential.code c).Rely (Credential.code c).Keeps Stamped (FirestoreStore.take_code c)
      fun _ => Stamped := by
  refine contract_read (.code c) (fun e => ?_) ?_ fun f time => ?_
  · exact contract_done _ fun _ stamped => stamped
  · exact contract_done _ fun _ stamped => stamped
  · dsimp only [Prog.bind]
    cases used : (field_bool f "used").getD false with
    | true =>
      have access : ∀ t, (Credential.code c).Honest (.delete_doc .accessTokens t) :=
        fun t => honest_of_harmless (.inl (by simp [FsOp.writes, key]))
      have refresh : ∀ t, (Credential.code c).Honest (.delete_doc .refreshTokens t) :=
        fun t => honest_of_harmless (.inl (by simp [FsOp.writes, key]))
      refine Prog.Contract.weaken ?_ known_stamped
      refine contract_of_honest (fun _ honest => honest) ?_
      exact (delete_named_uses access _).bind fun _ => (delete_named_uses refresh _).bind fun _ => trivial
    | false =>
      refine contract_cas (.code c) used (by simp [spentFields, field_bool]) fun r => ?_
      rcases r with e | ⟨_ | _⟩ <;> exact contract_done _ fun _ stamped => stamped

private theorem mark_refresh_used_contract (t : String) (next : Option String) :
    Prog.Contract sem (Credential.refresh t).Rely (Credential.refresh t).Keeps Stamped
      (FirestoreStore.mark_refresh_used t next) fun _ => Stamped := by
  refine contract_read (.refresh t) (fun e => ?_) ?_ fun f time => ?_
  · exact contract_done _ fun _ stamped => stamped
  · exact contract_done _ fun _ stamped => stamped
  · dsimp only [Prog.bind]
    cases used : (field_bool f "used").getD false with
    | true => exact contract_done _ known_stamped
    | false =>
      refine contract_cas (.refresh t) used (by simp [spentFields, field_bool, Table.get_put]) fun r => ?_
      cases r <;> exact contract_done _ fun _ stamped => stamped

private theorem consume_mandate_contract (t : String) :
    Prog.Contract sem (Credential.mandate t).Rely (Credential.mandate t).Keeps Stamped
      (FirestoreStore.consume_mandate_if_unused t) fun _ => Stamped := by
  refine contract_read (.mandate t) (fun e => ?_) ?_ fun f time => ?_
  · exact contract_done _ fun _ stamped => stamped
  · exact contract_done _ fun _ stamped => stamped
  · refine contract_now (.mandate t) fun now => ?_
    dsimp only [Prog.bind, Prog.pure_eq]
    cases expired_at f now with
    | true => exact contract_done _ known_stamped
    | false =>
      cases used : (field_bool f "mandateConsumed").getD false with
      | true => exact contract_done _ known_stamped
      | false =>
        refine contract_cas (.mandate t) used (by simp [spentFields, field_bool]) fun r => ?_
        exact contract_done _ fun _ stamped => stamped

private theorem transition_contract (q : String) {status : CibaStatus} (decided : status ≠ .Pending) :
    Prog.Contract sem (Credential.decision q).Rely (Credential.decision q).Keeps Stamped
      (FirestoreCibaStore.transition_if_pending q status) fun _ => Stamped := by
  refine contract_read (.decision q) (fun e => ?_) ?_ fun f time => ?_
  · exact contract_done _ fun _ stamped => stamped
  · exact contract_done _ fun _ stamped => stamped
  · dsimp only [Prog.bind]
    by_cases pending : (BackchannelAuthRequest.from_fields q f).status = .Pending
    · rw [if_neg (not_not.mpr pending)]
      have parsed : CibaStatus.parse ((field_str f "status").getD "pending") = .Pending := pending
      have unspent : (Credential.decision q).spentFields f = false := by simp [spentFields, parsed]
      have spends : (Credential.decision q).spentFields
          (BackchannelAuthRequest.fields { BackchannelAuthRequest.from_fields q f with status }) = true := by
        simpa [spentFields, BackchannelAuthRequest.fields, field_str, Table.ofEntries, Table.get_put] using decided
      exact contract_cas (.decision q) unspent spends fun r => contract_done _ fun _ stamped => stamped
    · rw [if_pos pending]
      exact contract_done _ known_stamped

/-- The operation may write the record other than by deleting it. -/
inductive Touches : Credential → BackendOp → Prop where
  | take_code (c : String) : Touches (.code c) (.store (.take_code c))
  | link (c at_ : String) (rt : Option String) : Touches (.code c) (.store (.link_issued_tokens c at_ rt))
  | mark (t : String) (next : Option String) : Touches (.refresh t) (.store (.mark_refresh_used t next))
  | consume_mandate (t : String) : Touches (.mandate t) (.store (.consume_mandate_if_unused t))
  | decide (q : String) (status : CibaStatus) : Touches (.decision q) (.ciba (.transition_if_pending q status))
  | decided (q : String) : Touches (.decision q) (.ciba (.consume_if_approved q))
  | approve (q : String) (status : CibaStatus) : Touches (.approval q) (.ciba (.transition_if_pending q status))
  | redeem (q : String) : Touches (.approval q) (.ciba (.consume_if_approved q))

private theorem harmless_write {cred : Credential} {f : FsOp} {k : Col × String} (writes : f.writes = some k)
    (other : k ≠ cred.key) : cred.Harmless f := by
  refine .inl fun same => other ?_
  exact Option.some.inj (writes.symm.trans same)

private theorem harmless_delete (cred : Credential) {col : Col} (notCode : col ≠ .authCodes) (id : String) :
    cred.Harmless (.delete_doc col id) := by
  cases cred with
  | code c => exact .inl (by simp [FsOp.writes, key, notCode])
  | _ => exact .inr ⟨⟨col, id, rfl⟩, rfl⟩

/-- Every other operation writes other documents, or deletes this one. -/
private theorem harmless_of_footprint {cred : Credential} {o : BackendOp} {f : FsOp} (spares : cred.Spares o)
    (other : ¬ cred.Touches o) (writes : Footprint o f) : cred.Harmless f := by
  cases o with
  | store o =>
    cases o with
    | take_code c =>
      rcases writes with own | ⟨t, rfl⟩ | ⟨t, rfl⟩
      · exact harmless_write own (by cases cred <;> grind [key, Touches])
      · exact harmless_delete cred (by decide) t
      · exact harmless_delete cred (by decide) t
    | revoke_access_token t => exact writes ▸ harmless_delete cred (by decide) t
    | revoke_refresh_token t => exact writes ▸ harmless_delete cred (by decide) t
    | revoke_refresh_family start =>
      obtain ⟨t, rfl⟩ := writes
      exact harmless_delete cred (by decide) t
    | get_interaction | get_session | get_access_token | get_refresh_token | sweep_expired => exact writes.elim
    | _ => exact harmless_write writes (by cases cred <;> grind [key, Spares, Touches])
  | ciba o =>
    cases o with
    | delete r => exact writes ▸ harmless_delete cred (by decide) r
    | sweep_expired account =>
      rcases writes with ⟨r, rfl⟩ | ⟨r, history⟩
      · exact harmless_delete cred (by decide) r
      · exact harmless_write history (by cases cred <;> simp [key])
    | get | list_pending | list_history => exact writes.elim
    | _ => exact harmless_write writes (by cases cred <;> grind [key, Spares, Touches])
  | now => exact writes.elim

private theorem consume_if_approved_contract {cred : Credential} (gone : cred.goneIsSpent = true) (q : String) :
    Prog.Contract sem cred.Rely cred.Keeps Stamped (FirestoreCibaStore.consume_if_approved q) fun _ => Stamped := by
  refine contract_of_honest (fun _ honest => honest) ?_
  refine ⟨honest_of_harmless (.inl (by simp [FsOp.writes])), fun answer => ?_⟩
  rcases answer with e | ⟨_ | ⟨f, time⟩⟩
  · trivial
  · trivial
  · dsimp only [Prog.bind, Prog.pure_eq]
    split
    · trivial
    · refine ⟨honest_cas_delete gone _ _ _, fun won => ?_⟩
      rcases won with e | ⟨_ | _⟩ <;> trivial

private theorem transition_contract_approval (r q : String) (status : CibaStatus) :
    Prog.Contract sem (Credential.approval r).Rely (Credential.approval r).Keeps Stamped
      (FirestoreCibaStore.transition_if_pending q status) fun _ => Stamped := by
  refine contract_of_honest (fun _ honest => honest) ?_
  refine ⟨honest_of_harmless (.inl (by simp [FsOp.writes])), fun answer => ?_⟩
  rcases answer with e | ⟨_ | ⟨f, time⟩⟩
  · trivial
  · trivial
  · dsimp only [Prog.bind, Prog.pure_eq]
    split
    · trivial
    · exact ⟨honest_cas_approval r _ _ _ _, fun _ => trivial⟩

/-- The operations that write the record keep the contract. -/
private theorem touching_contract {cred : Credential} {o : BackendOp} (spares : cred.Spares o) (touches : cred.Touches o) :
    Prog.Contract sem cred.Rely cred.Keeps Stamped (production o) fun _ => Stamped := by
  cases touches with
  | take_code c => exact take_code_contract c
  | link c at_ rt => exact contract_of_honest (fun _ honest => honest) ⟨honest_link c c at_ rt, fun _ => trivial⟩
  | mark t next => exact mark_refresh_used_contract t next
  | consume_mandate t => exact consume_mandate_contract t
  | decide q status => exact transition_contract q (spares rfl)
  | decided q => exact consume_if_approved_contract rfl q
  | approve q status => exact transition_contract_approval q q status
  | redeem q => exact consume_if_approved_contract rfl q

/-- A storage operation that does not save the record anew keeps the contract. -/
theorem production_contract {cred : Credential} {o : BackendOp} (spares : cred.Spares o) :
    Prog.Contract sem cred.Rely cred.Keeps Stamped (production o) fun _ => Stamped := by
  by_cases touches : cred.Touches o
  · exact touching_contract spares touches
  · refine contract_of_honest (fun f within => honest_of_harmless ?_) (production_uses o)
    rcases within with reads | writes
    · exact .inl (by simp [reads])
    · exact harmless_of_footprint spares touches writes

/-- Consuming an initial access token keeps every contract. -/
theorem consume_iat_contract (cred : Credential) (hash : String) (update_time : Nat) :
    Prog.Contract sem cred.Rely cred.Keeps Stamped (dcr_store.consume_iat hash update_time) fun _ => Stamped := by
  refine contract_of_honest (fun _ honest => honest) ⟨?_, fun _ => trivial⟩
  cases cred with
  | code c => exact honest_of_harmless (.inl (by simp [FsOp.writes, key]))
  | _ => exact honest_cas_delete rfl _ _ _

/-! ### Successes -/

/-- The answer of an operation that says it spent the record. -/
def Success : Credential → (o : BackendOp) → o.Res → Prop
  | .code c, .store (.take_code x), r => x = c ∧ r.isSome = true
  | .refresh t, .store (.mark_refresh_used x _), r => x = t ∧ r = true
  | .mandate t, .store (.consume_mandate_if_unused x), r => x = t ∧ r = .ok true
  | .decision q, .ciba (.transition_if_pending x _), r => x = q ∧ r = .ok true
  | .approval q, .ciba (.consume_if_approved x), r => x = q ∧ ∃ req, r = .ok (some req)
  | _, _, _ => False

private theorem success_touches {cred : Credential} {o : BackendOp} {r : o.Res} (won : cred.Success o r) :
    cred.Touches o := by
  unfold Success at won
  split at won
  · exact won.1 ▸ .take_code _
  · exact won.1 ▸ .mark _ _
  · exact won.1 ▸ .consume_mandate _
  · exact won.1 ▸ .decide _ _
  · exact won.1 ▸ .redeem _
  · exact won.elim

private theorem take_code_pays (c : String) :
    (FirestoreStore.take_code c).Pays (Credential.code c).Pays ((Credential.code c).Success (.store (.take_code c))) := by
  have lost : ∀ {answer : Option AuthorizationCode}, answer = none → ¬ (c = c ∧ answer.isSome = true) := by
    rintro _ rfl ⟨-, won⟩
    cases won
  intro answer
  rcases answer with e | ⟨_ | ⟨f, time⟩⟩
  · exact .inr (lost rfl)
  · exact .inr (lost rfl)
  · refine .inr ?_
    dsimp only [Prog.bind]
    split
    · exact Prog.Pays.after _ fun _ => Prog.Pays.after _ fun _ => lost rfl
    · intro won
      rcases won with e | ⟨_ | _⟩
      · exact .inr (lost rfl)
      · exact .inr (lost rfl)
      · exact .inl ⟨rfl, rfl, trivial⟩

private theorem mark_refresh_used_pays (t : String) (next : Option String) :
    (FirestoreStore.mark_refresh_used t next).Pays (Credential.refresh t).Pays
      ((Credential.refresh t).Success (.store (.mark_refresh_used t next))) := by
  have lost : ¬ (t = t ∧ false = true) := by simp
  intro answer
  rcases answer with e | ⟨_ | ⟨f, time⟩⟩
  · exact .inr lost
  · exact .inr lost
  · refine .inr ?_
    dsimp only [Prog.bind]
    split
    · exact lost
    · intro won
      rcases won with e | ⟨_ | _⟩
      · exact .inr lost
      · exact .inr lost
      · exact .inl ⟨rfl, rfl, trivial⟩

private theorem consume_mandate_pays (t : String) :
    (FirestoreStore.consume_mandate_if_unused t).Pays (Credential.mandate t).Pays
      ((Credential.mandate t).Success (.store (.consume_mandate_if_unused t))) := by
  have lost : ∀ {answer : Except String Bool}, answer ≠ .ok true → ¬ (t = t ∧ answer = .ok true) :=
    fun not won => not won.2
  intro answer
  rcases answer with e | ⟨_ | ⟨f, time⟩⟩
  · exact .inr (lost (by simp))
  · exact .inr (lost (by simp))
  · refine .inr fun now => .inr ?_
    dsimp only [Prog.bind, Prog.pure_eq]
    split
    · exact lost (by simp)
    · split
      · exact lost (by simp)
      · intro won
        rcases won with e | ⟨_ | _⟩
        · exact .inr (lost (by simp))
        · exact .inr (lost (by simp))
        · exact .inl ⟨rfl, rfl, trivial⟩

private theorem transition_pays (q : String) (status : CibaStatus) :
    (FirestoreCibaStore.transition_if_pending q status).Pays (Credential.decision q).Pays
      ((Credential.decision q).Success (.ciba (.transition_if_pending q status))) := by
  have lost : ∀ {answer : Except String Bool}, answer ≠ .ok true → ¬ (q = q ∧ answer = .ok true) :=
    fun not won => not won.2
  intro answer
  rcases answer with e | ⟨_ | ⟨f, time⟩⟩
  · exact .inr (lost (by simp))
  · exact .inr (lost (by simp))
  · refine .inr ?_
    dsimp only [Prog.bind]
    split
    · exact lost (by simp)
    · intro won
      rcases won with e | ⟨_ | _⟩
      · exact .inr (lost (by simp))
      · exact .inr (lost (by simp))
      · exact .inl ⟨rfl, rfl, trivial⟩

private theorem consume_if_approved_pays (q : String) :
    (FirestoreCibaStore.consume_if_approved q).Pays (Credential.approval q).Pays
      ((Credential.approval q).Success (.ciba (.consume_if_approved q))) := by
  have lost : ∀ {answer : Except String (Option BackchannelAuthRequest)}, (∀ req, answer ≠ .ok (some req)) →
      ¬ (q = q ∧ ∃ req, answer = .ok (some req)) := fun not won => won.2.elim not
  intro answer
  rcases answer with e | ⟨_ | ⟨f, time⟩⟩
  · exact .inr (lost (by simp))
  · exact .inr (lost (by simp))
  · refine .inr ?_
    dsimp only [Prog.bind]
    split
    · exact lost (by simp)
    · intro won
      rcases won with e | ⟨_ | _⟩
      · exact .inr (lost (by simp))
      · exact .inr (lost (by simp))
      · exact .inl ⟨rfl, rfl, trivial⟩

/-- Only the conditional write or delete of the record answers with success. -/
theorem production_pays (cred : Credential) (o : BackendOp) : (production o).Pays cred.Pays (cred.Success o) := by
  by_cases touches : cred.Touches o
  · cases touches with
    | take_code c => exact take_code_pays c
    | mark t next => exact mark_refresh_used_pays t next
    | consume_mandate t => exact consume_mandate_pays t
    | decide q status => exact transition_pays q status
    | redeem q => exact consume_if_approved_pays q
    | link | decided | approve => exact .of_never (fun _ => id) _
  · exact .of_never (fun _ won => touches (success_touches won)) _

end Credential
end RustOp.Firestore
