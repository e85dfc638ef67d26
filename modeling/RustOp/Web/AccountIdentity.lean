import RustOp.Effects.Directory
import RustOp.Web.AccountAdmin
import RustOp.Web.SiteReference

/-!
The identifier of an account over whole runs, one request after the other. It is
chosen when a registration begins and written when it ends, and an index leads
from it back to the address. Index and accounts agree unless a registration ends
after another one gave its address a different identifier.
-/
namespace RustOp.Web.AccountIdentity
open RustOp.Effects RustOp.Firestore registration account_admin

/-! ### What is stored -/

/-- The fields of an account that identify it. -/
def known (db : Db) (email : String) : Option (Option String × Option String) :=
  (db.docs.get (.accounts, email)).map fun doc => (field_str doc.fields "credentialId", field_str doc.fields "accountId")

/-- The identifier in the account of an address. -/
def account_id (db : Db) (email : String) : Option String := (known db email).bind Prod.snd

/-- The address that the index has for an identifier. -/
def indexed (db : Db) (u : String) : Option String :=
  (db.docs.get (.accountsByUuid, u)).bind fun doc => field_str doc.fields "email"

/-- The document is a challenge to register an address under an identifier. -/
def Registers (doc : Doc) (email u : String) : Prop :=
  ∃ t, Ceremony.from_fields doc.fields = some t ∧ t.kind = .Reg ∧ t.email = email ∧ t.account_id = u

/-- A registration of the address was begun with the identifier and may still end. -/
def Opened (db : Db) (email u : String) : Prop :=
  ∃ c doc, db.docs.get (.webauthnChallenges, c) = some doc ∧ Registers doc email u

/-- The accounts as a directory. -/
def directory (db : Db) : Directory String String := ⟨account_id db, indexed db, Opened db⟩

/-- Every account has a passkey and an identifier. -/
def Whole (db : Db) : Prop := ∀ email k, known db email = some k → k.1.isSome = true ∧ k.2.isSome = true

/-- A document that has fields and is not expired. -/
def shown (db : Db) (key : Col × String) : Option Fields :=
  ((db.docs.get key).bind Db.readable).filter fun f => !expired_at f db.clock

/-- The address that a token proves. -/
def proved (db : Db) (token : String) : Option String :=
  if token_ok token then (shown db (.emailChallenges, token)).bind fun f => field_str f "email" else none

/-- The address and the page of an invitation. -/
def invitation (db : Db) (token : String) : Option (String × String) :=
  if token_ok token then
    (shown db (.emailChallenges, token)).bind fun f =>
      match field_str f "email", field_str f "returnTo" with
      | some e, some r => if r.isEmpty then none else some (e, r)
      | _, _ => none
  else none

/-- What a challenge was issued for. -/
def ceremony (db : Db) (challenge : String) : Option Ceremony :=
  if token_ok challenge then (shown db (.webauthnChallenges, challenge)).bind Ceremony.from_fields else none

def credential (db : Db) (email : String) : Option registration.Credential :=
  ((db.docs.get (.accounts, email)).bind Db.readable).bind Credential.from_fields

/-! ### The runs -/

/-- What may be asked of the provider. -/
inductive Event where
  | email_challenge (email : String)
  | invite (email return_to : String)
  | options (token : String)
  | verify (req : RegVerifyReq)
  | disable (actor email : String)
  | enable (actor email : String)
  | delete (actor email : String)

/-- The documents written for a request; its answer is sent. -/
def Event.run (p : Site) (uuid : Draw → String) : Event → Prog Fs Unit
  | .email_challenge email => do
    let _ ← create_email_challenge (uuid .email_token) email
  | .invite email return_to => do
    let _ ← create_invite_challenge (uuid .email_token) email return_to
  | .options token => do
    let _ ← register_passkey_options p uuid token
  | .verify req => do
    let _ ← register_passkey_verify p req
  | .disable actor email => do
    let _ ← disable_account uuid actor email
  | .enable actor email => do
    let _ ← enable_account uuid actor email
  | .delete actor email => do
    let _ ← delete_account uuid actor email

/-- The documents, and how many requests were served. -/
structure World where
  db : Db
  served : Nat

/-- A request served to its end. -/
def World.serve (ent : Entropy) (p : Site) (w : World) (event : Event) : World :=
  ⟨(Prog.run exec (event.run p (ent.uuid w.served)) w.db).2, w.served + 1⟩

/-- What identifies the accounts and the index stay, and no registration begins. -/
structure Kept (db db' : Db) : Prop where
  accounts : ∀ email, known db' email = known db email
  index : ∀ u, indexed db' u = indexed db u
  fewer : ∀ email u, Opened db' email u → Opened db email u

/-- A request is served to its end, or time passes and other requests are served:
    they may change any document as long as the accounts are kept. -/
inductive Step (ent : Entropy) (p : Site) : World → Option Event → World → Prop
  | serve (w : World) (event : Event) : Step ent p w (some event) (w.serve ent p event)
  | pass (w : World) (db : Db) (later : w.db.clock ≤ db.clock) (kept : Kept w.db db) : Step ent p w none ⟨db, w.served⟩

/-- The registration that a request ends: its token proves the address of the
    ceremony, and the response is accepted. -/
structure Ends (p : Site) (db : Db) (req : RegVerifyReq) (challenge : String) (outcome : webauthn.RegOutcome) (t : Ceremony) :
    Prop where
  firestore : p.has_firestore = true
  name : ∃ name, normalize_name req.name = .ok name
  token : proved db req.token = some t.email
  response : checked_response p req.response = some (challenge, .ok outcome)
  begun : ceremony db challenge = some t
  kind : t.kind = .Reg
  named : t.account_id.isEmpty = false

/-- A registration that ends without an invitation finds no account, or one with
    the identifier that the registration began with. -/
def Event.Agrees (p : Site) (db : Db) : Event → Prop
  | .verify req => ∀ challenge outcome t, Ends p db req challenge outcome t → invitation db req.token = none →
      account_id db t.email = none ∨ account_id db t.email = some t.account_id
  | _ => True

/-! ### What the operations answer -/

section answers
variable (db : Db)

/-- What is left once a document was read and deleted. -/
def spend (key : Col × String) : Db := if ((db.docs.get key).bind Db.readable).isSome then db.erase key else db

private theorem run_peek_invite (token : String) : Prog.run exec (peek_invite token) db = (.ok (invitation db token), db) := by
  unfold peek_invite invitation shown
  cases token_ok token with
  | false => rfl
  | true =>
    cases read : (db.docs.get (.emailChallenges, token)).bind Db.readable with
    | none => simp [exec, read]
    | some f =>
      cases late : expired_at f db.clock with
      | true => simp [exec, read, challenge_expired, late, Option.filter]
      | false =>
        simp only [Firestore.fs, Prog.call_bind, Bool.not_true, Bool.false_eq_true, ↓reduceIte, Prog.run_call, exec, read, challenge_expired,
          Prog.ret_bind, Prog.pure_eq, late, Option.filter, Bool.not_false, Option.bind_some]
        cases field_str f "email" <;> cases field_str f "returnTo" <;> rfl

private theorem run_peek_email_challenge (token : String) :
    Prog.run exec (peek_email_challenge token) db = (.ok (proved db token), db) := by
  unfold peek_email_challenge proved shown
  cases token_ok token with
  | false => rfl
  | true =>
    cases read : (db.docs.get (.emailChallenges, token)).bind Db.readable with
    | none => simp [exec, read]
    | some f => cases late : expired_at f db.clock <;> simp [exec, read, challenge_expired, late, Option.filter]

private theorem run_read_and_delete (col : Col) (id : String) :
    Prog.run exec (read_and_delete col id) db = (.ok (shown db (col, id)), spend db (col, id)) := by
  unfold read_and_delete shown spend
  cases read : (db.docs.get (col, id)).bind Db.readable with
  | none => simp [exec, read]
  | some f =>
    have clock : (db.erase (col, id)).clock = db.clock := rfl
    cases late : expired_at f db.clock <;> simp [exec, read, challenge_expired, clock, late, Option.filter]

private theorem run_consume_email_challenge (token : String) :
    Prog.run exec (consume_email_challenge token) db =
      (.ok (proved db token), if token_ok token then spend db (.emailChallenges, token) else db) := by
  unfold consume_email_challenge proved
  cases token_ok token with
  | false => rfl
  | true =>
    simp only [Bool.not_true, Bool.false_eq_true, ↓reduceIte, Prog.run_bind, run_read_and_delete]
    cases shown db (.emailChallenges, token) <;> rfl

private theorem run_consume_webauthn_challenge (challenge : String) :
    Prog.run exec (consume_webauthn_challenge challenge) db =
      (.ok (ceremony db challenge), if token_ok challenge then spend db (.webauthnChallenges, challenge) else db) := by
  unfold consume_webauthn_challenge ceremony
  cases token_ok challenge with
  | false => rfl
  | true =>
    simp only [Bool.not_true, Bool.false_eq_true, ↓reduceIte, Prog.run_bind, run_read_and_delete]
    cases shown db (.webauthnChallenges, challenge) <;> rfl

private theorem run_get_credential (email : String) :
    Prog.run exec (get_credential email) db = (.ok (credential db email), db) := rfl

private theorem run_create_webauthn_challenge (challenge : String) (t : Ceremony) :
    Prog.run exec (create_webauthn_challenge challenge t) db =
      (.ok challenge, db.write (.webauthnChallenges, challenge) (t.to_fields (db.clock + CEREMONY_TTL_SECS))) := rfl

private theorem run_account_exists (email : String) :
    Prog.run exec (account_exists email) db = (.ok ((db.docs.get (.accounts, email)).bind Db.readable).isSome, db) := rfl

end answers

/-! ### What the requests change -/

private theorem Kept.refl (db : Db) : Kept db db := ⟨fun _ => rfl, fun _ => rfl, fun _ _ => id⟩

private theorem Kept.trans {a b c : Db} (ab : Kept a b) (bc : Kept b c) : Kept a c where
  accounts email := (bc.accounts email).trans (ab.accounts email)
  index u := (bc.index u).trans (ab.index u)
  fewer email u opened := ab.fewer email u (bc.fewer email u opened)

/-- An operation that identifies no account and begins no registration. -/
def Quiet (o : FsOp) : Prop :=
  (∀ key, o.writes = some key → key.1 ≠ .accounts ∧ key.1 ≠ .accountsByUuid ∧
    (key.1 = .webauthnChallenges → o = .delete_doc key.1 key.2)) ∨
  ∃ email value, o = .update_field .accounts email "disabled" value

private theorem quiet_reads (o : FsOp) (reads : o.writes = none) : Quiet o := by
  refine .inl fun key writes => ?_
  rw [reads] at writes
  cases writes

private theorem field_set {f : Fields} {name field : String} (other : name ≠ field) (v : Value) :
    field_str (f.set field v) name = field_str f name := by
  rw [field_str, field_str, Table.get_set_ne _ other]

private theorem Quiet.kept {o : FsOp} (quiet : Quiet o) (db : Db) : Kept db (exec o db).2 := by
  rcases quiet with elsewhere | ⟨email, value, rfl⟩
  · refine ⟨fun email => ?_, fun u => ?_, ?_⟩
    · rw [known, exec_frame fun writes => (elsewhere _ writes).1 rfl, known]
    · rw [indexed, exec_frame fun writes => (elsewhere _ writes).2.1 rfl, indexed]
    · rintro email u ⟨c, doc, stored, registers⟩
      refine ⟨c, doc, ?_, registers⟩
      by_cases here : o.writes = some (.webauthnChallenges, c)
      · rw [(elsewhere _ here).2.2 rfl] at stored
        simp [exec, get_erase] at stored
      · rwa [exec_frame here] at stored
  · cases stored : db.docs.get (.accounts, email) with
    | none =>
      have same : (exec (.update_field .accounts email "disabled" value) db).2 = db := by simp only [exec, stored]
      rw [same]
      exact .refl db
    | some doc =>
      have written : (exec (.update_field .accounts email "disabled" value) db).2 =
          db.write (.accounts, email) (doc.fields.set "disabled" value) := by simp only [exec, stored]
      rw [written]
      refine ⟨fun e => ?_, fun u => ?_, ?_⟩
      · rw [known, known, get_write]
        split
        · rename_i here
          cases here
          rw [stored]
          simp only [Option.map_some]
          rw [field_set (by decide), field_set (by decide)]
        · rfl
      · rw [indexed, get_write, if_neg (by simp), indexed]
      · rintro e u ⟨c, doc, stored, registers⟩
        rw [get_write, if_neg (by simp)] at stored
        exact ⟨c, doc, stored, registers⟩

private theorem kept_of_uses {α : Type} {p : Prog Fs α} (uses : p.Uses Quiet) (db : Db) : Kept db (Prog.run exec p db).2 :=
  uses.preserves (I := Kept db) (fun _ _ quiet kept => kept.trans (quiet.kept _)) (.refl db)

private theorem quiet_token (token : String) (f : Fields) : Quiet (.set_doc .emailChallenges token f) := by
  refine .inl fun key writes => ?_
  cases writes
  simp

private theorem create_email_challenge_quiet (token email : String) : (create_email_challenge token email).Uses Quiet := by
  refine ⟨quiet_reads _ rfl, fun t => ⟨quiet_token _ _, fun r => ?_⟩⟩
  cases r <;> trivial

private theorem create_invite_challenge_quiet (token email return_to : String) :
    (create_invite_challenge token email return_to).Uses Quiet := by
  refine ⟨quiet_reads _ rfl, fun t => ⟨quiet_token _ _, fun r => ?_⟩⟩
  cases r <;> trivial

/-- An account was written for an address, and the index after it. -/
structure Registered (db : Db) (email u : String) (db' : Db) : Prop where
  accounts : ∃ id, ∀ e, known db' e = if e = email then some (some id, some u) else known db e
  index : ∀ v, indexed db' v = if v = u then some email else indexed db v
  fewer : ∀ e v, Opened db' e v → Opened db e v

private theorem Registered.between {a b c d : Db} {email u : String} (before : Kept a b) (registered : Registered b email u c)
    (after : Kept c d) : Registered a email u d := by
  obtain ⟨id, accounts⟩ := registered.accounts
  refine ⟨⟨id, fun e => ?_⟩, fun v => ?_, fun e v opened => ?_⟩
  · rw [after.accounts, accounts, before.accounts]
  · rw [after.index, registered.index, before.index]
  · exact before.fewer e v (registered.fewer e v (after.fewer e v opened))

section requests
variable {db : Db}

/-- What a credential says of an account, where every account has one. -/
private theorem Whole.known (whole : Whole db) (email : String) :
    known db email = (credential db email).map fun c => (some c.credential_id, some c.account_id) := by
  cases stored : db.docs.get (.accounts, email) with
  | none => simp [AccountIdentity.known, credential, stored]
  | some doc =>
    have here : AccountIdentity.known db email =
        some (field_str doc.fields "credentialId", field_str doc.fields "accountId") := by
      rw [AccountIdentity.known, stored]
      rfl
    obtain ⟨passkey, identified⟩ := whole email _ here
    obtain ⟨id, passkey⟩ := Option.isSome_iff_exists.mp passkey
    obtain ⟨u, identified⟩ := Option.isSome_iff_exists.mp identified
    have filled : doc.fields.entries.isEmpty = false := by
      cases entries : doc.fields.entries with
      | nil =>
        have empty : field_str doc.fields "credentialId" = none := by
          simp [field_str, Table.get, AList.lookup, entries]
        rw [empty] at passkey
        cases passkey
      | cons e rest => rfl
    simp only at passkey identified
    rw [here, credential, stored, Option.bind_some, Db.readable, if_neg (by simp [filled]), Option.bind_some,
      Credential.from_fields, passkey, identified]
    rfl

private theorem Whole.account_id (whole : Whole db) (email : String) :
    account_id db email = (credential db email).map Credential.account_id := by
  rw [AccountIdentity.account_id, whole.known]
  cases credential db email <;> rfl

private theorem Whole.unknown (whole : Whole db) {email : String}
    (absent : ((db.docs.get (.accounts, email)).bind Db.readable).isSome = false) : AccountIdentity.account_id db email = none := by
  have none : (db.docs.get (.accounts, email)).bind Db.readable = none := by simpa using absent
  rw [whole.account_id, credential, none]
  rfl

/-- An invitation proves its address. -/
private theorem invitation_proved {token e page : String} (invited : invitation db token = some (e, page)) :
    proved db token = some e := by
  unfold invitation at invited
  unfold proved
  split at invited
  · rename_i ok
    rw [if_pos ok]
    cases read : shown db (.emailChallenges, token) with
    | none => simp [read] at invited
    | some f =>
      rw [read, Option.bind_some] at invited
      rw [Option.bind_some]
      split at invited
      · rename_i named _
        split at invited
        · cases invited
        · cases invited
          exact named
      · cases invited
  · cases invited

/-- Whoever is not refused has no invitation, or there is no account. -/
private theorem refuse_invite_answer (whole : Whole db) (token : String) :
    Prog.Triple exec (· = db) (refuse_invite_for_registered token) fun r s => s = db ∧
      (r = none → ∀ email, proved db token = some email → invitation db token = none ∨ account_id db email = none) := by
  rintro _ rfl
  refine ⟨run_of_reads (refuse_invite_uses (fun _ => id) token) _, fun admitted email named => ?_⟩
  rename_i db
  simp only [refuse_invite_for_registered, Prog.run_bind, run_peek_invite] at admitted
  cases invited : invitation db token with
  | none => exact .inl rfl
  | some i =>
    obtain ⟨e, page⟩ := i
    obtain rfl : e = email := Option.some.inj ((invitation_proved invited).symm.trans named)
    refine .inr (whole.unknown ?_)
    rw [invited] at admitted
    simp only [Prog.run_bind, run_account_exists] at admitted
    cases exists_ : ((db.docs.get (.accounts, e)).bind Db.readable).isSome with
    | false => rfl
    | true =>
      rw [exists_] at admitted
      cases admitted

private theorem spend_docs (key k : Col × String) : (spend db key).docs.get k = db.docs.get k ∨ k = key ∧
    (spend db key).docs.get k = none := by
  unfold spend
  split
  · rw [get_erase]
    by_cases same : k = key
    · exact .inr ⟨same, if_pos same⟩
    · exact .inl (if_neg same)
  · exact .inl rfl

private theorem spend_kept {key : Col × String} (other : key.1 ≠ .accounts ∧ key.1 ≠ .accountsByUuid) :
    Kept db (spend db key) := by
  unfold spend
  split
  · refine Quiet.kept (o := .delete_doc key.1 key.2) (.inl ?_) db
    intro k writes
    cases writes
    exact ⟨other.1, other.2, fun _ => rfl⟩
  · exact .refl db

private theorem spend_clock (key : Col × String) : (spend db key).clock = db.clock := by
  unfold spend
  split <;> rfl

/-- A spent token leaves ceremonies as they are. -/
private theorem ceremony_spend (token challenge : String) :
    ceremony (spend db (.emailChallenges, token)) challenge = ceremony db challenge := by
  have same : (spend db (.emailChallenges, token)).docs.get (.webauthnChallenges, challenge) =
      db.docs.get (.webauthnChallenges, challenge) := by
    rcases @spend_docs db (.emailChallenges, token) (.webauthnChallenges, challenge) with same | ⟨here, -⟩
    · exact same
    · cases here
  rw [ceremony, ceremony, shown, shown, same, spend_clock]

/-- Saving a credential writes the account and its index. -/
private theorem save_credential_saves (email u : String) (c : webauthn.RegOutcome) :
    Prog.Triple exec (· = db) (save_credential email u c) fun r s => r = .ok () ∧ Registered db email u s := by
  rintro _ rfl
  rename_i db
  obtain ⟨disabled, written⟩ : ∃ disabled, (Prog.run exec (save_credential email u c) db).2 =
      (db.write (.accounts, email) (account_fields email u c db.clock disabled)).write (.accountsByUuid, u)
        (.ofEntries [("email", some (.string email))]) := ⟨_, rfl⟩
  refine ⟨rfl, ?_⟩
  rw [written]
  refine ⟨⟨c.credential_id, fun e => ?_⟩, fun v => ?_, ?_⟩
  · rw [known, known, get_write, if_neg (by simp), get_write]
    by_cases same : e = email
    · rw [if_pos (by rw [same]), if_pos same]
      simp [account_fields, Table.ofEntries, field_str, Table.get_put]
    · rw [if_neg (by simpa using same), if_neg same]
  · rw [indexed, indexed, get_write]
    by_cases same : v = u
    · rw [if_pos (by rw [same]), if_pos same]
      simp [Table.ofEntries, field_str, Table.get_put]
    · rw [if_neg (by simpa using same), get_write, if_neg (by simp), if_neg same]
  · rintro e v ⟨k, doc, stored, registers⟩
    rw [get_write, if_neg (by simp), get_write, if_neg (by simp)] at stored
    exact ⟨k, doc, stored, registers⟩

/-- Programs that keep the accounts. -/
private theorem keeps {α : Type} {p : Prog Fs α} (uses : p.Uses Quiet) : Prog.Triple exec (· = db) p fun _ s => Kept db s := by
  rintro _ rfl
  exact kept_of_uses uses _

private theorem save_name_keeps (u : String) (name : Option String) :
    Prog.Triple exec (· = db) (save_name u name) fun _ s => Kept db s :=
  keeps (save_name_uses quiet_reads (fun _ => .inl fun _ writes => by cases writes; simp) name)

/-- What the end of a registration does. -/
private theorem register_as_does (home : String) (name : Option String) (email : String)
    (response : Option (String × Except String webauthn.RegOutcome)) :
    Prog.Triple exec (· = db) (register_as home name email response) fun _ s => Kept db s ∨
      ∃ challenge outcome t, response = some (challenge, .ok outcome) ∧ ceremony db challenge = some t ∧ t.kind = .Reg ∧
        t.email = email ∧ t.account_id.isEmpty = false ∧ Registered db email t.account_id s := by
  rcases response with _ | ⟨challenge, verified⟩
  · exact .ret fun s here => .inl (here ▸ .refl db)
  · have spent : ∀ ok : Bool, Kept db (if ok then spend db (.webauthnChallenges, challenge) else db) := by
      intro ok
      cases ok
      · exact .refl db
      · exact spend_kept (by simp)
    refine Prog.Triple.bind (Q := fun r s => Kept db s ∧ r = .ok (ceremony db challenge)) ?_ fun r => ?_
    · rintro _ rfl
      rw [run_consume_webauthn_challenge]
      exact ⟨spent _, rfl⟩
    · rcases r with e | _ | t
      · exact .ret fun s known => .inl known.1
      · exact .ret fun s known => .inl known.1
      · refine fun s known => ?_
        obtain ⟨kept, found⟩ := known
        have found := (Except.ok.inj found).symm
        dsimp only
        split
        · exact .inl kept
        · rename_i fits
          simp only [not_or, ne_eq, not_not] at fits
          obtain ⟨kind, same, named⟩ := fits
          rcases verified with e | outcome
          · exact .inl kept
          · refine .inr ⟨challenge, outcome, t, rfl, found, kind, same, by simpa using named, ?_⟩
            obtain ⟨done, registered⟩ := save_credential_saves email t.account_id outcome s rfl
            rw [Prog.run_bind, done]
            dsimp only
            rw [Prog.run_bind]
            exact .between kept registered (save_name_keeps t.account_id name _ rfl)

/-- What a registration does that ends. -/
private theorem register_passkey_verify_does (whole : Whole db) (p : Site) (req : RegVerifyReq) :
    Prog.Triple exec (· = db) (register_passkey_verify p req) fun _ s => Kept db s ∨
      ∃ challenge outcome t, Ends p db req challenge outcome t ∧
        (invitation db req.token = none ∨ account_id db t.email = none) ∧ Registered db t.email t.account_id s := by
  unfold register_passkey_verify
  cases stored : p.has_firestore with
  | false => exact .ret fun s here => .inl (here ▸ .refl db)
  | true =>
    unfold register_with
    refine Prog.Triple.bind (refuse_invite_answer whole req.token) fun r => ?_
    rcases r with _ | r
    · cases name : normalize_name req.name with
      | error e => exact .ret fun s known => .inl (known.1 ▸ .refl db)
      | ok name' =>
        refine fun s known => ?_
        obtain ⟨rfl, uninvited⟩ := known
        have uninvited := uninvited rfl
        dsimp only
        rw [Prog.run_bind, run_of_reads (require_name_uses (fun _ => id) name' req.token)]
        cases (Prog.run exec (require_name name' req.token) s).1 with
        | some r => exact .inl (.refl s)
        | none =>
          dsimp only
          rw [Prog.run_bind, run_consume_email_challenge]
          obtain ⟨mid, spent, kept, same⟩ : ∃ mid, (if token_ok req.token then spend s (.emailChallenges, req.token) else s) = mid ∧
              Kept s mid ∧ ∀ c, ceremony mid c = ceremony s c := by
            split
            · exact ⟨_, rfl, spend_kept (by simp), ceremony_spend req.token⟩
            · exact ⟨_, rfl, .refl s, fun _ => rfl⟩
          rw [spent]
          cases named : proved s req.token with
          | none => exact .inl kept
          | some email =>
            rcases register_as_does (p.path "/") name' email (checked_response p req.response) mid rfl with
              further | ⟨challenge, outcome, t, response, found, kind, rfl, filled, registered⟩
            · exact .inl (kept.trans further)
            · have ends : Ends p s req challenge outcome t :=
                ⟨stored, ⟨name', name⟩, named, response, by rw [← same, found], kind, filled⟩
              exact .inr ⟨challenge, outcome, t, ends, uninvited t.email named, .between kept registered (.refl _)⟩
    · exact .ret fun s known => .inl (known.1 ▸ .refl db)

/-- A ceremony is read as it was written. -/
private theorem from_to_fields (t : Ceremony) (expires_at : Nat) : Ceremony.from_fields (t.to_fields expires_at) = some t := by
  simp [Ceremony.from_fields, Ceremony.to_fields, Table.ofEntries, Table.get_put, field_str]

private theorem chosen_own (whole : Whole db) (uuid : Draw → String) (email : String) :
    account_id db email = some (chosen_account_id uuid (credential db email)) ∨
      chosen_account_id uuid (credential db email) = uuid .account_id := by
  rw [whole.account_id]
  cases credential db email with
  | none => exact .inr rfl
  | some c =>
    cases named : c.account_id.isEmpty with
    | true => exact .inr (by simp [chosen_account_id, Option.filter, named])
    | false => exact .inl (by simp [chosen_account_id, Option.filter, named])

private theorem begins (email u challenge : String) (expires_at : Nat) :
    let written := db.write (.webauthnChallenges, challenge) (Ceremony.to_fields ⟨email, .Reg, "", u⟩ expires_at)
    (∀ e, known written e = known db e) ∧ (∀ v, indexed written v = indexed db v) ∧
      ∀ e v, Opened written e v → Opened db e v ∨ e = email ∧ v = u := by
  refine ⟨fun e => ?_, fun v => ?_, ?_⟩
  · rw [known, get_write, if_neg (by simp), known]
  · rw [indexed, get_write, if_neg (by simp), indexed]
  · rintro e v ⟨c, doc, stored, t, read, kind, named, numbered⟩
    rw [get_write] at stored
    split at stored
    · cases stored
      rw [from_to_fields] at read
      cases read
      exact .inr ⟨named.symm, numbered.symm⟩
    · exact .inl ⟨c, doc, stored, t, read, kind, named, numbered⟩

/-- What the beginning of a registration does: the identifier it draws or finds is
    promised to the address. -/
private theorem register_passkey_options_does (whole : Whole db) (p : Site) (uuid : Draw → String) (token : String) :
    Prog.Triple exec (· = db) (register_passkey_options p uuid token) fun _ s => Kept db s ∨
      ∃ email u, (account_id db email = some u ∨ u = uuid .account_id) ∧ (∀ e, known s e = known db e) ∧
        (∀ v, indexed s v = indexed db v) ∧ ∀ e v, Opened s e v → Opened db e v ∨ e = email ∧ v = u := by
  unfold register_passkey_options
  cases p.has_firestore with
  | false => exact .ret fun s here => .inl (here ▸ .refl db)
  | true =>
    refine Prog.Triple.bind (refuse_invite_answer whole token) fun r => ?_
    rcases r with _ | r
    · refine fun s here => ?_
      obtain ⟨rfl, -⟩ := here
      dsimp only
      rw [Prog.run_bind, run_peek_email_challenge]
      cases proved s token with
      | none => exact .inl (.refl s)
      | some email =>
        dsimp only
        rw [Prog.run_bind, run_get_credential]
        refine .inr ⟨email, chosen_account_id uuid (credential s email), chosen_own whole uuid email, ?_⟩
        rw [Prog.run_bind, run_create_webauthn_challenge]
        exact begins email _ _ _
    · exact .ret fun s known => .inl (known.1 ▸ .refl db)

/-! ### What administrators do -/

private theorem quiet_log (id : String) (f : Fields) : Quiet (.create_if_absent .auditLog id f) := by
  refine .inl fun key writes => ?_
  cases writes
  simp

private theorem quiet_revoke (col : Col) (id : String) (listed : col ∈ [Col.sessions, .accessTokens, .refreshTokens]) :
    Quiet (.delete_doc col id) := by
  refine .inl fun key writes => ?_
  cases writes
  refine ⟨?_, ?_, fun _ => rfl⟩ <;> rintro rfl <;> simp at listed

private theorem disable_account_quiet (uuid : Draw → String) (actor email : String) :
    (disable_account uuid actor email).Uses Quiet :=
  disable_account_uses quiet_reads quiet_log (.inr ⟨email, _, rfl⟩) quiet_revoke uuid actor

private theorem enable_account_quiet (uuid : Draw → String) (actor email : String) :
    (enable_account uuid actor email).Uses Quiet :=
  enable_account_uses quiet_reads quiet_log (.inr ⟨email, _, rfl⟩) uuid actor

/-- The account of an address and its place in the index are gone. -/
structure Removed (db : Db) (email u : String) (db' : Db) : Prop where
  accounts : ∀ e, known db' e = if e = email then none else known db e
  index : ∀ v, indexed db' v = if v = u then none else indexed db v
  fewer : ∀ e v, Opened db' e v → Opened db e v

private theorem Removed.between {a b c d : Db} {email u : String} (before : Kept a b) (removed : Removed b email u c)
    (after : Kept c d) : Removed a email u d := by
  refine ⟨fun e => ?_, fun v => ?_, fun e v opened => ?_⟩
  · rw [after.accounts, removed.accounts, before.accounts]
  · rw [after.index, removed.index, before.index]
  · exact before.fewer e v (removed.fewer e v (after.fewer e v opened))

private theorem run_delete_all (email u : String) :
    Prog.run exec (delete_all [(.fcmTokens, u), (.profiles, u), (.accountsByUuid, u), (.accounts, email)]) db =
      (.ok (), (((db.erase (.fcmTokens, u)).erase (.profiles, u)).erase (.accountsByUuid, u)).erase (.accounts, email)) := rfl

private theorem erases (email u : String) : Removed db email u
    ((((db.erase (.fcmTokens, u)).erase (.profiles, u)).erase (.accountsByUuid, u)).erase (.accounts, email)) := by
  refine ⟨fun e => ?_, fun v => ?_, ?_⟩
  · simp only [known, get_erase]
    by_cases same : e = email <;> simp [same]
  · simp only [indexed, get_erase]
    by_cases same : v = u <;> simp [same]
  · rintro e v ⟨c, doc, stored, registers⟩
    simp only [get_erase, Prod.mk.injEq, reduceCtorEq, false_and, ↓reduceIte] at stored
    exact ⟨c, doc, stored, registers⟩

/-- An account is deleted with the identifier it has. -/
private theorem delete_account_does (whole : Whole db) (uuid : Draw → String) (actor email : String) :
    Prog.Triple exec (· = db) (delete_account uuid actor email) fun _ s => Kept db s ∨
      ∃ u, account_id db email = some u ∧ Removed db email u s := by
  rintro _ rfl
  rename_i db
  unfold delete_account
  rw [Prog.run_bind, run_get_credential]
  cases found : credential db email with
  | none => exact .inl (.refl db)
  | some cred =>
    dsimp only
    split
    · exact .inl (.refl db)
    · refine .inr ⟨cred.account_id, by rw [whole.account_id, found]; rfl, ?_⟩
      rw [Prog.run_bind]
      have revoked := kept_of_uses (revoke_all_uses quiet_reads quiet_revoke cred.account_id) db
      generalize (Prog.run exec (revoke_all cred.account_id) db).1 = counts
      generalize (Prog.run exec (revoke_all cred.account_id) db).2 = mid at revoked ⊢
      rw [Prog.run_bind, run_delete_all]
      dsimp only
      rw [Prog.run_bind]
      exact .between revoked (erases email cred.account_id) (kept_of_uses (record_uses quiet_reads (quiet_log _) ..) _)

end requests

/-! ### Whole runs -/

section runs
variable {ent : Entropy} {p : Site} {w w' : World}

/-- What identifies an account was kept: so is the directory. -/
private theorem Kept.change {db db' : Db} (kept : Kept db db') (fresh leaving : String → Prop) :
    Directory.Change fresh leaving (directory db) (directory db') := by
  refine .keep (funext fun email => ?_) (funext kept.index) kept.fewer
  show account_id db' email = account_id db email
  rw [account_id, kept.accounts, account_id]

private theorem Kept.whole {db db' : Db} (kept : Kept db db') (whole : Whole db) : Whole db' := by
  intro email k stored
  rw [kept.accounts] at stored
  exact whole email k stored

private theorem Registered.change {db db' : Db} {email u : String} (registered : Registered db email u db')
    (opened : Opened db email u) (agrees : account_id db email = none ∨ account_id db email = some u)
    (fresh leaving : String → Prop) : Directory.Change fresh leaving (directory db) (directory db') := by
  obtain ⟨id, accounts⟩ := registered.accounts
  refine .enter email u opened agrees (funext fun e => ?_) (funext fun v => ?_) registered.fewer
  · show account_id db' e = Function.update (account_id db) email (some u) e
    rw [account_id, accounts]
    by_cases same : e = email
    · rw [same, if_pos rfl, Function.update_self]
      rfl
    · rw [if_neg same, Function.update_of_ne same]
      rfl
  · show indexed db' v = Function.update (indexed db) u (some email) v
    rw [registered.index]
    by_cases same : v = u
    · rw [same, if_pos rfl, Function.update_self]
    · rw [if_neg same, Function.update_of_ne same]

private theorem Registered.whole {db db' : Db} {email u : String} (registered : Registered db email u db') (whole : Whole db) :
    Whole db' := by
  obtain ⟨id, accounts⟩ := registered.accounts
  intro e k stored
  rw [accounts] at stored
  split at stored
  · cases stored
    exact ⟨rfl, rfl⟩
  · exact whole e k stored

private theorem Removed.change {db db' : Db} {email u : String} (removed : Removed db email u db')
    (held : account_id db email = some u) (fresh : String → Prop) {leaving : String → Prop} (leaves : leaving email) :
    Directory.Change fresh leaving (directory db) (directory db') := by
  refine .leave email u held leaves (funext fun e => ?_) (funext fun v => ?_) removed.fewer
  · show account_id db' e = Function.update (account_id db) email none e
    rw [account_id, removed.accounts]
    by_cases same : e = email
    · rw [same, if_pos rfl, Function.update_self]
      rfl
    · rw [if_neg same, Function.update_of_ne same]
      rfl
  · show indexed db' v = Function.update (indexed db) u none v
    rw [removed.index]
    by_cases same : v = u
    · rw [same, if_pos rfl, Function.update_self]
    · rw [if_neg same, Function.update_of_ne same]

private theorem Removed.whole {db db' : Db} {email u : String} (removed : Removed db email u db') (whole : Whole db) : Whole db' := by
  intro e k stored
  rw [removed.accounts] at stored
  split at stored
  · cases stored
  · exact whole e k stored

/-- The ceremony that a registration ends was begun. -/
private theorem Ends.opened {db : Db} {req : RegVerifyReq} {challenge : String} {outcome : webauthn.RegOutcome} {t : Ceremony}
    (ends : Ends p db req challenge outcome t) : Opened db t.email t.account_id := by
  have found := ends.begun
  unfold ceremony at found
  split at found
  · obtain ⟨f, read, parsed⟩ := Option.bind_eq_some_iff.mp found
    obtain ⟨read, -⟩ := Option.filter_eq_some_iff.mp read
    obtain ⟨doc, stored, fields⟩ := Option.bind_eq_some_iff.mp read
    unfold Db.readable at fields
    split at fields
    · cases fields
    · cases fields
      exact ⟨challenge, doc, stored, t, parsed, ends.kind, rfl, rfl⟩
  · cases found

/-- Every request changes the directory as a directory may change. -/
private theorem Event.change {db : Db} (whole : Whole db) (uuid : Draw → String) {event : Event} (agrees : event.Agrees p db)
    (fresh leaving : String → Prop) (new : fresh (uuid .account_id))
    (leaves : ∀ actor email, event = .delete actor email → leaving email) :
    Whole (Prog.run exec (event.run p uuid) db).2 ∧
      Directory.Change fresh leaving (directory db) (directory (Prog.run exec (event.run p uuid) db).2) := by
  have same : ∀ {db' : Db}, Kept db db' → Whole db' ∧ Directory.Change fresh leaving (directory db) (directory db') :=
    fun kept => ⟨kept.whole whole, kept.change _ _⟩
  cases event with
  | email_challenge email =>
    simp only [Event.run, Prog.run_bind]
    exact same (kept_of_uses (create_email_challenge_quiet _ email) db)
  | invite email return_to =>
    simp only [Event.run, Prog.run_bind]
    exact same (kept_of_uses (create_invite_challenge_quiet _ email return_to) db)
  | options token =>
    simp only [Event.run, Prog.run_bind]
    rcases register_passkey_options_does whole p uuid token db rfl with kept | ⟨email, u, own, accounts, index, one⟩
    · exact same kept
    · refine ⟨fun e k stored => ?_, .promise email u ?_ (funext fun e => ?_) (funext index) one⟩
      · rw [Prog.pure_eq, Prog.run_ret, accounts] at stored
        exact whole e k stored
      · rcases own with held | drawn
        · exact .inl held
        · rw [drawn]
          exact .inr new
      · show account_id _ e = account_id db e
        rw [account_id, Prog.pure_eq, Prog.run_ret, accounts, account_id]
  | verify req =>
    simp only [Event.run, Prog.run_bind]
    rcases register_passkey_verify_does whole p req db rfl with kept | ⟨challenge, outcome, t, ends, uninvited, registered⟩
    · exact same kept
    · refine ⟨registered.whole whole, registered.change ends.opened ?_ _ _⟩
      rcases uninvited with uninvited | absent
      · exact agrees challenge outcome t ends uninvited
      · exact .inl absent
  | disable actor email =>
    simp only [Event.run, Prog.run_bind]
    exact same (kept_of_uses (disable_account_quiet uuid actor email) db)
  | enable actor email =>
    simp only [Event.run, Prog.run_bind]
    exact same (kept_of_uses (enable_account_quiet uuid actor email) db)
  | delete actor email =>
    simp only [Event.run, Prog.run_bind]
    rcases delete_account_does whole uuid actor email db rfl with kept | ⟨u, held, removed⟩
    · exact same kept
    · exact ⟨removed.whole whole, removed.change held _ (leaves actor email rfl)⟩

/-- The identifiers that were drawn so far. -/
def Drawn (ent : Entropy) (served : Nat) (u : String) : Prop := ∃ j < served, u = ent.uuid j .account_id

/-- What holds in every state. -/
structure Inv (ent : Entropy) (w : World) : Prop where
  whole : Whole w.db
  sound : (directory w.db).Sound (Drawn ent w.served)

/-- A step changes the directory with the identifiers it draws. -/
private theorem Step.change {label : Option Event} (step : Step ent p w label w') (whole : Whole w.db)
    (agrees : ∀ event ∈ label, event.Agrees p w.db) : Whole w'.db ∧ w.served ≤ w'.served ∧
      Directory.Change (fun u => ∃ j, w.served ≤ j ∧ j < w'.served ∧ u = ent.uuid j .account_id)
        (fun email => ∃ actor, label = some (.delete actor email)) (directory w.db) (directory w'.db) := by
  cases step with
  | serve event =>
    obtain ⟨whole, change⟩ := Event.change whole (ent.uuid w.served) (agrees event rfl)
      (fun u => ∃ j, w.served ≤ j ∧ j < w.served + 1 ∧ u = ent.uuid j .account_id)
      (fun email => ∃ actor, some event = some (.delete actor email))
      ⟨w.served, le_rfl, Nat.lt_succ_self _, rfl⟩ fun actor email deletes => ⟨actor, congrArg some deletes⟩
    exact ⟨whole, Nat.le_succ _, change⟩
  | pass db later kept => exact ⟨kept.whole whole, le_rfl, kept.change _ _⟩

private theorem Inv.step {label : Option Event} (inv : Inv ent w) (step : Step ent p w label w')
    (agrees : ∀ event ∈ label, event.Agrees p w.db) : Inv ent w' := by
  obtain ⟨whole, later, change⟩ := step.change inv.whole agrees
  refine ⟨whole, inv.sound.step change ?_ ?_ ?_⟩
  · rintro u ⟨j, notBefore, -, rfl⟩ ⟨j', before, same⟩
    obtain ⟨rfl, -⟩ := ent.distinct same
    omega
  · rintro u ⟨j, before, rfl⟩
    exact ⟨j, by omega, rfl⟩
  · rintro u ⟨j, -, before, rfl⟩
    exact ⟨j, before, rfl⟩

/-- Nothing is registered. -/
structure Blank (db : Db) : Prop where
  accounts : ∀ email, db.docs.get (.accounts, email) = none
  index : ∀ u, db.docs.get (.accountsByUuid, u) = none
  ceremonies : ∀ c, db.docs.get (.webauthnChallenges, c) = none

private theorem Blank.inv {db : Db} (blank : Blank db) (ent : Entropy) (served : Nat) : Inv ent ⟨db, served⟩ := by
  have unknown : ∀ email, known db email = none := by
    intro email
    rw [known, blank.accounts]
    rfl
  refine ⟨fun email k stored => ?_, Directory.Blank.sound ⟨fun email => ?_, fun u => ?_, ?_⟩ _⟩
  · rw [unknown] at stored
    cases stored
  · show account_id db email = none
    rw [account_id, unknown]
    rfl
  · show indexed db u = none
    rw [indexed, blank.index]
    rfl
  · rintro email u ⟨c, doc, stored, -⟩
    rw [blank.ceremonies] at stored
    cases stored

/-- A step in which a registration that ends agrees with the account that is there. -/
def Agreeing (ent : Entropy) (p : Site) (w w' : World) : Prop :=
  ∃ label, Step ent p w label w' ∧ ∀ event ∈ label, event.Agrees p w.db

/-- Any number of tokens, registrations, freezes and deletions, one request after
    the other: as long as a registration that ends agrees with the account that is
    there, the index is exact, an identifier belongs to one address, and an address
    keeps its identifier until its account is deleted. -/
theorem identity_kept (ent : Entropy) (p : Site) {db : Db} (blank : Blank db) (served : Nat)
    (steps : Relation.ReflTransGen (Agreeing ent p) ⟨db, served⟩ w) :
    (∀ u email, indexed w.db u = some email ↔ account_id w.db email = some u) ∧
    (∀ email email' u, account_id w.db email = some u → account_id w.db email' = some u → email = email') ∧
    ∀ label w' email u, Step ent p w label w' → (∀ event ∈ label, event.Agrees p w.db) → account_id w.db email = some u →
      account_id w'.db email = some u ∨ account_id w'.db email = none ∧ ∃ actor, label = some (.delete actor email) := by
  have inv : Inv ent w := by
    induction steps with
    | refl => exact blank.inv ent served
    | tail _ step inv =>
      obtain ⟨label, step, agrees⟩ := step
      exact inv.step step agrees
  refine ⟨inv.sound.exact, fun email email' u => inv.sound.unique, fun label w' email u step agrees held => ?_⟩
  obtain ⟨-, -, change⟩ := step.change inv.whole agrees
  exact change.holds held

end runs

/-! ### Two tokens -/

/-- The tokens and the challenges of two registrations. -/
def tokenOf (i : Nat) : String := Entropy.unary.uuid (30 + i) .email_token
def challengeOf (i : Nat) : String := Entropy.unary.uuid (32 + i) .challenge

/-- The end of a registration. -/
def verify (i : Nat) : Event := .verify ⟨tokenOf i, Reference.registrationResponse (challengeOf i), none⟩

/-- Two tokens are sent to an address, and a registration begins with each of them. -/
def begun : World :=
  [.email_challenge "a@x", .email_challenge "a@x", .options (tokenOf 0), .options (tokenOf 1)].foldl
    (World.serve .unary Reference.site) ⟨{ clock := 1000 }, 30⟩

private theorem blank : Blank { clock := 1000 } := ⟨fun _ => rfl, fun _ => rfl, fun _ => rfl⟩

private theorem checked (i : Nat) (early : i < 2) :
    checked_response Reference.site (Reference.registrationResponse (challengeOf i)) = some (challengeOf i, .ok Reference.passkey) := by
  refine Reference.response_checked ?_
  interval_cases i <;> decide +kernel

/-- The end of a registration with what the check of its response gives. -/
private theorem serve_verify (w : World) (i : Nat) (early : i < 2) :
    w.serve .unary Reference.site (verify i) =
      ⟨(Prog.run exec (register_with "/" (tokenOf i) (.ok none) (some (challengeOf i, .ok Reference.passkey))) w.db).2,
        w.served + 1⟩ := by
  have home : Reference.site.path "/" = "/" := by decide +kernel
  have stored : Reference.site.has_firestore = true := rfl
  have program : register_passkey_verify Reference.site ⟨tokenOf i, Reference.registrationResponse (challengeOf i), none⟩ =
      register_with "/" (tokenOf i) (.ok none) (some (challengeOf i, .ok Reference.passkey)) := by
    unfold register_passkey_verify
    rw [stored, home, checked i early]
    rfl
  rw [World.serve, verify, Event.run, program, Prog.run_bind]
  rfl

private theorem begun_steps : Relation.ReflTransGen (Agreeing .unary Reference.site) ⟨{ clock := 1000 }, 30⟩ begun := by
  have serves : ∀ w event, (∀ db, event.Agrees Reference.site db) →
      Agreeing .unary Reference.site w (w.serve .unary Reference.site event) := by
    intro w event agrees
    refine ⟨some event, .serve w event, ?_⟩
    rintro _ ⟨⟩
    exact agrees w.db
  refine .tail (.tail (.tail (.tail .refl (serves _ _ ?_)) (serves _ _ ?_)) (serves _ _ ?_)) (serves _ _ ?_) <;>
    exact fun _ => trivial

private theorem first_ends (challenge : String) (outcome : webauthn.RegOutcome) (t : Ceremony)
    (ends : Ends Reference.site begun.db ⟨tokenOf 0, Reference.registrationResponse (challengeOf 0), none⟩ challenge outcome t) :
    account_id begun.db t.email = none := by
  have response := ends.response
  rw [checked 0 (by omega)] at response
  cases response
  have begin : ceremony begun.db (challengeOf 0) = some ⟨"a@x", .Reg, "", Entropy.unary.uuid 32 .account_id⟩ := by
    decide +kernel
  have found := ends.begun
  rw [begin] at found
  cases found
  decide +kernel

private theorem first_registered : account_id (begun.serve .unary Reference.site (verify 0)).db "a@x" =
    some (Entropy.unary.uuid 32 .account_id) := by
  rw [serve_verify _ 0 (by omega)]
  decide +kernel

/-- The first registration to end enters the address. -/
theorem identity_kept_first : indexed (begun.serve .unary Reference.site (verify 0)).db (Entropy.unary.uuid 32 .account_id) =
    some "a@x" := by
  have step : Agreeing .unary Reference.site begun (begun.serve .unary Reference.site (verify 0)) := by
    refine ⟨some (verify 0), .serve begun _, ?_⟩
    rintro _ ⟨⟩ challenge outcome t ends -
    exact .inl (first_ends challenge outcome t ends)
  exact ((identity_kept .unary Reference.site blank 30 (.tail begun_steps step)).1 _ _).mpr first_registered

/-- The second one gives it another identifier. The index keeps both. -/
theorem identity_replaced : ∃ w w' : World,
    Relation.ReflTransGen (fun w w' => ∃ label, Step .unary Reference.site w label w') ⟨{ clock := 1000 }, 30⟩ w ∧
    Step .unary Reference.site w (some (verify 1)) w' ∧
    account_id w.db "a@x" = some (Entropy.unary.uuid 32 .account_id) ∧
    account_id w'.db "a@x" = some (Entropy.unary.uuid 33 .account_id) ∧
    indexed w'.db (Entropy.unary.uuid 32 .account_id) = some "a@x" := by
  have steps : Relation.ReflTransGen (fun w w' => ∃ label, Step .unary Reference.site w label w') ⟨{ clock := 1000 }, 30⟩ begun :=
    Relation.ReflTransGen.mono (fun _ _ step => step.imp fun _ => And.left) _ _ begun_steps
  refine ⟨_, _, steps.tail ⟨_, .serve begun (verify 0)⟩, .serve _ (verify 1), first_registered, ?_, ?_⟩
  · rw [serve_verify _ 1 (by omega), serve_verify _ 0 (by omega)]
    decide +kernel
  · rw [serve_verify _ 1 (by omega), serve_verify _ 0 (by omega)]
    decide +kernel

end RustOp.Web.AccountIdentity
