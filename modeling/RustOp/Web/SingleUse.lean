import RustOp.Effects.History
import RustOp.Web.Ciba
import RustOp.Web.SiteReference

/-!
Challenges and address tokens are consumed by reading and then deleting them. Of
all who do that at once only one succeeds, as long as every deletion still finds
the document, which is what a conditional deletion would check. What a ceremony
grants then happens at most once.
-/
namespace RustOp.Web.SingleUse
open RustOp.Effects RustOp.Firestore registration

/-- What a ceremony consumes. -/
inductive Ticket where
  | challenge (c : String)
  | token (t : String)

def Ticket.col : Ticket → Col
  | .challenge _ => .webauthnChallenges
  | .token _ => .emailChallenges

def Ticket.id : Ticket → String
  | .challenge c => c
  | .token t => t

def Ticket.key (k : Ticket) : Col × String := (k.col, k.id)

/-- The deletion of a ticket. -/
@[reducible] def Ticket.delete (k : Ticket) : FsOp := .delete_doc k.col k.id

/-- Who consumes a ticket, on its own or as part of a request. -/
inductive Caller where
  | consume_webauthn_challenge (challenge : String)
  | consume_email_challenge (token : String)
  | login_passkey_verify (uuid : Draw → String) (uid : String) (req : AuthVerifyReq)
  | ciba_approve (auth_req_id : String) (req : AuthVerifyReq)
  | register_passkey_verify (req : RegVerifyReq)

inductive Answer where
  | ceremony (r : Except String (Option Ceremony))
  | address (r : Except String (Option String))
  | session (r : Option String × Response)
  | response (r : Response)

def Caller.run (p : Site) (jwks : String → String → Option JwkPub) : Caller → Prog Fs Answer
  | .consume_webauthn_challenge c => return .ceremony (← registration.consume_webauthn_challenge c)
  | .consume_email_challenge t => return .address (← registration.consume_email_challenge t)
  | .login_passkey_verify uuid uid req =>
    return .session (← (Web.login_passkey_verify p uuid uid req).lower (production jwks))
  | .ciba_approve auth_req_id req => return .response (← (Web.ciba_approve p auth_req_id req).lower (production jwks))
  | .register_passkey_verify req => return .response (← Web.register_passkey_verify p req)

/-- The tickets a caller shows. An assertion shows the challenge that was signed. -/
def Caller.Presents (p : Site) : Caller → Ticket → Prop
  | .consume_webauthn_challenge c, .challenge c' => c = c'
  | .consume_email_challenge t, .token t' => t = t'
  | .login_passkey_verify _ _ req, .challenge c => webauthn.extract_challenge p req.client_data_json = some c
  | .ciba_approve _ req, .challenge c => webauthn.extract_challenge p req.client_data_json = some c
  | .register_passkey_verify req, .challenge c => webauthn.extract_challenge p req.response.client_data_json = some c
  | .register_passkey_verify req, .token t => req.token = t
  | _, _ => False

/-- The caller was given what it asked for. -/
def Answer.got : Answer → Bool
  | .ceremony (.ok (some _)) => true
  | .address (.ok (some _)) => true
  | _ => false

/-- A session is opened, a request is approved or a credential is saved. -/
def grants : FsOp → Bool
  | .set_doc .sessions _ _ => true
  | .set_doc_if_unchanged .cibaRequests _ _ _ => true
  | .set_doc .accounts _ _ => true
  | _ => false

variable {ι : Type}

/-- Anything else may happen, but a ticket is never issued again. -/
def Elsewhere (k : Ticket) (db db' : Db) : Prop :=
  db'.docs.get k.key = db.docs.get k.key ∨ db'.docs.get k.key = none

/-- A deletion of the ticket finds it and takes effect. -/
def Finds (k : Ticket) (c c' : Pool Fs Db ι Answer) : Prop :=
  ∀ i r, c'.trace = ⟨i, k.delete, r⟩ :: c.trace →
    (c.state.docs.get k.key).isSome = true ∧ c'.state.docs.get k.key = none

/-- Callers about to begin. -/
def pool (p : Site) (jwks : String → String → Option JwkPub) (callers : ι → Caller) (db : Db) : Pool Fs Db ι Answer :=
  ⟨db, fun i => (callers i).run p jwks, []⟩

/-! ### What a caller does -/

/-- Nothing was granted yet. -/
def Clean (past : Past Fs) : Prop := ∀ e ∈ past, grants e.1 = false

/-- The caller has deleted the ticket. -/
def Paid (k : Ticket) (past : Past Fs) : Prop := ∃ r, ⟨k.delete, r⟩ ∈ past

/-- The operations of a caller. It writes nothing to a ticket, and grants once,
    after it deleted the ticket it shows. -/
structure Lawful (k : Ticket) (presents : Prop) (past : Past Fs) (o : FsOp) : Prop where
  keeps : o.writes = some k.key → o = k.delete
  backed : grants o = true → presents → Paid k past
  single : grants o = true → Clean past

/-- An operation that neither touches the ticket nor grants. -/
def Quiet (k : Ticket) (o : FsOp) : Prop := o.writes ≠ some k.key ∧ grants o = false

/-- Whoever is here may grant. -/
structure Ready (k : Ticket) (presents : Prop) (past : Past Fs) : Prop where
  clean : Clean past
  paid : presents → Paid k past

section callers
variable {k : Ticket} {P : Prop} {past : Past Fs} {α β : Type}

private theorem Quiet.lawful {o : FsOp} (quiet : Quiet k o) : Lawful k P past o :=
  ⟨fun writes => absurd writes quiet.1, fun grant => by simp [quiet.2] at grant, fun grant => by simp [quiet.2] at grant⟩

/-- An operation on another collection. -/
private theorem quiet_of_col {o : FsOp} (other : ∀ key, o.writes = some key →
    key.1 ∉ [Col.webauthnChallenges, .emailChallenges, .sessions, .cibaRequests, .accounts]) : Quiet k o := by
  constructor
  · intro writes
    have out := other _ writes
    cases k <;> simp [Ticket.key, Ticket.col] at out
  · unfold grants
    split
    · exact absurd (other _ rfl) (by simp)
    · exact absurd (other _ rfl) (by simp)
    · exact absurd (other _ rfl) (by simp)
    · rfl

private theorem Paid.later {later : Past Fs} (paid : Paid k past) (extends_ : past <:+ later) : Paid k later := by
  obtain ⟨r, listed⟩ := paid
  exact ⟨r, extends_.subset listed⟩

/-- Quiet programs need no justification. -/
private theorem quiet_justified {p : Prog Fs α} (uses : p.Uses (Quiet k)) (past : Past Fs) :
    p.Justified (Lawful k P) (fun _ _ => True) past :=
  (Prog.Justified.of_uses (fun _ _ => Quiet.lawful) uses past).mono fun _ _ _ _ => trivial

private theorem quiet_clean {p : Prog Fs α} (uses : p.Uses (Quiet k)) (clean : Clean past) :
    p.Justified (Lawful k P) (fun later _ => Clean later) past := by
  refine (Prog.Justified.of_uses (fun _ _ => Quiet.lawful) uses past).mono fun later _ _ known e listed => ?_
  rcases known e listed with before | quiet
  · exact clean e before
  · exact quiet.2

/-- A quiet program before another one. -/
private theorem clean_bind {p : Prog Fs α} {f : α → Prog Fs β} {R : Past Fs → β → Prop} (uses : p.Uses (Quiet k))
    (clean : Clean past) (rest : ∀ later a, Clean later → (f a).Justified (Lawful k P) R later) :
    (p >>= f).Justified (Lawful k P) R past :=
  (quiet_clean uses clean).bind fun later a _ clean => rest later a clean

private theorem ready_bind {p : Prog Fs α} {f : α → Prog Fs β} {R : Past Fs → β → Prop} (uses : p.Uses (Quiet k))
    (ready : Ready k P past) (rest : ∀ later a, Ready k P later → (f a).Justified (Lawful k P) R later) :
    (p >>= f).Justified (Lawful k P) R past :=
  (quiet_clean uses ready.clean).bind fun later a extends_ clean =>
    rest later a ⟨clean, fun presents => (ready.paid presents).later extends_⟩

/-- A grant of someone who is ready. -/
private theorem Ready.lawful {o : FsOp} (ready : Ready k P past) (other : o.writes ≠ some k.key) : Lawful k P past o :=
  ⟨fun writes => absurd writes other, fun _ => ready.paid, fun _ => ready.clean⟩

private theorem clean_cons {o : FsOp} {r : o.Res} (none : grants o = false) (clean : Clean past) : Clean (⟨o, r⟩ :: past) := by
  intro e listed
  rcases List.mem_cons.mp listed with rfl | before
  · exact none
  · exact clean e before

private theorem lawful_read {o : FsOp} (reads : o.writes = none) (free : grants o = false) : Lawful k P past o :=
  Quiet.lawful ⟨by simp [reads], free⟩

/-- Deleting a ticket, whichever it is. -/
private theorem lawful_delete (col : Col) (id : String) : Lawful k P past (.delete_doc col id) where
  keeps writes := by
    obtain ⟨rfl, rfl⟩ := Prod.mk.inj (Option.some.inj writes)
    rfl
  backed grant := by cases grant
  single grant := by cases grant

/-- Reading and deleting: whoever gets something has deleted it. -/
private theorem read_and_delete_justified {col : Col} {id : String} (clean : Clean past) :
    (read_and_delete col id).Justified (Lawful k P)
      (fun later r => Clean later ∧ ∀ f, r = .ok (some f) → (col, id) = k.key → Paid k later) past := by
  refine .call (lawful_read rfl rfl) fun r => ?_
  rcases r with e | _ | f
  · exact .ret ⟨clean_cons rfl clean, fun f got => by cases got⟩
  · exact .ret ⟨clean_cons rfl clean, fun f got => by cases got⟩
  · refine .call (lawful_delete col id) fun deleted => .call (lawful_read rfl rfl) fun t => ?_
    have clean : Clean (⟨.now, t⟩ :: ⟨.delete_doc col id, deleted⟩ :: ⟨.get_doc col id, .ok (some f)⟩ :: past) :=
      clean_cons rfl (clean_cons rfl (clean_cons rfl clean))
    show Prog.Justified _ _ (if expired_at f t = true then _ else _) _
    split
    · exact .ret ⟨clean, fun f got => by cases got⟩
    · refine .ret ⟨clean, fun _ _ same => ?_⟩
      obtain ⟨rfl, rfl⟩ := Prod.mk.inj same
      exact ⟨deleted, by simp⟩

private theorem consume_webauthn_justified (c : String) (clean : Clean past) :
    (consume_webauthn_challenge c).Justified (Lawful k P)
      (fun later r => Clean later ∧ ∀ t, r = .ok (some t) → .challenge c = k → Paid k later) past := by
  unfold consume_webauthn_challenge
  split
  · exact .ret ⟨clean, fun t got => by cases got⟩
  · refine (read_and_delete_justified clean).bind fun later r _ known => ?_
    obtain ⟨clean, paid⟩ := known
    rcases r with e | _ | f
    · exact .ret ⟨clean, fun t got => by cases got⟩
    · exact .ret ⟨clean, fun t got => by cases got⟩
    · refine .ret ⟨clean, fun t _ same => paid f rfl ?_⟩
      subst same
      rfl

private theorem consume_email_justified (t : String) (clean : Clean past) :
    (consume_email_challenge t).Justified (Lawful k P)
      (fun later r => Clean later ∧ ∀ e, r = .ok (some e) → .token t = k → Paid k later) past := by
  unfold consume_email_challenge
  split
  · exact .ret ⟨clean, fun t got => by cases got⟩
  · refine (read_and_delete_justified clean).bind fun later r _ known => ?_
    obtain ⟨clean, paid⟩ := known
    rcases r with e | _ | f
    · exact .ret ⟨clean, fun t got => by cases got⟩
    · exact .ret ⟨clean, fun t got => by cases got⟩
    · refine .ret ⟨clean, fun t _ same => paid f rfl ?_⟩
      subst same
      rfl

/-! ### What the requests do -/

private theorem quiet_read {o : FsOp} (reads : o.writes = none) (free : grants o = false) : Quiet k o := ⟨by simp [reads], free⟩

/-- Storage operations on other collections. -/
private theorem quiet_production {o : BackendOp} (other : ∀ f key, Footprint o f → f.writes = some key →
    key.1 ∉ [Col.webauthnChallenges, .emailChallenges, .sessions, .cibaRequests, .accounts]) :
    (Firestore.production o).Uses (Quiet k) := by
  refine (production_uses o).mono fun f within => quiet_of_col fun key writes => ?_
  rcases within with none | footprint
  · rw [none] at writes
    cases writes
  · exact other f key footprint writes

private theorem quiet_get_interaction (uid : String) : (Firestore.production (.store (.get_interaction uid))).Uses (Quiet k) :=
  quiet_production fun _ _ footprint => footprint.elim

private theorem quiet_save_interaction (i : Interaction) :
    (Firestore.production (.store (.save_interaction i))).Uses (Quiet k) := by
  refine quiet_production fun f key footprint writes => ?_
  rw [show f.writes = some (.interactions, i.uid) from footprint] at writes
  cases writes
  simp

private theorem quiet_ciba_get (id : String) : (Firestore.production (.ciba (.get id))).Uses (Quiet k) :=
  quiet_production fun _ _ footprint => footprint.elim

private theorem quiet_record_history (e : CibaHistoryEntry) :
    (Firestore.production (.ciba (.record_history e))).Uses (Quiet k) := by
  refine quiet_production fun f key footprint writes => ?_
  rw [show f.writes = some (.cibaHistory, e.auth_req_id) from footprint] at writes
  cases writes
  simp

private theorem quiet_reads (o : FsOp) (reads : o.writes = none) : Quiet k o :=
  quiet_of_col fun key writes => by rw [reads] at writes; cases writes

private theorem quiet_login_email (p : Site) (req : AuthVerifyReq) (email : String) : (login_email p req email).Uses (Quiet k) := by
  unfold login_email
  split
  · refine (find_email_by_account_id_uses quiet_reads _).bind fun r => ?_
    rcases r with e | _ | e <;> trivial
  · trivial

private theorem quiet_update_sign_count (email : String) (n : Nat) : (update_sign_count email n).Uses (Quiet k) := by
  refine ⟨⟨fun writes => ?_, rfl⟩, fun _ => trivial⟩
  cases k <;> simp [FsOp.writes, Ticket.key, Ticket.col] at writes

private theorem quiet_find_account (sub : String) : (FirestoreStore.find_account sub).Uses (Quiet k) := by
  refine (get_profile_uses quiet_reads sub).bind fun saved => ?_
  refine (find_email_by_account_id_uses quiet_reads sub).bind fun r => ?_
  rcases r with e | _ | e <;> trivial

section requests
variable (p : Site) (jwks : String → String → Option JwkPub)

private theorem finalize_login_justified (uuid : Draw → String) (i : Interaction) (sub : String) (ready : Ready k P past) :
    ((finalize_login p.toServer uuid i sub).lower (production jwks)).Justified (Lawful k P) (fun _ _ => True) past := by
  unfold finalize_login
  refine ready_bind (p := production jwks (.backend .now)) ⟨quiet_read rfl rfl, fun _ => trivial⟩ ready fun past auth_time ready => ?_
  refine ready_bind (quiet_save_interaction _) ready fun past u ready => ?_
  refine ready_bind (p := Firestore.fs .now) ⟨quiet_read rfl rfl, fun _ => trivial⟩ ready fun past t ready => ?_
  refine .call (ready.lawful ?_) fun r => .ret trivial
  cases k <;> simp [FsOp.writes, Ticket.key, Ticket.col]

private theorem login_as_justified (uuid : Draw → String) (uid challenge email : String) (req : AuthVerifyReq)
    (ready : Ready k P past) :
    ((login_as p uuid uid challenge email req).lower (production jwks)).Justified (Lawful k P) (fun _ _ => True) past := by
  unfold login_as
  rw [Prog.lower_bind, lower_firestore]
  refine ready_bind (get_credential_uses quiet_reads email) ready fun past r ready => ?_
  rcases r with e | _ | cred
  · exact .ret trivial
  · exact .ret trivial
  · dsimp only
    split
    · exact .ret trivial
    · split
      · exact .ret trivial
      · rw [Prog.lower_bind, lower_firestore]
        refine ready_bind (quiet_update_sign_count email _) ready fun past _ ready => ?_
        split
        · exact .ret trivial
        · split
          · exact .ret trivial
          · refine ready_bind (quiet_get_interaction uid) ready fun past interaction ready => ?_
            cases interaction with
            | none => exact .ret trivial
            | some interaction =>
              dsimp only [Prog.bind]
              rw [Prog.lower_bind, lower_firestore]
              refine ready_bind (quiet_find_account _) ready fun past account ready => ?_
              rw [Prog.lower_bind]
              exact (finalize_login_justified p jwks uuid interaction account.sub ready).bind fun _ _ _ _ => .ret trivial

private theorem login_justified (uuid : Draw → String) (uid : String) (req : AuthVerifyReq)
    (named : P → ∃ c, webauthn.extract_challenge p req.client_data_json = some c ∧ .challenge c = k) :
    ((login_passkey_verify p uuid uid req).lower (production jwks)).Justified (Lawful k P) (fun _ _ => True) [] := by
  unfold login_passkey_verify
  split
  · exact .ret trivial
  · cases shown : webauthn.extract_challenge p req.client_data_json with
    | none => exact .ret trivial
    | some c =>
      dsimp only
      rw [Prog.lower_bind, lower_firestore]
      refine (consume_webauthn_justified c (by simp [Clean])).bind fun past r _ known => ?_
      obtain ⟨clean, paid⟩ := known
      rcases r with e | _ | t
      · exact .ret trivial
      · exact .ret trivial
      · have ready : Ready k P past := by
          refine ⟨clean, fun presents => ?_⟩
          obtain ⟨c', same, is⟩ := named presents
          rw [shown] at same
          cases same
          exact paid t rfl is
        dsimp only
        split
        · exact .ret trivial
        · rw [Prog.lower_bind, lower_firestore]
          refine ready_bind (quiet_login_email p req t.email) ready fun past email ready => ?_
          cases email with
          | none => exact .ret trivial
          | some email =>
            dsimp only
            split
            · exact .ret trivial
            · exact login_as_justified p jwks uuid uid c email req ready

private theorem resolve_pending_justified (auth_req_id : String) (status : CibaStatus) (outcome : String)
    (req : Option BackchannelAuthRequest) (done : Response) (ready : Ready k P past) :
    ((resolve_pending auth_req_id status outcome req done).lower (production jwks)).Justified (Lawful k P)
      (fun _ _ => True) past := by
  have moves : (Firestore.production (.ciba (.transition_if_pending auth_req_id status))).Justified (Lawful k P)
      (fun _ _ => True) past := by
    refine .call (lawful_read rfl rfl) fun r => ?_
    rcases r with e | _ | ⟨f, time⟩
    · exact .ret trivial
    · exact .ret trivial
    · have later : Ready k P (⟨.get_doc_with_update_time .cibaRequests auth_req_id, .ok (some (f, time))⟩ :: past) :=
        ⟨clean_cons rfl ready.clean, fun presents => (ready.paid presents).later (List.suffix_cons _ _)⟩
      dsimp only [Prog.bind]
      split
      · exact .ret trivial
      · refine .call (later.lawful ?_) fun _ => .ret trivial
        cases k <;> simp [FsOp.writes, Ticket.key, Ticket.col]
  unfold resolve_pending
  refine moves.bind fun past r _ _ => ?_
  rcases r with e | _ | _
  · exact .ret trivial
  · exact .ret trivial
  · cases req with
    | none => exact .ret trivial
    | some req =>
      refine quiet_justified (Prog.Uses.bind (p := production jwks (.backend .now)) ?_ fun t => ?_) past
      · exact ⟨quiet_read rfl rfl, fun _ => trivial⟩
      · exact (quiet_record_history _).bind fun _ => trivial

private theorem quiet_approver (email : String) : ((approver email).lower (production jwks)).Uses (Quiet k) := by
  unfold approver
  rw [Prog.lower_bind, lower_firestore]
  refine (get_credential_uses quiet_reads email).bind fun r => ?_
  rcases r with e | _ | c
  · trivial
  · trivial
  · dsimp only
    split <;> trivial

private theorem quiet_approvable (auth_req_id account : String) :
    ((approvable auth_req_id account).lower (production jwks)).Uses (Quiet k) := by
  unfold approvable
  refine (quiet_ciba_get auth_req_id).bind fun r => ?_
  rcases r with e | _ | r
  · trivial
  · trivial
  · dsimp only [Prog.bind]
    split
    · trivial
    · refine ⟨quiet_read rfl rfl, fun t => ?_⟩
      show Prog.Uses _ (Prog.lower _ (if r.expired t = true then _ else _))
      split <;> trivial

private theorem approve_as_justified (auth_req_id challenge email : String) (req : AuthVerifyReq) (ready : Ready k P past) :
    ((approve_as p auth_req_id challenge email req).lower (production jwks)).Justified (Lawful k P) (fun _ _ => True) past := by
  unfold approve_as
  rw [Prog.lower_bind]
  refine ready_bind (quiet_approver jwks email) ready fun past cred ready => ?_
  cases cred with
  | none => exact .ret trivial
  | some cred =>
    dsimp only
    rw [Prog.lower_bind]
    refine ready_bind (quiet_approvable jwks auth_req_id _) ready fun past ciba_req ready => ?_
    cases ciba_req with
    | none => exact .ret trivial
    | some ciba_req =>
      dsimp only
      split
      · exact .ret trivial
      · split
        · exact .ret trivial
        · rw [Prog.lower_bind, lower_firestore]
          refine ready_bind (quiet_update_sign_count email _) ready fun past _ ready => ?_
          split
          · exact .ret trivial
          · exact resolve_pending_justified jwks auth_req_id _ _ _ _ ready

private theorem approve_justified (auth_req_id : String) (req : AuthVerifyReq)
    (named : P → ∃ c, webauthn.extract_challenge p req.client_data_json = some c ∧ .challenge c = k) :
    ((ciba_approve p auth_req_id req).lower (production jwks)).Justified (Lawful k P) (fun _ _ => True) [] := by
  unfold ciba_approve
  split
  · exact .ret trivial
  · cases shown : webauthn.extract_challenge p req.client_data_json with
    | none => exact .ret trivial
    | some c =>
      dsimp only
      rw [Prog.lower_bind, lower_firestore]
      refine (consume_webauthn_justified c (by simp [Clean])).bind fun past r _ known => ?_
      obtain ⟨clean, paid⟩ := known
      rcases r with e | _ | t
      · exact .ret trivial
      · exact .ret trivial
      · have ready : Ready k P past := by
          refine ⟨clean, fun presents => ?_⟩
          obtain ⟨c', same, is⟩ := named presents
          rw [shown] at same
          cases same
          exact paid t rfl is
        dsimp only
        split
        · exact .ret trivial
        · exact approve_as_justified p jwks auth_req_id c t.email req ready

private theorem save_credential_justified (email account_id : String) (outcome : webauthn.RegOutcome) (ready : Ready k P past) :
    (save_credential email account_id outcome).Justified (Lawful k P) (fun _ _ => True) past := by
  unfold save_credential
  refine ready_bind (get_credential_uses quiet_reads email) ready fun past r ready => ?_
  cases r with
  | error e => exact .ret trivial
  | ok existing =>
    refine ready_bind (p := Firestore.fs .now) ⟨quiet_read rfl rfl, fun _ => trivial⟩ ready fun past t ready => ?_
    refine .call (ready.lawful ?_) fun r => ?_
    · cases k <;> simp [FsOp.writes, Ticket.key, Ticket.col]
    · cases r with
      | error e => exact .ret trivial
      | ok u => exact .call (Quiet.lawful (quiet_of_col fun key writes => by cases writes; simp)) fun _ => .ret trivial

/-- The token was consumed already, and if it is the challenge that counts, it is consumed here. -/
private theorem register_as_justified (home : String) (name : Option String) (email1 : String)
    (response : Option (String × Except String webauthn.RegOutcome)) (clean : Clean past)
    (paid : P → Paid k past ∨ ∃ c verified, response = some (c, verified) ∧ .challenge c = k) :
    (register_as home name email1 response).Justified (Lawful k P) (fun _ _ => True) past := by
  unfold register_as
  rcases response with _ | ⟨c, verified⟩
  · exact .ret trivial
  · refine (consume_webauthn_justified c clean).bind fun later r extends_ known => ?_
    obtain ⟨clean, consumed⟩ := known
    rcases r with e | _ | t
    · exact .ret trivial
    · exact .ret trivial
    · have ready : Ready k P later := by
        refine ⟨clean, fun presents => ?_⟩
        rcases paid presents with before | ⟨c', verified', same, is⟩
        · exact before.later extends_
        · cases same
          exact consumed t rfl is
      dsimp only
      split
      · exact .ret trivial
      · cases verified with
        | error e => exact .ret trivial
        | ok outcome =>
          refine (save_credential_justified email1 _ _ ready).bind fun past r _ _ => ?_
          cases r with
          | error e => exact .ret trivial
          | ok u =>
            have saves : ∀ f, Quiet k (.set_doc .profiles t.account_id f) :=
              fun f => quiet_of_col fun key writes => by cases writes; simp
            refine quiet_justified ((save_name_uses quiet_reads saves name).bind ?_) past
            exact fun _ => trivial

private theorem register_with_justified (home token : String) (name : Except String (Option String))
    (response : Option (String × Except String webauthn.RegOutcome))
    (named : P → .token token = k ∨ ∃ c verified, response = some (c, verified) ∧ .challenge c = k) :
    (register_with home token name response).Justified (Lawful k P) (fun _ _ => True) [] := by
  unfold register_with
  refine clean_bind (refuse_invite_uses quiet_reads token) (by simp [Clean]) fun past refused clean => ?_
  cases refused with
  | some r => exact .ret trivial
  | none =>
    cases name with
    | error e => exact .ret trivial
    | ok name =>
      refine clean_bind (require_name_uses quiet_reads name token) clean fun past refused clean => ?_
      cases refused with
      | some r => exact .ret trivial
      | none =>
        refine (consume_email_justified token clean).bind fun past r _ known => ?_
        obtain ⟨clean, consumed⟩ := known
        rcases r with e | _ | email1
        · exact .ret trivial
        · exact .ret trivial
        · exact register_as_justified home name email1 response clean fun presents =>
            (named presents).imp_left fun is => consumed email1 rfl is

private theorem register_justified (req : RegVerifyReq)
    (named : P → .token req.token = k ∨
      ∃ c, webauthn.extract_challenge p req.response.client_data_json = some c ∧ .challenge c = k) :
    (register_passkey_verify p req).Justified (Lawful k P) (fun _ _ => True) [] := by
  unfold register_passkey_verify
  split
  · exact .ret trivial
  · refine register_with_justified _ _ _ _ fun presents => (named presents).imp_right ?_
    rintro ⟨c, shown, is⟩
    exact ⟨c, webauthn.verify_registration p req.response c p.origin p.rp_id, by rw [checked_response, shown]; rfl, is⟩

end requests

/-- Every caller is lawful, and what it got it has deleted. -/
private theorem caller_justified (p : Site) (jwks : String → String → Option JwkPub) (k : Ticket) (caller : Caller) :
    (caller.run p jwks).Justified (Lawful k (caller.Presents p k))
      (fun past a => a.got = true → caller.Presents p k → Paid k past) [] := by
  cases caller with
  | consume_webauthn_challenge c =>
    refine (consume_webauthn_justified c (by simp [Clean])).bind fun past r _ known => .ret fun got presents => ?_
    rcases r with e | _ | t
    · cases got
    · cases got
    · cases k with
      | challenge c' => exact known.2 t rfl (congrArg Ticket.challenge presents)
      | token t' => exact presents.elim
  | consume_email_challenge t =>
    refine (consume_email_justified t (by simp [Clean])).bind fun past r _ known => .ret fun got presents => ?_
    rcases r with e | _ | email
    · cases got
    · cases got
    · cases k with
      | challenge c' => exact presents.elim
      | token t' => exact known.2 email rfl (congrArg Ticket.token presents)
  | login_passkey_verify uuid uid req =>
    refine (login_justified p jwks uuid uid req fun presents => ?_).bind fun _ _ _ _ => .ret fun got => by cases got
    cases k with
    | challenge c => exact ⟨c, presents, rfl⟩
    | token t => exact presents.elim
  | ciba_approve auth_req_id req =>
    refine (approve_justified p jwks auth_req_id req fun presents => ?_).bind fun _ _ _ _ => .ret fun got => by cases got
    cases k with
    | challenge c => exact ⟨c, presents, rfl⟩
    | token t => exact presents.elim
  | register_passkey_verify req =>
    refine (register_justified p req fun presents => ?_).bind fun _ _ _ _ => .ret fun got => by cases got
    cases k with
    | challenge c => exact .inr ⟨c, presents, rfl⟩
    | token t => exact .inl (congrArg Ticket.token presents)

end callers

/-! ### Runs -/

/-- A caller that shows the ticket is granted something. -/
def Granted (p : Site) (callers : ι → Caller) (k : Ticket) (e : Occurrence Fs ι) : Prop :=
  grants e.op = true ∧ (callers e.thread).Presents p k

/-- The ticket is deleted. -/
def Deletes (k : Ticket) (e : Occurrence Fs ι) : Prop := e.op = k.delete

/-- The ticket was deleted at most once, and then it is gone; nothing is granted
    without that, and nothing twice. -/
structure Inv (p : Site) (callers : ι → Caller) (k : Ticket) (c : Pool Fs Db ι Answer) : Prop where
  gone : ∀ e ∈ c.trace, Deletes k e → c.state.docs.get k.key = none
  once : c.trace.Pairwise fun a b => ¬ (Deletes k a ∧ Deletes k b)
  backed : ∀ e ∈ c.trace, Granted p callers k e → ∃ d ∈ c.trace, d.thread = e.thread ∧ Deletes k d
  single : c.trace.Pairwise fun a b => ¬ (Granted p callers k a ∧ Granted p callers k b)

/-- Two deletions are one. -/
private theorem eq_of_deletes {k : Ticket} {trace : List (Occurrence Fs ι)}
    (once : trace.Pairwise fun a b => ¬ (Deletes k a ∧ Deletes k b)) {x y : Occurrence Fs ι} (listedX : x ∈ trace)
    (listedY : y ∈ trace) (deletesX : Deletes k x) (deletesY : Deletes k y) : x = y := by
  by_contra apart
  have : Std.Symm fun a b : Occurrence Fs ι => ¬ (Deletes k a ∧ Deletes k b) := ⟨fun _ _ not both => not both.symm⟩
  exact once.forall listedX listedY apart ⟨deletesX, deletesY⟩

variable [DecidableEq ι]

private theorem Inv.step {p : Site} {callers : ι → Caller} {k : Ticket} {c c' : Pool Fs Db ι Answer} (inv : Inv p callers k c)
    (did : Pool.Did sem (Elsewhere k) (fun i => Lawful k ((callers i).Presents p k)) c c') (finds : Finds k c c') :
    Inv p callers k c' := by
  cases did with
  | env changes trace threads =>
    refine ⟨?_, ?_, ?_, ?_⟩
    · rw [trace]
      intro e listed deletes
      rcases changes with same | gone
      · rw [same, inv.gone e listed deletes]
      · exact gone
    · rw [trace]
      exact inv.once
    · rw [trace]
      exact inv.backed
    · rw [trace]
      exact inv.single
  | act e next _ allowed does trace threads =>
    by_cases deletes : Deletes k e
    · have ungranted : ¬ Granted p callers k e := by
        rintro ⟨granted, -⟩
        rw [show e.op = k.delete from deletes] at granted
        cases granted
      have found : (c.state.docs.get k.key).isSome = true ∧ c'.state.docs.get k.key = none := by
        obtain ⟨i, o, r⟩ := e
        obtain rfl : o = k.delete := deletes
        exact finds i r trace
      have first : ∀ d ∈ c.trace, ¬ Deletes k d := fun d listed before => by simp [inv.gone d listed before] at found
      refine ⟨fun _ _ _ => found.2, ?_, ?_, ?_⟩
      · rw [trace, List.pairwise_cons]
        exact ⟨fun d listed both => first d listed both.2, inv.once⟩
      · rw [trace]
        intro g listed granted
        rcases List.mem_cons.mp listed with rfl | before
        · exact absurd granted ungranted
        · obtain ⟨d, listed, own, was⟩ := inv.backed g before granted
          exact ⟨d, List.mem_cons_of_mem _ listed, own, was⟩
      · rw [trace, List.pairwise_cons]
        exact ⟨fun g _ both => ungranted both.1, inv.single⟩
    · have same : c'.state.docs.get k.key = c.state.docs.get k.key :=
        sem_frame (fun writes => deletes (allowed.keeps writes)) does
      have paid : Granted p callers k e → ∃ d ∈ c.trace, d.thread = e.thread ∧ Deletes k d := by
        rintro ⟨granted, presents⟩
        obtain ⟨r, listed⟩ := allowed.backed granted presents
        exact ⟨_, Pool.mem_past.mp listed, rfl, rfl⟩
      refine ⟨?_, ?_, ?_, ?_⟩
      · rw [trace, same]
        intro d listed was
        rcases List.mem_cons.mp listed with rfl | before
        · exact absurd was deletes
        · exact inv.gone d before was
      · rw [trace, List.pairwise_cons]
        exact ⟨fun d _ both => deletes both.1, inv.once⟩
      · rw [trace]
        intro g listed granted
        have before : ∃ d ∈ c.trace, d.thread = g.thread ∧ Deletes k d := by
          rcases List.mem_cons.mp listed with rfl | before
          · exact paid granted
          · exact inv.backed g before granted
        obtain ⟨d, listed, own, was⟩ := before
        exact ⟨d, List.mem_cons_of_mem _ listed, own, was⟩
      · rw [trace, List.pairwise_cons]
        refine ⟨fun g listed both => ?_, inv.single⟩
        -- Both are backed by the one deletion, so one caller would have granted twice.
        obtain ⟨d, listedD, ownD, wasD⟩ := paid both.1
        obtain ⟨d', listedD', ownD', wasD'⟩ := inv.backed g listed both.2
        have thread : g.thread = e.thread := by
          rw [← ownD, ← ownD', eq_of_deletes inv.once listedD listedD' wasD wasD']
        have listedPast : (⟨g.op, g.answer⟩ : (o : FsOp) × o.Res) ∈ Pool.past c.trace e.thread := by
          rw [Pool.mem_past, ← thread]
          exact listed
        have clean := allowed.single both.1.1 _ listedPast
        rw [both.2.1] at clean
        cases clean

/-- Any number of callers that show one ticket, in any order, with requests that
    may fail: if every deletion of the ticket finds it and takes effect, at most
    one of them gets something, and they are granted at most one session, approval
    or credential. -/
theorem used_once (p : Site) (jwks : String → String → Option JwkPub) (callers : ι → Caller) (k : Ticket) (db : Db)
    {c : Pool Fs Db ι Answer}
    (steps : Relation.ReflTransGen (fun c c' => Pool.Step sem (Elsewhere k) c c' ∧ Finds k c c') (pool p jwks callers db) c) :
    (∀ i j a b, (callers i).Presents p k → (callers j).Presents p k → c.threads i = .ret a → c.threads j = .ret b →
      a.got = true → b.got = true → i = j) ∧
    c.trace.Pairwise fun a b => ¬ (Granted p callers k a ∧ Granted p callers k b) := by
  have honest : (pool p jwks callers db).Honest (fun i => Lawful k ((callers i).Presents p k))
      fun i past a => a.got = true → (callers i).Presents p k → Paid k past := fun i => caller_justified p jwks k (callers i)
  have start : Inv p callers k (pool p jwks callers db) := by constructor <;> simp [pool]
  obtain ⟨inv, honest⟩ := honest.induct (fun _ _ inv _ did finds => inv.step did finds) start steps
  refine ⟨fun i j a b presentsI presentsJ endsI endsJ gotI gotJ => ?_, inv.single⟩
  have paidI := honest i
  have paidJ := honest j
  rw [endsI] at paidI
  rw [endsJ] at paidJ
  obtain ⟨r, listedI⟩ := paidI gotI presentsI
  obtain ⟨r', listedJ⟩ := paidJ gotJ presentsJ
  have same := eq_of_deletes inv.once (Pool.mem_past.mp listedI) (Pool.mem_past.mp listedJ) rfl rfl
  exact congrArg Occurrence.thread same

/-! ### Two callers at once -/

/-- A test of the condition before a turn. -/
def findsBefore (k : Ticket) (c : Pool Fs Db ι Answer) (i : ι) : Bool :=
  match (c.threads i).next with
  | some (.delete_doc col id) => (col, id) ≠ k.key || (c.state.docs.get k.key).isSome
  | _ => true

private theorem findsBefore_promises (k : Ticket) (c : Pool Fs Db ι Answer) (i : ι) (holds : findsBefore k c i = true) :
    Finds k c (Pool.fire exec c i) := by
  intro j r acted
  unfold Pool.fire at acted ⊢
  split at acted
  · simp at acted
  · rename_i o _ next
    obtain ⟨rfl, rfl, -⟩ := Occurrence.mk.inj (List.cons.inj acted).1
    rw [findsBefore, next] at holds
    refine ⟨?_, ?_⟩
    · simpa [Prog.next, Ticket.key] using holds
    · show ((c.state.erase k.key).docs.get k.key) = none
      rw [get_erase, if_pos rfl]

/-- A challenge that waits for an assertion. -/
def challenged : Db :=
  Db.write { clock := 1000 } (.webauthnChallenges, "c-0123456789abcdefghij") (Ceremony.to_fields ⟨"a@x", .Auth, "uid", ""⟩ 1300)

def ticket : Ticket := .challenge "c-0123456789abcdefghij"

/-- Two callers that show the same challenge. -/
def pair : Pool Fs Db (Fin 2) Answer :=
  pool Reference.site (fun _ _ => none) (fun _ => .consume_webauthn_challenge "c-0123456789abcdefghij") challenged

/-- One after the other: only the first gets what the challenge was issued for. -/
theorem used_once_in_turn :
    let c := Pool.schedule exec pair (Pool.turns [0, 0, 0, 1])
    c.Finished ∧ (c.threads 0).result.any Answer.got = true ∧
      ∀ j b, c.threads j = .ret b → b.got = true → 0 = j := by
  have steps : Relation.ReflTransGen (fun c c' => Pool.Step (Sem.ofHandler exec) (Elsewhere ticket) c c' ∧ Finds ticket c c')
      pair (Pool.schedule exec pair (Pool.turns [0, 0, 0, 1])) :=
    Pool.schedule_steps_where (P := fun c i => findsBefore ticket c i = true) (findsBefore_promises ticket) (by decide +kernel)
  have answered : (((Pool.schedule exec pair (Pool.turns [0, 0, 0, 1])).threads 0).result.any Answer.got) = true := by
    decide +kernel
  refine ⟨Pool.finished_iff.mpr (by decide +kernel), answered, fun j b ends got => ?_⟩
  obtain ⟨a, first, got'⟩ := (Option.any_eq_true _ _).mp answered
  have mayFail : Relation.ReflTransGen (fun c c' => Pool.Step sem (Elsewhere ticket) c c' ∧ Finds ticket c c') pair
      (Pool.schedule exec pair (Pool.turns [0, 0, 0, 1])) :=
    Relation.ReflTransGen.mono (fun _ _ step => ⟨step.1.mono (fun _ _ _ _ => .inl) fun _ _ => id, step.2⟩) _ _ steps
  exact (used_once Reference.site (fun _ _ => none) (fun _ => .consume_webauthn_challenge "c-0123456789abcdefghij") ticket
    challenged mayFail).1 0 j a b rfl rfl (Prog.result_eq_some.mp first) ends got' got

/-- Both read the challenge before either deletes it: both get it. -/
theorem used_twice : ∃ c, Relation.ReflTransGen (Pool.Step (Sem.ofHandler exec) (Elsewhere ticket)) pair c ∧ c.Finished ∧
    (c.threads 0).result.any Answer.got = true ∧ (c.threads 1).result.any Answer.got = true := by
  refine ⟨Pool.schedule exec pair (Pool.turns [0, 1, 0, 1, 0, 1]), Pool.schedule_steps _ _ _ _,
    Pool.finished_iff.mpr ?_, ?_, ?_⟩
  · decide +kernel
  · decide +kernel
  · decide +kernel

end RustOp.Web.SingleUse
