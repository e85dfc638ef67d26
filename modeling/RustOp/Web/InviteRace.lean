import RustOp.Effects.History
import RustOp.Web.SiteReference

/-!
Invitations for one address, used at once. A request that presents one looks for
an account at its start and writes the account at its end. If nobody wrote the
account in between, it is still absent then, so no invitation replaces a passkey.
-/
namespace RustOp.Web.InviteRace
open RustOp.Effects RustOp.Firestore registration

/-- Who uses a token. -/
inductive Request where
  | options (uuid : Draw → String) (token : String)
  | verify (req : RegVerifyReq)

def Request.token : Request → String
  | .options _ token => token
  | .verify req => req.token

def Request.run (p : Site) : Request → Prog Fs Response
  | .options uuid token => register_passkey_options p uuid token
  | .verify req => register_passkey_verify p req

/-- The fields of an invitation for an address. -/
def Invites (email : String) (f : Fields) : Prop :=
  field_str f "email" = some email ∧ ∃ r, field_str f "returnTo" = some r ∧ r ≠ ""

/-- The token was issued as an invitation. -/
def Invitation (db : Db) (email token : String) : Prop :=
  ∃ doc, db.docs.get (.emailChallenges, token) = some doc ∧ Invites email doc.fields

/-- The account that is stored for an address. -/
def account (email : String) (db : Db) : Option Fields := (db.docs.get (.accounts, email)).bind Db.readable

variable {ι : Type}

/-- Anything else may happen to other documents. Time passes, the account may be
    changed or deleted, and tokens may be deleted. -/
structure Elsewhere (email : String) (db db' : Db) : Prop where
  clock : db.clock ≤ db'.clock
  tokens : ∀ t, db'.docs.get (.emailChallenges, t) = db.docs.get (.emailChallenges, t) ∨ db'.docs.get (.emailChallenges, t) = none
  account : account email db = none → account email db' = none

/-- The account is written. -/
def Writes (email : String) (e : Occurrence Fs ι) : Prop := e.op.writes = some (.accounts, email)

/-- The account was looked for and not found. -/
def Misses (email : String) (e : (o : FsOp) × o.Res) : Prop := e = ⟨.get_doc .accounts email, .ok none⟩

/-- A request that presents an invitation and writes the account comes to it
    before anybody else who wrote it after this request looked for it. -/
def Undisturbed (email : String) (invited : ι → Prop) (c c' : Pool Fs Db ι Response) : Prop :=
  ∀ e, c'.trace = e :: c.trace → Writes email e → invited e.thread →
    c.trace.Pairwise fun newer older => ¬ (Writes email newer ∧ older.thread = e.thread ∧ Misses email ⟨older.op, older.answer⟩)

/-- Requests about to begin. -/
def pool (p : Site) (requests : ι → Request) (db : Db) : Pool Fs Db ι Response :=
  ⟨db, fun i => (requests i).run p, []⟩

/-! ### What a request does -/

/-- The fields of a token were read. -/
@[reducible] def Read (token : String) (f : Fields) : (o : FsOp) × o.Res := ⟨.get_doc .emailChallenges token, .ok (some f)⟩

/-- The token was not there. -/
@[reducible] def Gone (token : String) : (o : FsOp) × o.Res := ⟨.get_doc .emailChallenges token, .ok none⟩

/-- The clock was read. -/
@[reducible] def Clock (t : Nat) : (o : FsOp) × o.Res := ⟨.now, t⟩

/-- The token is no invitation that could still be used. -/
inductive Plain (token : String) (past : Past Fs) : Prop where
  | gone (listed : Gone token ∈ past)
  | expired (f : Fields) (t : Nat) (read : Read token f ∈ past) (clock : Clock t ∈ past) (late : expired_at f t = true)
  | other (f : Fields) (read : Read token f ∈ past) (none : ∀ email, ¬ Invites email f)

/-- The guard of invitations was passed. -/
inductive Guarded (token : String) (past : Past Fs) : Prop where
  | plain (plain : Plain token past)
  | free (email : String) (f : Fields) (read : Read token f ∈ past) (named : field_str f "email" = some email)
      (missed : ∃ e ∈ past, Misses email e)

/-- The token was consumed for an address, after the guard. -/
structure Admitted (token email : String) (past : Past Fs) : Prop where
  ok : token_ok token = true
  consumed : ∃ before f t, Guarded token before ∧ After before past (Read token f) ∧ After before past (Clock t) ∧
    expired_at f t = false ∧ field_str f "email" = some email

/-- The operations of a request with a token. -/
structure Lawful (token : String) (past : Past Fs) (o : FsOp) : Prop where
  tokens : ∀ t, o.writes = some (.emailChallenges, t) → o = .delete_doc .emailChallenges t
  account : ∀ email, o.writes = some (.accounts, email) → Admitted token email past

/-- An operation on other documents. -/
def Quiet (o : FsOp) : Prop := ∀ key, o.writes = some key → key.1 ≠ .emailChallenges ∧ key.1 ≠ .accounts

section requests
variable {token : String} {past : Past Fs} {α β : Type}

private theorem Quiet.lawful {o : FsOp} (quiet : Quiet o) : Lawful token past o :=
  ⟨fun _ writes => absurd rfl (quiet _ writes).1, fun _ writes => absurd rfl (quiet _ writes).2⟩

private theorem quiet_reads (o : FsOp) (reads : o.writes = none) : Quiet o := by
  intro key writes
  rw [reads] at writes
  cases writes

private theorem quiet_justified {p : Prog Fs α} (uses : p.Uses Quiet) (past : Past Fs) :
    p.Justified (Lawful token) (fun _ _ => True) past :=
  (Prog.Justified.of_uses (fun _ _ => Quiet.lawful) uses past).mono fun _ _ _ _ => trivial

/-- What looking at an invitation shows. -/
private theorem peek_invite_justified (past : Past Fs) : (peek_invite token).Justified (Lawful token)
    (fun later r => (r = .ok none → token_ok token = true → Plain token later) ∧
      ∀ email page, r = .ok (some (email, page)) → ∃ f, Read token f ∈ later ∧ field_str f "email" = some email) past := by
  unfold peek_invite
  split
  · rename_i bad
    refine .ret ⟨fun _ ok => ?_, fun _ _ got => by cases got⟩
    simp [ok] at bad
  · refine .call (quiet_reads _ rfl).lawful fun r => ?_
    rcases r with e | _ | f
    · exact .ret ⟨fun got => (by cases got), fun _ _ got => by cases got⟩
    · exact .ret ⟨fun _ _ => .gone List.mem_cons_self, fun _ _ got => by cases got⟩
    · refine .call (quiet_reads _ rfl).lawful fun t => ?_
      have read : Read token f ∈ (⟨.now, t⟩ :: Read token f :: past : Past Fs) := by simp
      show Prog.Justified _ _ (if expired_at f t = true then _ else _) _
      split
      · rename_i late
        exact .ret ⟨fun _ _ => .expired f t read List.mem_cons_self late, fun _ _ got => by cases got⟩
      · split
        · rename_i email r named page
          refine .ret ⟨fun got _ => .other f read ?_, fun email' page' got => ⟨f, read, ?_⟩⟩
          · rintro email' ⟨-, r', found, filled⟩
            rw [page] at found
            cases found
            simp [filled] at got
          · split at got
            · cases got
            · cases got
              exact named
        · rename_i incomplete
          refine .ret ⟨fun _ _ => .other f read ?_, fun _ _ got => by cases got⟩
          rintro email' ⟨named, r', found, -⟩
          exact incomplete email' r' named found

/-- Whoever is not refused has passed the guard. -/
private theorem refuse_invite_justified (past : Past Fs) : (refuse_invite_for_registered token).Justified (Lawful token)
    (fun later r => r = none → token_ok token = true → Guarded token later) past := by
  unfold refuse_invite_for_registered
  refine (peek_invite_justified past).bind fun past r _ known => ?_
  obtain ⟨plain, named⟩ := known
  rcases r with e | _ | ⟨email, page⟩
  · exact .ret fun got => by cases got
  · exact .ret fun _ ok => .plain (plain rfl ok)
  · obtain ⟨f, read, same⟩ := named email page rfl
    refine .call (quiet_reads _ rfl).lawful fun r => ?_
    rcases r with e | _ | f'
    · exact .ret fun got => by cases got
    · exact .ret fun _ _ => .free email f (List.mem_cons_of_mem _ read) same ⟨_, List.mem_cons_self, rfl⟩
    · exact .ret fun got => by cases got

private theorem Plain.later {later : Past Fs} (plain : Plain token past) (extends_ : past <:+ later) : Plain token later := by
  cases plain with
  | gone listed => exact .gone (extends_.subset listed)
  | expired f t read clock late => exact .expired f t (extends_.subset read) (extends_.subset clock) late
  | other f read none => exact .other f (extends_.subset read) none

private theorem Guarded.later {later : Past Fs} (guarded : Guarded token past) (extends_ : past <:+ later) :
    Guarded token later := by
  cases guarded with
  | plain plain => exact .plain (plain.later extends_)
  | free email f read named missed =>
    obtain ⟨e, listed, misses⟩ := missed
    exact .free email f (extends_.subset read) named ⟨e, extends_.subset listed, misses⟩

/-- Consuming the token for an address. -/
private theorem consume_email_justified (guarded : token_ok token = true → Guarded token past) :
    (consume_email_challenge token).Justified (Lawful token)
      (fun later r => ∀ email, r = .ok (some email) → Admitted token email later) past := by
  unfold consume_email_challenge
  split
  · exact .ret fun _ got => by cases got
  · rename_i ok
    have ok : token_ok token = true := by simpa using ok
    refine .call (quiet_reads _ rfl).lawful fun r => ?_
    rcases r with e | _ | f
    · exact .ret fun _ got => by cases got
    · exact .ret fun _ got => by cases got
    · refine .call ⟨fun t writes => ?_, fun _ writes => by cases writes⟩ fun deleted => ?_
      · cases writes
        rfl
      · refine .call (quiet_reads _ rfl).lawful fun t => ?_
        show Prog.Justified _ _ ((if expired_at f t = true then _ else _) >>= _) _
        split
        · exact .ret fun _ got => by cases got
        · rename_i live
          refine .ret fun email got => ⟨ok, past, f, t, guarded ok, ?_, ?_, by simpa using live, Except.ok.inj got⟩
          · exact ⟨past, ⟨[⟨.now, t⟩, ⟨.delete_doc .emailChallenges token, deleted⟩], rfl⟩, List.suffix_refl _⟩
          · exact ⟨_, List.suffix_refl _, ⟨[⟨.delete_doc .emailChallenges token, deleted⟩, Read token f], rfl⟩⟩

private theorem Admitted.later {email : String} {later : Past Fs} (admitted : Admitted token email past)
    (extends_ : past <:+ later) : Admitted token email later := by
  obtain ⟨ok, before, f, t, guarded, read, clock, live, named⟩ := admitted
  exact ⟨ok, before, f, t, guarded, read.later extends_, clock.later extends_, live, named⟩

private theorem save_credential_justified (email account_id : String) (c : webauthn.RegOutcome)
    (admitted : Admitted token email past) :
    (save_credential email account_id c).Justified (Lawful token) (fun _ _ => True) past := by
  refine .call (quiet_reads _ rfl).lawful fun found => ?_
  rcases found with e | found
  · exact .ret trivial
  · refine .call (quiet_reads _ rfl).lawful fun t => .call ⟨fun _ writes => (by cases writes), fun e writes => ?_⟩ fun r => ?_
    · cases writes
      exact admitted.later ⟨[⟨.now, t⟩, ⟨.get_doc .accounts email, .ok found⟩], rfl⟩
    · rcases r with e | u
      · exact .ret trivial
      · exact .call (Quiet.lawful fun key writes => by cases writes; simp) fun _ => .ret trivial

private theorem register_as_justified (home : String) (name : Option String) (email1 : String)
    (response : Option (String × Except String webauthn.RegOutcome)) (admitted : Admitted token email1 past) :
    (register_as home name email1 response).Justified (Lawful token) (fun _ _ => True) past := by
  unfold register_as
  rcases response with _ | ⟨c, verified⟩
  · exact .ret trivial
  · refine (quiet_justified (consume_webauthn_challenge_uses quiet_reads fun key writes => by cases writes; simp) past).bind fun past r extends_ _ => ?_
    rcases r with e | _ | t
    · exact .ret trivial
    · exact .ret trivial
    · dsimp only
      split
      · exact .ret trivial
      · cases verified with
        | error e => exact .ret trivial
        | ok outcome =>
          refine (save_credential_justified email1 _ _ (admitted.later extends_)).bind fun past r _ _ => ?_
          cases r with
          | error e => exact .ret trivial
          | ok u =>
            refine quiet_justified ((save_name_uses quiet_reads (fun f key writes => by cases writes; simp) name).bind ?_) past
            exact fun _ => trivial

private theorem verify_justified (p : Site) (req : RegVerifyReq) :
    (register_passkey_verify p req).Justified (Lawful req.token) (fun _ _ => True) [] := by
  unfold register_passkey_verify
  split
  · exact .ret trivial
  · unfold register_with
    refine (refuse_invite_justified []).bind fun past refused _ guarded => ?_
    cases refused with
    | some r => exact .ret trivial
    | none =>
      have guarded := guarded rfl
      cases normalize_name req.name with
      | error e => exact .ret trivial
      | ok name =>
        refine (quiet_justified (require_name_uses quiet_reads name req.token) past).bind fun later refused extends_ _ => ?_
        cases refused with
        | some r => exact .ret trivial
        | none =>
          refine (consume_email_justified fun ok => (guarded ok).later extends_).bind fun past r _ admitted => ?_
          rcases r with e | _ | email1
          · exact .ret trivial
          · exact .ret trivial
          · exact register_as_justified _ name email1 _ (admitted email1 rfl)

private theorem request_justified (p : Site) (request : Request) :
    (request.run p).Justified (Lawful request.token) (fun _ _ => True) [] := by
  cases request with
  | options uuid token =>
    exact quiet_justified (register_passkey_options_uses quiet_reads (fun f key writes => by cases writes; simp) p token) []
  | verify req => exact verify_justified p req

end requests

/-! ### Runs -/

/-- What later requests of a run cannot answer, given earlier ones: the clock does
    not go back, and a token that is gone is not read again. -/
def Ordered (newer older : (o : FsOp) × o.Res) : Prop :=
  (∀ t t', newer = Clock t → older = Clock t' → t' ≤ t) ∧ ∀ token f, newer = Read token f → older ≠ Gone token

/-- The account was looked for and not found, and nobody wrote it since. -/
def Unwritten (email : String) (trace : List (Occurrence Fs ι)) : Prop :=
  ∃ newer e older, trace = newer ++ e :: older ∧ Misses email ⟨e.op, e.answer⟩ ∧ ∀ x ∈ newer, ¬ Writes email x

/-- What the trace says of the state. -/
structure Inv (email : String) (db : Db) (c : Pool Fs Db ι Response) : Prop where
  tokens : ∀ t, c.state.docs.get (.emailChallenges, t) = db.docs.get (.emailChallenges, t) ∨
    c.state.docs.get (.emailChallenges, t) = none
  gone : ∀ e ∈ c.trace, ∀ t, (⟨e.op, e.answer⟩ : (o : FsOp) × o.Res) = Gone t →
    (c.state.docs.get (.emailChallenges, t)).bind Db.readable = none
  read : ∀ e ∈ c.trace, ∀ t f, (⟨e.op, e.answer⟩ : (o : FsOp) × o.Res) = Read t f →
    ∃ doc, db.docs.get (.emailChallenges, t) = some doc ∧ doc.fields = f
  clock : ∀ e ∈ c.trace, ∀ t, (⟨e.op, e.answer⟩ : (o : FsOp) × o.Res) = Clock t → t ≤ c.state.clock
  ordered : c.trace.Pairwise fun a b => Ordered ⟨a.op, a.answer⟩ ⟨b.op, b.answer⟩
  unwritten : Unwritten email c.trace → account email c.state = none

variable {email : String} {db : Db}

private theorem Unwritten.of_cons {e : Occurrence Fs ι} {trace : List (Occurrence Fs ι)} (unwritten : Unwritten email (e :: trace)) :
    Misses email ⟨e.op, e.answer⟩ ∨ Unwritten email trace ∧ ¬ Writes email e := by
  obtain ⟨newer, x, older, split, misses, none⟩ := unwritten
  cases newer with
  | nil =>
    cases split
    exact .inl misses
  | cons y newer =>
    cases split
    exact .inr ⟨⟨newer, x, older, rfl, misses, fun z listed => none z (List.mem_cons_of_mem _ listed)⟩,
      none _ List.mem_cons_self⟩

variable [DecidableEq ι]

/-- A token stays or goes. -/
private theorem token_step {token : String} {past : Past Fs} {o : FsOp} {r : o.Res} {s s' : Db} (lawful : Lawful token past o)
    (does : sem o s r s') (t : String) :
    s'.docs.get (.emailChallenges, t) = s.docs.get (.emailChallenges, t) ∨ s'.docs.get (.emailChallenges, t) = none := by
  by_cases writes : o.writes = some (.emailChallenges, t)
  · have deletes := lawful.tokens t writes
    subst deletes
    rcases sem_effect does with rfl | rfl
    · exact .inl rfl
    · exact .inr (by simp [exec, get_erase])
  · exact .inl (sem_frame writes does)

private theorem Inv.step {tokens : ι → String} {c c' : Pool Fs Db ι Response} (inv : Inv email db c)
    (did : Pool.Did sem (Elsewhere email) (fun i => Lawful (tokens i)) c c') : Inv email db c' := by
  cases did with
  | env changes trace threads =>
    have kept : ∀ t, (c.state.docs.get (.emailChallenges, t)).bind Db.readable = none →
        (c'.state.docs.get (.emailChallenges, t)).bind Db.readable = none := by
      intro t gone
      rcases changes.tokens t with same | removed
      · rw [same, gone]
      · rw [removed]
        rfl
    refine ⟨fun t => ?_, ?_, ?_, ?_, ?_, ?_⟩
    · rcases changes.tokens t with same | removed
      · rw [same]
        exact inv.tokens t
      · exact .inr removed
    · rw [trace]
      exact fun e listed t is => kept t (inv.gone e listed t is)
    · rw [trace]
      exact inv.read
    · rw [trace]
      exact fun e listed t is => (inv.clock e listed t is).trans changes.clock
    · rw [trace]
      exact inv.ordered
    · rw [trace]
      exact fun unwritten => changes.account (inv.unwritten unwritten)
  | act e k next allowed does trace threads =>
    have tokens := token_step allowed does
    have clock : c'.state.clock = c.state.clock := sem_clock does
    obtain ⟨i, o, r⟩ := e
    have kept : ∀ t, (c.state.docs.get (.emailChallenges, t)).bind Db.readable = none →
        (c'.state.docs.get (.emailChallenges, t)).bind Db.readable = none := by
      intro t gone
      rcases tokens t with same | removed
      · rw [same, gone]
      · rw [removed]
        rfl
    refine ⟨fun t => ?_, ?_, ?_, ?_, ?_, ?_⟩
    · rcases tokens t with same | removed
      · rw [same]
        exact inv.tokens t
      · exact .inr removed
    · rw [trace]
      intro x listed t is
      rcases List.mem_cons.mp listed with rfl | before
      · cases is
        obtain ⟨same, found⟩ := sem_get_doc does
        rw [same]
        exact (found none rfl).symm
      · exact kept t (inv.gone x before t is)
    · rw [trace]
      intro x listed t f is
      rcases List.mem_cons.mp listed with rfl | before
      · cases is
        obtain ⟨doc, stored, shown⟩ := Option.bind_eq_some_iff.mp ((sem_get_doc does).2 (some f) rfl).symm
        have fields : doc.fields = f := by
          unfold Db.readable at shown
          split at shown
          · cases shown
          · exact Option.some.inj shown
        rcases inv.tokens t with same | removed
        · exact ⟨doc, same ▸ stored, fields⟩
        · rw [removed] at stored
          cases stored
      · exact inv.read x before t f is
    · rw [trace]
      intro x listed t is
      rw [clock]
      rcases List.mem_cons.mp listed with rfl | before
      · cases is
        exact (sem_now does).1.le
      · exact inv.clock x before t is
    · rw [trace, List.pairwise_cons]
      refine ⟨fun x listed => ⟨fun t t' is was => ?_, fun token f is was => ?_⟩, inv.ordered⟩
      · cases is
        rw [(sem_now does).1]
        exact inv.clock x listed t' was
      · cases is
        have found := (sem_get_doc does).2 (some f) rfl
        rw [inv.gone x listed token was] at found
        cases found
    · rw [trace]
      intro unwritten
      rcases unwritten.of_cons with misses | ⟨unwritten, other⟩
      · cases misses
        obtain ⟨same, found⟩ := sem_get_doc does
        rw [same]
        exact (found none rfl).symm
      · rw [← inv.unwritten unwritten, account, account, sem_frame other does]

private theorem expired_later {f : Fields} {t t' : Nat} (late : expired_at f t = true) (later : t ≤ t') : expired_at f t' = true := by
  simp only [expired_at, decide_eq_true_eq] at late ⊢
  exact lt_of_lt_of_le late later

/-- Who was admitted with an invitation has looked for the account and not found it. -/
private theorem Inv.missed {c : Pool Fs Db ι Response} (inv : Inv email db c) {i : ι} {token : String}
    (admitted : Admitted token email (Pool.past c.trace i)) (invitation : Invitation db email token) :
    ∃ x ∈ c.trace, x.thread = i ∧ Misses email ⟨x.op, x.answer⟩ := by
  have ordered := Pool.past_pairwise inv.ordered i
  obtain ⟨doc, stored, invites⟩ := invitation
  -- Whatever was read of the token is what was issued.
  have issued : ∀ f, Read token f ∈ Pool.past c.trace i → f = doc.fields := by
    intro f read
    obtain ⟨doc', stored', same⟩ := inv.read _ (Pool.mem_past.mp read) token f rfl
    rw [stored] at stored'
    cases stored'
    exact same.symm
  obtain ⟨-, before, f, t, guarded, read, clock, live, named⟩ := admitted
  have fields := issued f read.mem
  cases guarded with
  | plain plain =>
    cases plain with
    | gone listed => exact absurd rfl ((read.related ordered listed).2 token f rfl)
    | expired f' t' read' clock' late =>
      have same := issued f' (read.before_mem read')
      have order := (clock.related ordered clock').1 t t' rfl rfl
      rw [same, ← fields] at late
      rw [expired_later late order] at live
      cases live
    | other f' read' none =>
      have same := issued f' (read.before_mem read')
      exact absurd (same ▸ invites) (none email)
  | free email' f' read' named' missed =>
    have same := issued f' (read.before_mem read')
    rw [same, ← fields, named] at named'
    cases named'
    obtain ⟨x, listed, misses⟩ := missed
    have listed := Pool.mem_past.mp (read.before_mem listed)
    exact ⟨_, listed, rfl, misses⟩

/-- Any number of requests with any tokens, in any order, some of which may fail:
    if nobody writes the account of an address between the time an invitation for
    it looks for the account and the time it writes it, then whenever a request
    with an invitation writes the account, there is none. -/
theorem invite_never_replaces (p : Site) (requests : ι → Request) (email : String) (db : Db) {c c' : Pool Fs Db ι Response}
    (steps : Relation.ReflTransGen (fun c c' => Pool.Step sem (Elsewhere email) c c' ∧
      Undisturbed email (fun i => Invitation db email (requests i).token) c c') (pool p requests db) c)
    (step : Pool.Step sem (Elsewhere email) c c')
    (calm : Undisturbed email (fun i => Invitation db email (requests i).token) c c') {e : Occurrence Fs ι}
    (wrote : c'.trace = e :: c.trace) (account_written : Writes email e)
    (invited : Invitation db email (requests e.thread).token) : account email c.state = none := by
  have honest : (pool p requests db).Honest (fun i => Lawful (requests i).token) fun _ _ _ => True :=
    fun i => request_justified p (requests i)
  have start : Inv email db (pool p requests db) := by
    refine ⟨fun _ => .inl rfl, ?_, ?_, ?_, List.Pairwise.nil, ?_⟩
    · exact fun e listed => absurd listed List.not_mem_nil
    · exact fun e listed => absurd listed List.not_mem_nil
    · exact fun e listed => absurd listed List.not_mem_nil
    · rintro ⟨newer, x, older, split, -⟩
      simp [pool] at split
  obtain ⟨inv, honest⟩ := honest.induct (fun _ _ inv _ did _ => inv.step did) start steps
  obtain ⟨-, did⟩ := honest.step step
  cases did with
  | env changes trace threads =>
    rw [trace] at wrote
    exact absurd (congrArg List.length wrote) (by simp)
  | act e' k next allowed does trace threads =>
    rw [wrote] at trace
    obtain ⟨rfl, -⟩ := List.cons.inj trace
    obtain ⟨x, listed, own, misses⟩ := inv.missed (allowed.account email account_written) invited
    obtain ⟨newer, older, split⟩ := List.append_of_mem listed
    have quiet := calm e wrote account_written invited
    rw [split, List.pairwise_append] at quiet
    refine inv.unwritten ⟨newer, x, older, split, misses, fun y listed writes => ?_⟩
    exact quiet.2.2 y listed x List.mem_cons_self ⟨writes, own, misses⟩

/-! ### Two invitations -/

/-- A test of the condition before a turn: nobody has written the account at all. -/
def calmBefore (email : String) (c : Pool Fs Db ι Response) (i : ι) : Bool :=
  match (c.threads i).next with
  | some o => o.writes ≠ some (.accounts, email) || c.trace.all fun e => e.op.writes ≠ some (.accounts, email)
  | none => true

private theorem calmBefore_promises (email : String) (invited : ι → Prop) (c : Pool Fs Db ι Response) (i : ι)
    (calm : calmBefore email c i = true) : Undisturbed email invited c (Pool.fire exec c i) := by
  intro e acted writes _
  unfold Pool.fire at acted
  split at acted
  · exact absurd (congrArg List.length acted) (by simp)
  · rename_i o k next
    obtain ⟨rfl, -⟩ := List.cons.inj acted
    have writes : o.writes = some (.accounts, email) := writes
    rw [calmBefore, next] at calm
    simp only [Prog.next, writes, ne_eq, not_true_eq_false, decide_false, Bool.false_or, List.all_eq_true] at calm
    refine List.pairwise_of_forall_mem_list fun x listed y _ both => ?_
    have none := calm x listed
    rw [show x.op.writes = some (.accounts, email) from both.1] at none
    simp at none

def tokenOf (i : Fin 2) : String := if i.val = 0 then "invitation-0000000001" else "invitation-0000000002"
def challengeOf (i : Fin 2) : String := if i.val = 0 then "challenge-0000000001" else "challenge-0000000002"

def invitation (email : String) (expires_at : Nat) : Fields :=
  .ofEntries [("email", some (.string email)), ("returnTo", some (.string "https://rp/cb")), ("expiresAt", some (ts expires_at))]

/-- Two invitations for one address, and a ceremony for each of them. -/
def twoInvitations : Db :=
  (((Db.write { clock := 1000 } (.emailChallenges, "invitation-0000000001") (invitation "a@x" 2000)).write
    (.emailChallenges, "invitation-0000000002") (invitation "a@x" 2000)).write
    (.webauthnChallenges, "challenge-0000000001") (Ceremony.to_fields ⟨"a@x", .Reg, "", "u1"⟩ 1300)).write
    (.webauthnChallenges, "challenge-0000000002") (Ceremony.to_fields ⟨"a@x", .Reg, "", "u2"⟩ 1300)

/-- Each is used to register a passkey. -/
def register (i : Fin 2) : Request := .verify ⟨tokenOf i, Reference.registrationResponse (challengeOf i), some "Alice"⟩

def registering : Pool Fs Db (Fin 2) Response := pool Reference.site register twoInvitations

/-- With what the checks of the responses give. -/
def checked : Pool Fs Db (Fin 2) Response :=
  ⟨twoInvitations, fun i => register_with "/" (tokenOf i) (.ok (some "Alice")) (some (challengeOf i, .ok Reference.passkey)), []⟩

private theorem registering_eq : registering = checked := by
  have name : normalize_name (some "Alice") = .ok (some "Alice") := by decide +kernel
  have response : ∀ i, checked_response Reference.site (Reference.registrationResponse (challengeOf i)) =
      some (challengeOf i, .ok Reference.passkey) := by
    intro i
    refine Reference.response_checked ?_
    revert i
    decide +kernel
  have threads : (fun i => (register i).run Reference.site) =
      fun i => register_with "/" (tokenOf i) (.ok (some "Alice")) (some (challengeOf i, .ok Reference.passkey)) := by
    funext i
    have home : Reference.site.path "/" = "/" := by decide +kernel
    have stored : Reference.site.has_firestore = true := rfl
    show register_passkey_verify Reference.site
      ⟨tokenOf i, Reference.registrationResponse (challengeOf i), some "Alice"⟩ = _
    unfold register_passkey_verify
    rw [stored, home, name, response i]
    rfl
  rw [registering, pool, threads, checked]

private theorem invited (i : Fin 2) : Invitation twoInvitations "a@x" (register i).token := by
  have stored : ∃ n, twoInvitations.docs.get (.emailChallenges, tokenOf i) = some ⟨invitation "a@x" 2000, n⟩ := by
    fin_cases i
    · exact ⟨1, rfl⟩
    · exact ⟨2, rfl⟩
  obtain ⟨n, stored⟩ := stored
  refine ⟨_, stored, ?_, "https://rp/cb", ?_, by decide⟩
  · simp [invitation, Table.ofEntries, field_str, Table.get_put]
  · simp [invitation, Table.ofEntries, field_str, Table.get_put]

/-- The turn of a request that is about to write the account. -/
private theorem writes_next {c : Pool Fs Db (Fin 2) Response} {i : Fin 2}
    (next : (c.threads i).next.bind FsOp.writes = some (.accounts, "a@x")) :
    Pool.Step (Sem.ofHandler exec) (Elsewhere "a@x") c (Pool.fire exec c i) ∧
      ∃ e, (Pool.fire exec c i).trace = e :: c.trace ∧ e.thread = i ∧ Writes "a@x" e := by
  unfold Pool.fire
  cases here : c.threads i with
  | ret a =>
    rw [here] at next
    cases next
  | call o k =>
    rw [here] at next
    exact ⟨.act i here rfl, _, rfl, rfl, next⟩

/-- The first one writes the account, and nothing was there. -/
theorem invite_never_replaces_in_turn : ∃ (c c' : Pool Fs Db (Fin 2) Response) (e : Occurrence Fs (Fin 2)),
    Pool.Step sem (Elsewhere "a@x") c c' ∧ c'.trace = e :: c.trace ∧ Writes "a@x" e ∧
    Invitation twoInvitations "a@x" (register e.thread).token ∧ account "a@x" c.state = none := by
  have calm : Pool.Before exec (fun c i => calmBefore "a@x" c i = true) checked (Pool.turns [0, 0, 0, 0, 0, 0, 0, 0, 0, 0, 0]) := by
    decide +kernel
  have steps : Relation.ReflTransGen (fun c c' => Pool.Step (Sem.ofHandler exec) (Elsewhere "a@x") c c' ∧
      Undisturbed "a@x" (fun i => Invitation twoInvitations "a@x" (register i).token) c c') checked _ :=
    Pool.schedule_steps_where (P := fun c i => calmBefore "a@x" c i = true) (calmBefore_promises "a@x" _) calm
  rw [← registering_eq] at steps
  have mayFail : Relation.ReflTransGen (fun c c' => Pool.Step sem (Elsewhere "a@x") c c' ∧
      Undisturbed "a@x" (fun i => Invitation twoInvitations "a@x" (register i).token) c c') registering _ :=
    Relation.ReflTransGen.mono (fun _ _ step => ⟨step.1.mono (fun _ _ _ _ => .inl) fun _ _ => id, step.2⟩) _ _ steps
  have next : ((Pool.schedule exec registering (Pool.turns [0, 0, 0, 0, 0, 0, 0, 0, 0, 0, 0])).threads 0).next.bind FsOp.writes =
      some (.accounts, "a@x") := by
    rw [registering_eq]
    decide +kernel
  have last : calmBefore "a@x" (Pool.schedule exec registering (Pool.turns [0, 0, 0, 0, 0, 0, 0, 0, 0, 0, 0])) 0 = true := by
    rw [registering_eq]
    decide +kernel
  obtain ⟨step, e, acted, own, writes⟩ := writes_next next
  have step : Pool.Step sem (Elsewhere "a@x") _ _ := step.mono (fun _ _ _ _ => .inl) fun _ _ => id
  have invitation : Invitation twoInvitations "a@x" (register e.thread).token := own ▸ invited 0
  exact ⟨_, _, e, step, acted, writes, invitation, invite_never_replaces Reference.site register "a@x" twoInvitations mayFail
    step (calmBefore_promises "a@x" _ _ 0 last) acted writes invitation⟩

/-- Both look for the account before the first one writes it. The second replaces it. -/
theorem invite_replaces : ∃ (c c' : Pool Fs Db (Fin 2) Response) (e : Occurrence Fs (Fin 2)),
    Relation.ReflTransGen (Pool.Step (Sem.ofHandler exec) (Elsewhere "a@x")) registering c ∧
    Pool.Step (Sem.ofHandler exec) (Elsewhere "a@x") c c' ∧ c'.trace = e :: c.trace ∧ Writes "a@x" e ∧
    Invitation twoInvitations "a@x" (register e.thread).token ∧ (account "a@x" c.state).isSome = true := by
  have next : ((Pool.schedule exec checked
      (Pool.turns [0, 0, 0, 1, 1, 1, 0, 0, 0, 0, 0, 0, 0, 0, 0, 0, 0, 0, 1, 1, 1, 1, 1, 1, 1, 1])).threads 1).next.bind
      FsOp.writes = some (.accounts, "a@x") := by
    decide +kernel
  obtain ⟨step, e, acted, own, writes⟩ := writes_next next
  refine ⟨_, _, e, ?_, step, acted, writes, own ▸ invited 1, ?_⟩
  · rw [registering_eq]
    exact Pool.schedule_steps _ _ _ _
  · decide +kernel

end RustOp.Web.InviteRace
