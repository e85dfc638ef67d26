import RustOp.Firestore.Footprint
import RustOp.Firestore.Contract
import RustOp.Deployment

/-!
Concurrent redemptions of one code, request by request to Firestore. The call
that takes the code marks it used first and links its tokens last; a replay
revokes what it finds linked when it reads the code.
-/
namespace RustOp.CodeRace
open RustOp.Effects RustOp.Text RustOp.Firestore

/-! ### The race -/

/-- A redemption: the client, its form, and the key it proved. -/
structure Request where
  client : Client
  form : Form
  jkt : Option String

abbrev Call := Prog Fs (Except OAuthError TokenResponse)

def redemption (p : Provider) (uuid : Draw → String) (r : Request) : Call :=
  (AuthorizationCodeGrant.handle p uuid r.client r.form r.jkt).lower production

/-- Concurrent redemptions, each with its own draws. -/
def race (p : Provider) (ent : Entropy) (db : Db) {n : Nat} (requests : Fin n → Request) :
    Pool Fs Db (Fin n) (Except OAuthError TokenResponse) where
  state := db
  threads := fun i => redemption p (ent.uuid i) (requests i)
  trace := []

/-- Time passes, but no token saved since the start expires. -/
def NoExpiry (start : Nat) (db db' : Db) : Prop := Ticks db db' ∧ db'.clock ≤ start + ACCESS_TTL_SECS

/-- A step of the race. -/
abbrev Races {n : Nat} (start : Nat) :=
  Pool.Step (α := Except OAuthError TokenResponse) (ι := Fin n) (Sem.ofHandler exec) (NoExpiry start)

/-- The code was saved and not presented yet; the identifiers to be drawn are new. -/
structure Issued (ent : Entropy) (code : AuthorizationCode) (db : Db) : Prop where
  saved : (db.docs.get (.authCodes, code.code)).map Doc.fields = some (AuthorizationCode.to_fields code)
  stamped : Stamped db
  access : ∀ i, db.docs.get (.accessTokens, ent.uuid i .access_token) = none
  refresh : ∀ i, db.docs.get (.refreshTokens, ent.uuid i .refresh_token) = none
  early : db.clock + REFRESH_TTL_SECS < YEAR_10000

/-- No token that one of the calls issued is live. -/
def Dead (ent : Entropy) (n : Nat) (db : Db) : Prop :=
  ∀ i < n, (view db).access (ent.uuid i .access_token) = none ∧ (view db).refresh (ent.uuid i .refresh_token) = none

section trace
variable {ι : Type}

def isSave : FsOp → Bool
  | .set_doc .accessTokens _ _ => true
  | _ => false

def isLink (code : String) : FsOp → Bool
  | .merge_doc .authCodes id _ => id = code
  | _ => false

def isRead (code : String) : FsOp → Bool
  | .get_doc_with_update_time .authCodes id => id = code
  | _ => false

/-- The call saved an access token. -/
def Saved (i : ι) (trace : List (Occurrence Fs ι)) : Prop := ∃ o ∈ trace, o.thread = i ∧ isSave o.op = true

/-- The call linked its tokens to the code. -/
def Linked (code : String) (i : ι) (trace : List (Occurrence Fs ι)) : Prop :=
  ∃ o ∈ trace, o.thread = i ∧ isLink code o.op = true

/-- After the call had linked its tokens, a call read the code. The trace starts
    with the newest request. -/
def Replayed (code : String) (i : ι) : List (Occurrence Fs ι) → Prop
  | [] => False
  | o :: earlier => Replayed code i earlier ∨ isRead code o.op = true ∧ Linked code i earlier

/-- Whoever saved an access token linked it, and the code was read after that. -/
def Caught (code : String) (trace : List (Occurrence Fs ι)) : Prop := ∀ i, Saved i trace → Replayed code i trace

instance [DecidableEq ι] (i : ι) (trace : List (Occurrence Fs ι)) : Decidable (Saved i trace) :=
  inferInstanceAs (Decidable (∃ o ∈ trace, o.thread = i ∧ isSave o.op = true))

instance [DecidableEq ι] (code : String) (i : ι) (trace : List (Occurrence Fs ι)) : Decidable (Linked code i trace) :=
  inferInstanceAs (Decidable (∃ o ∈ trace, o.thread = i ∧ isLink code o.op = true))

instance decidableReplayed [DecidableEq ι] (code : String) (i : ι) :
    (trace : List (Occurrence Fs ι)) → Decidable (Replayed code i trace)
  | [] => inferInstanceAs (Decidable False)
  | o :: earlier =>
    have := decidableReplayed code i earlier
    inferInstanceAs (Decidable (Replayed code i earlier ∨ isRead code o.op = true ∧ Linked code i earlier))

instance {n : Nat} (code : String) (trace : List (Occurrence Fs (Fin n))) : Decidable (Caught code trace) :=
  inferInstanceAs (Decidable (∀ i, Saved i trace → Replayed code i trace))

end trace

/-! ### The programs -/

/-- The call is done but for readings of the clock. -/
def Idle (p : Call) : Prop := p.Uses fun o : FsOp => o = .now

/-- The call deletes these documents and is done. -/
inductive Drops : List (Col × String) → Call → Prop where
  | done {p : Call} (idle : Idle p) : Drops [] p
  | drop {col : Col} {id : String} {keys : List (Col × String)} {k : Except String Unit → Call}
      (rest : ∀ r, Drops keys (k r)) : Drops ((col, id) :: keys) (.call (.delete_doc col id) k)

/-- The document outlives the race. -/
def Lasting (deadline : Nat) (f : Fields) : Prop :=
  f.entries.isEmpty = false ∧ ∃ e, field_ts_secs f "expiresAt" = some e ∧ deadline ≤ e

/-- The winner of the code between the taking and the link. It has saved its
    access token or not, and perhaps a refresh token; it may give up before the
    link. -/
inductive Issues (uuid : Draw → String) (code : String) (start : Nat) : Bool → Option String → Call → Prop where
  | stop {a : Bool} {r : Option String} {p : Call} (idle : Idle p) : Issues uuid code start a r p
  | wait {a : Bool} {r : Option String} {k : Nat → Call}
      (rest : ∀ t, start ≤ t → t ≤ start + ACCESS_TTL_SECS → Issues uuid code start a r (k t)) :
      Issues uuid code start a r (.call .now k)
  | access {f : Fields} {k : Except String Unit → Call} (lasting : Lasting (start + ACCESS_TTL_SECS) f)
      (rest : ∀ x, Issues uuid code start true none (k x)) :
      Issues uuid code start false none (.call (.set_doc .accessTokens (uuid .access_token) f) k)
  | refresh {f : Fields} {k : Except String Unit → Call}
      (rest : ∀ x, Issues uuid code start true (some (uuid .refresh_token)) (k x)) :
      Issues uuid code start true none (.call (.set_doc .refreshTokens (uuid .refresh_token) f) k)
  | link {r : Option String} {k : Except String Unit → Call} (idle : ∀ x, Idle (k x)) :
      Issues uuid code start true r
        (.call (.merge_doc .authCodes code (FirestoreStore.link_fields (uuid .access_token) r)) k)

/-- The call has read the unused code and is about to take it. -/
def Takes (uuid : Draw → String) (code : String) (start : Nat) (f : Fields) (time : Nat) (p : Call) : Prop :=
  ∃ k, p = .call (.set_doc_if_unchanged .authCodes code (f.set "used" (.boolean true)) time) k ∧
    (∀ r, r ≠ .ok true → Idle (k r)) ∧ Issues uuid code start false none (k (.ok true))

/-- The call is about to read the code. What it finds used it revokes; what it
    finds unused it tries to take. -/
def Begins (uuid : Draw → String) (code : String) (start : Nat) (p : Call) : Prop :=
  ∃ k, p = .call (.get_doc_with_update_time .authCodes code) k ∧
    (∀ f time, (field_bool f "used").getD false = true →
      Drops (((field_str f "issuedAccessToken").map (Col.accessTokens, ·)).toList ++
        ((field_str f "issuedRefreshToken").map (Col.refreshTokens, ·)).toList) (k (.ok (some (f, time))))) ∧
    ∀ f time, (field_bool f "used").getD false = false → Takes uuid code start f time (k (.ok (some (f, time))))

section shapes
variable (p : Provider) (uuid : Draw → String) {code : String} {start : Nat}

private theorem lasting_access (early : start + REFRESH_TTL_SECS < YEAR_10000) (token : AccessToken) {t : Nat}
    (after : start ≤ t) (before : t ≤ start + ACCESS_TTL_SECS) :
    Lasting (start + ACCESS_TTL_SECS) (AccessToken.to_fields token (t + ACCESS_TTL_SECS)) := by
  have stored : (AccessToken.to_fields token (t + ACCESS_TTL_SECS)).get "expiresAt" = some (ts (t + ACCESS_TTL_SECS)) := by
    simp [AccessToken.to_fields, Table.ofEntries, Table.get_put]
  have fits : t + ACCESS_TTL_SECS < YEAR_10000 := by
    simp only [ACCESS_TTL_SECS, REFRESH_TTL_SECS] at *
    omega
  refine ⟨?_, t + ACCESS_TTL_SECS, field_ts_secs_ts stored fits, by omega⟩
  cases empty : (AccessToken.to_fields token (t + ACCESS_TTL_SECS)).entries with
  | nil => simp [Table.get, AList.lookup, empty] at stored
  | cons => rfl

/-- What the call does when it has taken the code and every check passed. -/
private theorem redeem_issues (early : start + REFRESH_TTL_SECS < YEAR_10000) (client : Client) (jkt : Option String)
    (c : AuthorizationCode) :
    Issues uuid code start false none ((redeem p uuid client code jkt c).lower production) := by
  unfold redeem issue_access_and_id
  refine .wait fun t after before => .access (lasting_access early _ after before) fun _ => .wait fun iat _ _ => ?_
  cases p.signer_for client.id_token_signed_response_alg with
  | error e => exact .stop trivial
  | ok alg =>
    simp only
    unfold maybe_issue_refresh
    split
    · exact .link fun _ => trivial
    · split
      · exact .link fun _ => trivial
      · exact .wait fun _ _ _ => .refresh fun _ => .link fun _ => trivial

private theorem redemption_begins (early : start + REFRESH_TTL_SECS < YEAR_10000) {r : Request}
    (sent : r.form.get "code" = some code) : Begins uuid code start (redemption p uuid r) := by
  unfold redemption AuthorizationCodeGrant.handle
  rw [sent]
  refine ⟨_, rfl, fun f time used => ?_, fun f time unused => ?_⟩
  · dsimp only [Prog.bind, Prog.lower]
    simp only [used]
    cases field_str f "issuedAccessToken" <;> cases field_str f "issuedRefreshToken"
    · exact .done trivial
    · exact .drop fun _ => .done trivial
    · exact .drop fun _ => .done trivial
    · exact .drop fun _ => .drop fun _ => .done trivial
  · dsimp only [Prog.bind]
    simp only [unused]
    refine ⟨_, rfl, fun won lost => ?_, ?_⟩
    · rcases won with e | ⟨_ | _⟩
      · trivial
      · trivial
      · exact absurd rfl lost
    · dsimp only [Prog.bind, Prog.pure_eq]
      split
      · exact .stop trivial
      · refine .wait fun t _ _ => ?_
        dsimp only [Prog.bind, Prog.pure_eq]
        split
        · exact .stop trivial
        · split
          · exact .stop trivial
          · exact redeem_issues p uuid early r.client r.jkt _

end shapes

/-! ### The three phases -/

section trace
variable {ι : Type} {i : ι} {o : Occurrence Fs ι} {trace : List (Occurrence Fs ι)} {code : String}

private theorem saved_cons : Saved i (o :: trace) ↔ o.thread = i ∧ isSave o.op = true ∨ Saved i trace := by
  simp [Saved]

private theorem linked_cons : Linked code i (o :: trace) ↔ o.thread = i ∧ isLink code o.op = true ∨ Linked code i trace := by
  simp [Linked]

private theorem replayed_linked (replayed : Replayed code i trace) : Linked code i trace := by
  induction trace with
  | nil => exact replayed.elim
  | cons o earlier ih =>
    rcases replayed with before | ⟨-, linked⟩
    · exact linked_cons.mpr (.inr (ih before))
    · exact linked_cons.mpr (.inr linked)

end trace

/-- The documents of a call that issued: its access token, and its refresh token if any. -/
def issued (uuid : Draw → String) (access : Bool) (refresh : Option String) : List (Col × String) :=
  (if access then [(.accessTokens, uuid .access_token)] else []) ++ (refresh.map (Col.refreshTokens, ·)).toList

/-- The documents a call may issue. -/
def own (uuid : Draw → String) : List (Col × String) :=
  [(.accessTokens, uuid .access_token), (.refreshTokens, uuid .refresh_token)]

section phases
variable {n : Nat} (uuid : Fin n → Draw → String) (code : String) (start : Nat) (fields : Fields) (time : Nat)

/-- The clock is within the race, and the code was written before it. -/
structure Timely (db : Db) : Prop where
  after : start ≤ db.clock
  before : db.clock ≤ start + ACCESS_TTL_SECS
  writes : time ≤ db.writes

/-- A call that neither issues nor revokes. -/
def Bystander (i : Fin n) (p : Call) : Prop :=
  Begins (uuid i) code start p ∨ Takes (uuid i) code start fields time p ∨ Idle p

/-- Nobody has taken the code. -/
structure Untaken (c : Pool Fs Db (Fin n) (Except OAuthError TokenResponse)) : Prop where
  timely : Timely start time c.state
  doc : c.state.docs.get (.authCodes, code) = some ⟨fields, time⟩
  absent : ∀ i, ∀ key ∈ own (uuid i), c.state.docs.get key = none
  threads : ∀ i, Bystander uuid code start fields time i (c.threads i)
  unsaved : ∀ i, ¬ Saved i c.trace
  unlinked : ∀ i, ¬ Linked code i c.trace

/-- The document of the taken code, with what is linked to it. -/
def Names (access refresh : Option String) (db : Db) : Prop :=
  ∃ doc, db.docs.get (.authCodes, code) = some doc ∧ time < doc.update_time ∧
    (field_bool doc.fields "used").getD false = true ∧ field_str doc.fields "issuedAccessToken" = access ∧
    field_str doc.fields "issuedRefreshToken" = refresh

/-- An access token that the race does not outlive. -/
def Stored (i : Fin n) (db : Db) : Prop :=
  ∃ doc, db.docs.get (.accessTokens, uuid i .access_token) = some doc ∧ Lasting (start + ACCESS_TTL_SECS) doc.fields

/-- Call `i` has taken the code and has not linked its tokens. -/
structure Taken (i : Fin n) (access : Bool) (refresh : Option String)
    (c : Pool Fs Db (Fin n) (Except OAuthError TokenResponse)) : Prop where
  timely : Timely start time c.state
  doc : Names code time none none c.state
  absent : ∀ j, ∀ key ∈ own (uuid j), (j = i → key ∉ issued (uuid i) access refresh) → c.state.docs.get key = none
  stored : access = true → Stored uuid start i c.state
  paired : access = false → refresh = none
  winner : Issues (uuid i) code start access refresh (c.threads i)
  others : ∀ j, j ≠ i → Bystander uuid code start fields time j (c.threads j)
  saved : ∀ j, Saved j c.trace ↔ j = i ∧ access = true
  unlinked : ∀ j, ¬ Linked code j c.trace

/-- Call `i` has linked its tokens. Once the code is read again, each of them is
    gone or about to be deleted. -/
structure Settled (i : Fin n) (refresh : Option String)
    (c : Pool Fs Db (Fin n) (Except OAuthError TokenResponse)) : Prop where
  timely : Timely start time c.state
  doc : Names code time (some (uuid i .access_token)) refresh c.state
  absent : ∀ j, ∀ key ∈ own (uuid j), (j = i → key ∉ issued (uuid i) true refresh) → c.state.docs.get key = none
  stored : ¬ Replayed code i c.trace → Stored uuid start i c.state
  dropped : Replayed code i c.trace → ∀ key ∈ issued (uuid i) true refresh, c.state.docs.get key = none ∨
    ∃ j keys, Drops keys (c.threads j) ∧ key ∈ keys
  threads : ∀ j, Begins (uuid j) code start (c.threads j) ∨ Takes (uuid j) code start fields time (c.threads j) ∨
    ∃ keys, Drops keys (c.threads j) ∧ keys ⊆ issued (uuid i) true refresh ∧ (keys ≠ [] → Replayed code i c.trace)
  linked : Linked code i c.trace
  saved : ∀ j, Saved j c.trace ↔ j = i

/-- Every run is in one of the phases. -/
def Invariant (c : Pool Fs Db (Fin n) (Except OAuthError TokenResponse)) : Prop :=
  Untaken uuid code start fields time c ∨ (∃ i a r, Taken uuid code start fields time i a r c) ∨
    ∃ i r, Settled uuid code start fields time i r c

variable {uuid code start fields time} {c : Pool Fs Db (Fin n) (Except OAuthError TokenResponse)}

/-! ### At the end -/

private theorem view_none {db : Db} {u : Draw → String} (absent : ∀ key ∈ own u, db.docs.get key = none) :
    (view db).access (u .access_token) = none ∧ (view db).refresh (u .refresh_token) = none := by
  have access := absent (.accessTokens, u .access_token) (by simp [own])
  have refresh := absent (.refreshTokens, u .refresh_token) (by simp [own])
  simp [view, unexpired, access, refresh]

private theorem view_stored {db : Db} {i : Fin n} (timely : Timely start time db) (stored : Stored uuid start i db) :
    (view db).access (uuid i .access_token) ≠ none := by
  obtain ⟨doc, found, nonempty, e, expires, later⟩ := stored
  have current : expired_at doc.fields db.clock = false := by
    simpa [expired_at, expires] using timely.before.trans later
  simp [view, unexpired, found, Db.readable, nonempty, current]

private theorem drops_ret {keys : List (Col × String)} {a : Except OAuthError TokenResponse}
    (drops : Drops keys (.ret a)) : keys = [] := by
  cases drops
  rfl

/-- When all calls are done, the tokens are gone exactly if the link was read. -/
private theorem Invariant.finished (inv : Invariant uuid code start fields time c) (finished : c.Finished) :
    (∀ i, (view c.state).access (uuid i .access_token) = none ∧ (view c.state).refresh (uuid i .refresh_token) = none) ↔
      Caught code c.trace := by
  rcases inv with untaken | ⟨i, a, r, taken⟩ | ⟨i, r, settled⟩
  · constructor
    · exact fun _ i saved => absurd saved (untaken.unsaved i)
    · exact fun _ i => view_none (untaken.absent i)
  · cases a with
    | false =>
      obtain rfl := taken.paired rfl
      constructor
      · intro _ j saved
        cases ((taken.saved j).mp saved).2
      · exact fun _ j => view_none fun key mine => taken.absent j key mine fun _ => by simp [issued]
    | true =>
      constructor
      · exact fun dead => absurd (dead i).1 (view_stored taken.timely (taken.stored rfl))
      · intro caught
        have replayed := caught i ((taken.saved i).mpr ⟨rfl, rfl⟩)
        exact absurd (replayed_linked replayed) (taken.unlinked i)
  · constructor
    · intro dead j saved
      obtain rfl := (settled.saved j).mp saved
      by_contra unread
      exact view_stored settled.timely (settled.stored unread) (dead j).1
    · intro caught j
      have replayed := caught i ((settled.saved i).mpr rfl)
      refine view_none fun key mine => ?_
      by_cases named : j = i ∧ key ∈ issued (uuid i) true r
      · rcases settled.dropped replayed key named.2 with gone | ⟨l, keys, drops, listed⟩
        · exact gone
        · obtain ⟨a, ends⟩ := finished l
          rw [ends] at drops
          rw [drops_ret drops] at listed
          cases listed
      · exact settled.absent j key mine fun same listed => named ⟨same, listed⟩

/-! ### One step -/

private theorem timely_write {db : Db} (timely : Timely start time db) (key : Col × String) (f : Fields) :
    Timely start time (db.write key f) :=
  ⟨timely.after, timely.before, timely.writes.trans (Nat.le_succ _)⟩

private theorem idle_step {o : FsOp} {k : o.Res → Call} (idle : Idle (.call o k)) : o = .now ∧ ∀ r, Idle (k r) := idle

/-- A step of a bystander that reads the clock or the unused code. -/
private theorem Untaken.act (inv : Untaken uuid code start fields time c)
    (unused : (field_bool fields "used").getD false = false) (accessless : field_str fields "issuedAccessToken" = none)
    (refreshless : field_str fields "issuedRefreshToken" = none) {j : Fin n} {o : FsOp} {k : o.Res → Call} {r : o.Res}
    {db : Db} (next : c.threads j = .call o k) (does : exec o c.state = (r, db)) :
    Invariant uuid code start fields time ⟨db, Function.update c.threads j (k r), ⟨j, o, r⟩ :: c.trace⟩ := by
  have quiet : ∀ {q : Call}, Bystander uuid code start fields time j q → isSave o = false → isLink code o = false →
      Untaken uuid code start fields time ⟨c.state, Function.update c.threads j q, ⟨j, o, r⟩ :: c.trace⟩ := by
    intro q stands notSave notLink
    refine ⟨inv.timely, inv.doc, inv.absent, fun i => ?_, fun i => ?_, fun i => ?_⟩
    · by_cases same : i = j
      · subst same
        simpa using stands
      · simpa [same] using inv.threads i
    · simpa [saved_cons, notSave] using inv.unsaved i
    · simpa [linked_cons, notLink] using inv.unlinked i
  rcases inv.threads j with ⟨k', shape, -, takes⟩ | ⟨k', shape, -, issues⟩ | idle
  · rw [next] at shape
    cases shape
    simp only [exec, inv.doc, Prod.mk.injEq] at does
    obtain ⟨rfl, rfl⟩ := does
    exact .inl (quiet (.inr (.inl (takes _ _ unused))) rfl rfl)
  · rw [next] at shape
    cases shape
    have current : c.state.unchanged (.authCodes, code) time = true := by simp [Db.unchanged, inv.doc]
    simp only [exec, current, if_true, Prod.mk.injEq] at does
    obtain ⟨rfl, rfl⟩ := does
    refine .inr (.inl ⟨j, false, none, timely_write inv.timely _ _, ?_, ?_, by simp, fun _ => rfl, ?_, ?_, ?_, ?_⟩)
    · refine ⟨⟨fields.set "used" (.boolean true), c.state.writes + 1⟩, ?_, ?_, ?_, ?_, ?_⟩
      · exact Table.get_set_self _ _ _
      · exact Nat.lt_succ_of_le inv.timely.writes
      · simp [field_bool]
      · simpa [field_str, Table.get_set] using accessless
      · simpa [field_str, Table.get_set] using refreshless
    · intro i key mine _
      have other : key ≠ (.authCodes, code) := by
        rintro rfl
        simp [own] at mine
      exact (Table.get_set_ne _ other _).trans (inv.absent i key mine)
    · simpa using issues
    · intro i other
      simpa [other] using inv.threads i
    · intro i
      simp [saved_cons, isSave, inv.unsaved i]
    · intro i
      simp [linked_cons, isLink, inv.unlinked i]
  · rw [next] at idle
    obtain ⟨rfl, rest⟩ := idle_step idle
    cases does
    exact .inl (quiet (.inr (.inr (rest _))) rfl rfl)

private theorem drops_nil {p : Call} (drops : Drops [] p) : Idle p := by
  cases drops with
  | done idle => exact idle

/-- The code is no longer the one that was read before the race. -/
private theorem stale {access refresh : Option String} {db : Db} (doc : Names code time access refresh db) :
    db.unchanged (.authCodes, code) time = false := by
  obtain ⟨d, found, later, -⟩ := doc
  have other : d.update_time ≠ time := by omega
  simp [Db.unchanged, found, other]

private theorem names_other {access refresh : Option String} {db : Db} (doc : Names code time access refresh db)
    {key : Col × String} (other : key ≠ (.authCodes, code)) (f : Fields) :
    Names code time access refresh (db.write key f) := by
  obtain ⟨d, found, rest⟩ := doc
  exact ⟨d, (Table.get_set_ne _ (Ne.symm other) _).trans found, rest⟩

/-- Linking names the tokens in the document. -/
private theorem names_link {db : Db} (doc : Names code time none none db) (timely : Timely start time db) (access : String)
    (refresh : Option String) :
    Names code time (some access) refresh
      (exec (.merge_doc .authCodes code (FirestoreStore.link_fields access refresh)) db).2 := by
  obtain ⟨d, found, -, used, -, refreshless⟩ := doc
  refine ⟨⟨d.fields.merge (FirestoreStore.link_fields access refresh), db.writes + 1⟩, ?_, ?_, ?_, ?_, ?_⟩
  · simp [exec, Db.write, found]
  · exact Nat.lt_succ_of_le timely.writes
  · simpa [field_bool, Table.get_merge, FirestoreStore.link_fields, Table.ofEntries, Table.get_put] using used
  · simp [field_str, Table.get_merge, FirestoreStore.link_fields, Table.ofEntries, Table.get_put]
  · exact congrArg Memory.CodeRecord.issued_refresh (codeRecord_link code d.fields access refresh refreshless)

/-- A bystander finds the code taken by another call that has linked nothing. -/
private theorem Taken.bystander {i : Fin n} {a : Bool} {refresh : Option String}
    (inv : Taken uuid code start fields time i a refresh c) {j : Fin n} (other : j ≠ i) {o : FsOp} {k : o.Res → Call}
    {r : o.Res} {db : Db} (next : c.threads j = .call o k) (does : exec o c.state = (r, db)) :
    Taken uuid code start fields time i a refresh ⟨db, Function.update c.threads j (k r), ⟨j, o, r⟩ :: c.trace⟩ := by
  have quiet : ∀ {q : Call}, Idle q → isSave o = false → isLink code o = false →
      Taken uuid code start fields time i a refresh ⟨c.state, Function.update c.threads j q, ⟨j, o, r⟩ :: c.trace⟩ := by
    intro q idle notSave notLink
    refine ⟨inv.timely, inv.doc, inv.absent, inv.stored, inv.paired, ?_, fun l apart => ?_, fun l => ?_, fun l => ?_⟩
    · simpa [Ne.symm other] using inv.winner
    · by_cases same : l = j
      · subst same
        simpa using .inr (.inr idle)
      · simpa [same] using inv.others l apart
    · simpa [saved_cons, notSave] using inv.saved l
    · simpa [linked_cons, notLink] using inv.unlinked l
  rcases inv.others j other with ⟨k', shape, revokes, -⟩ | ⟨k', shape, loses, -⟩ | idle
  · rw [next] at shape
    cases shape
    obtain ⟨d, found, -, used, accessless, refreshless⟩ := inv.doc
    simp only [exec, found, Prod.mk.injEq] at does
    obtain ⟨rfl, rfl⟩ := does
    have drops := revokes d.fields d.update_time used
    rw [accessless, refreshless] at drops
    exact quiet (drops_nil drops) rfl rfl
  · rw [next] at shape
    cases shape
    simp only [exec, stale inv.doc, Bool.false_eq_true, if_false, Prod.mk.injEq] at does
    obtain ⟨rfl, rfl⟩ := does
    exact quiet (loses _ (by simp)) rfl rfl
  · rw [next] at idle
    obtain ⟨rfl, rest⟩ := idle_step idle
    cases does
    exact quiet (rest _) rfl rfl

/-- The winner goes on: it reads the clock, saves a token, or links what it saved. -/
private theorem Taken.winner_act (distinct : ∀ i j a b, uuid i a = uuid j b → i = j ∧ a = b) {i : Fin n} {a : Bool}
    {refresh : Option String} (inv : Taken uuid code start fields time i a refresh c) {o : FsOp} {k : o.Res → Call}
    {r : o.Res} {db : Db} (next : c.threads i = .call o k) (does : exec o c.state = (r, db)) :
    Invariant uuid code start fields time ⟨db, Function.update c.threads i (k r), ⟨i, o, r⟩ :: c.trace⟩ := by
  have others : ∀ (q : Call) j, j ≠ i → Bystander uuid code start fields time j (Function.update c.threads i q j) := by
    intro q j other
    simpa [other] using inv.others j other
  have waits : ∀ {q : Call}, Issues (uuid i) code start a refresh q → o = .now →
      Taken uuid code start fields time i a refresh ⟨c.state, Function.update c.threads i q, ⟨i, o, r⟩ :: c.trace⟩ := by
    rintro q issues rfl
    refine ⟨inv.timely, inv.doc, inv.absent, inv.stored, inv.paired, ?_, others q, fun l => ?_, fun l => ?_⟩
    · simpa using issues
    · simpa [saved_cons, isSave] using inv.saved l
    · simpa [linked_cons, isLink] using inv.unlinked l
  have issues := inv.winner
  rw [next] at issues
  cases issues with
  | stop idle =>
    obtain ⟨rfl, rest⟩ := idle_step idle
    cases does
    exact .inr (.inl ⟨i, a, refresh, waits (.stop (rest _)) rfl⟩)
  | wait rest =>
    cases does
    exact .inr (.inl ⟨i, a, refresh, waits (rest _ inv.timely.after inv.timely.before) rfl⟩)
  | @access f _ lasting rest =>
    cases does
    refine .inr (.inl ⟨i, true, none, timely_write inv.timely _ _, names_other inv.doc (by simp) _, ?_, ?_, nofun, ?_,
      others _, ?_, ?_⟩)
    · intro j key mine free
      have other : key ≠ (.accessTokens, uuid i .access_token) := by
        rintro rfl
        have same : j = i := by
          have drawn : uuid i .access_token = uuid j .access_token := by simpa [own] using mine
          exact (distinct i j _ _ drawn).1.symm
        exact free same (by simp [issued])
      refine (Table.get_set_ne _ other _).trans (inv.absent j key mine fun same => ?_)
      simp [issued]
    · exact fun _ => ⟨_, Table.get_set_self _ _ _, lasting⟩
    · simpa using rest _
    · intro j
      simp [saved_cons, isSave, inv.saved, eq_comm]
    · intro j
      simp [linked_cons, isLink, inv.unlinked j]
  | @refresh f _ rest =>
    cases does
    refine .inr (.inl ⟨i, true, some (uuid i .refresh_token), timely_write inv.timely _ _,
      names_other inv.doc (by simp) _, ?_, ?_, nofun, ?_, others _, ?_, ?_⟩)
    · intro j key mine free
      have other : key ≠ (.refreshTokens, uuid i .refresh_token) := by
        rintro rfl
        have same : j = i := by
          have drawn : uuid i .refresh_token = uuid j .refresh_token := by simpa [own] using mine
          exact (distinct i j _ _ drawn).1.symm
        exact free same (by simp [issued])
      refine (Table.get_set_ne _ other _).trans (inv.absent j key mine fun same listed => free same ?_)
      simp only [issued, if_true, Option.map_none, Option.toList_none, List.append_nil, List.mem_singleton] at listed
      simp [issued, listed]
    · intro _
      obtain ⟨d, found, lasting⟩ := inv.stored rfl
      exact ⟨d, (Table.get_set_ne _ (by simp) _).trans found, lasting⟩
    · simpa using rest _
    · intro j
      simp [saved_cons, isSave, inv.saved]
    · intro j
      simp [linked_cons, isLink, inv.unlinked j]
  | link idle =>
    have frame : ∀ key ≠ (Col.authCodes, code), db.docs.get key = c.state.docs.get key := by
      intro key other
      cases does
      exact Table.get_set_ne _ other _
    have after : db = (exec (.merge_doc .authCodes code (FirestoreStore.link_fields (uuid i .access_token) refresh))
        c.state).2 := by rw [does]
    have unread : ¬ Replayed code i c.trace := fun replayed => inv.unlinked i (replayed_linked replayed)
    refine .inr (.inr ⟨i, refresh, ?_, ?_, ?_, ?_, ?_, ?_, ?_, ?_⟩)
    · rw [after]
      exact timely_write inv.timely _ _
    · rw [after]
      exact names_link inv.doc inv.timely _ _
    · intro j key mine free
      have other : key ≠ (.authCodes, code) := by
        rintro rfl
        simp [own] at mine
      exact (frame key other).trans (inv.absent j key mine free)
    · intro _
      obtain ⟨d, found, lasting⟩ := inv.stored rfl
      exact ⟨d, (frame _ (by simp)).trans found, lasting⟩
    · rintro (before | ⟨reads, -⟩)
      · exact absurd before unread
      · cases reads
    · intro j
      by_cases same : j = i
      · subst same
        exact .inr (.inr ⟨[], by simpa using .done (idle r), by simp, by simp⟩)
      · simp only [ne_eq, same, not_false_eq_true, Function.update_of_ne]
        rcases inv.others j same with begins | takes | rest
        · exact .inl begins
        · exact .inr (.inl takes)
        · exact .inr (.inr ⟨[], .done rest, by simp, by simp⟩)
    · exact linked_cons.mpr (.inl ⟨rfl, by simp [isLink]⟩)
    · intro j
      simp [saved_cons, isSave, inv.saved]

/-- A call deletes one of the linked tokens. -/
private theorem Settled.delete {i : Fin n} {refresh : Option String}
    (inv : Settled uuid code start fields time i refresh c) {j : Fin n} {col : Col} {id : String}
    {k : Except String Unit → Call} (next : c.threads j = .call (.delete_doc col id) k) (replayed : Replayed code i c.trace)
    {keys : List (Col × String)} (rest : ∀ r, Drops keys (k r)) (named : (col, id) :: keys ⊆ issued (uuid i) true refresh) :
    Settled uuid code start fields time i refresh ⟨c.state.erase (col, id), Function.update c.threads j (k (.ok ())),
      ⟨j, .delete_doc col id, .ok ()⟩ :: c.trace⟩ := by
  have notCode : (Col.authCodes, code) ≠ (col, id) := by
    rintro ⟨⟩
    have listed := named List.mem_cons_self
    cases refresh <;> simp [issued] at listed
  have gone : ∀ key, c.state.docs.get key = none → (c.state.erase (col, id)).docs.get key = none := by
    intro key absent
    simp [get_erase, absent]
  have read : Replayed code i (⟨j, .delete_doc col id, .ok ()⟩ :: c.trace) := .inl replayed
  refine ⟨⟨inv.timely.after, inv.timely.before, inv.timely.writes⟩, ?_, ?_, fun unread => absurd read unread, ?_, ?_,
    linked_cons.mpr (.inr inv.linked), fun l => ?_⟩
  · obtain ⟨d, found, others⟩ := inv.doc
    exact ⟨d, (Table.get_remove_ne _ notCode).trans found, others⟩
  · exact fun l key mine free => gone key (inv.absent l key mine free)
  · intro _ key listed
    by_cases same : key = (col, id)
    · exact .inl (same ▸ Table.get_remove_self _ _)
    · refine (inv.dropped replayed key listed).imp (gone key) ?_
      rintro ⟨l, others, drops, mem⟩
      by_cases own : l = j
      · subst own
        rw [next] at drops
        cases drops with
        | done idle => cases mem
        | drop rest =>
          rcases List.mem_cons.mp mem with head | tail
          · exact absurd head same
          · exact ⟨l, _, by simpa using rest _, tail⟩
      · exact ⟨l, others, by simpa [own] using drops, mem⟩
  · intro l
    by_cases own : l = j
    · subst own
      exact .inr (.inr ⟨keys, by simpa using rest _, fun _ listed => named (List.mem_cons_of_mem _ listed), fun _ => read⟩)
    · simp only [ne_eq, own, not_false_eq_true, Function.update_of_ne]
      refine (inv.threads l).imp_right (.imp_right ?_)
      exact fun ⟨keys, drops, named, _⟩ => ⟨keys, drops, named, fun _ => read⟩
  · simpa [saved_cons, isSave] using inv.saved l

/-- After the link a call that reads the code revokes what is linked. -/
private theorem Settled.act {i : Fin n} {refresh : Option String} (inv : Settled uuid code start fields time i refresh c)
    {j : Fin n} {o : FsOp} {k : o.Res → Call} {r : o.Res} {db : Db} (next : c.threads j = .call o k)
    (does : exec o c.state = (r, db)) :
    Settled uuid code start fields time i refresh ⟨db, Function.update c.threads j (k r), ⟨j, o, r⟩ :: c.trace⟩ := by
  -- Losing the code and reading the clock: the call had nothing to delete and has nothing to delete.
  have quiet : ∀ {q : Call}, Idle q → (∀ keys, Drops keys (c.threads j) → keys = []) → isSave o = false →
      isRead code o = false →
      Settled uuid code start fields time i refresh ⟨c.state, Function.update c.threads j q, ⟨j, o, r⟩ :: c.trace⟩ := by
    intro q idle nothing notSave notRead
    have same : Replayed code i (⟨j, o, r⟩ :: c.trace) ↔ Replayed code i c.trace := by simp [Replayed, notRead]
    refine ⟨inv.timely, inv.doc, inv.absent, ?_, ?_, ?_, linked_cons.mpr (.inr inv.linked), fun l => ?_⟩
    · exact fun unread => inv.stored fun before => unread (same.mpr before)
    · intro replayed key listed
      refine (inv.dropped (same.mp replayed) key listed).imp_right ?_
      rintro ⟨l, keys, drops, mem⟩
      by_cases own : l = j
      · subst own
        rw [nothing keys drops] at mem
        cases mem
      · exact ⟨l, keys, by simpa [own] using drops, mem⟩
    · intro l
      by_cases own : l = j
      · subst own
        exact .inr (.inr ⟨[], by simpa using .done idle, by simp, by simp⟩)
      · simpa [own, same] using inv.threads l
    · simpa [saved_cons, notSave] using inv.saved l
  rcases inv.threads j with ⟨k', shape, revokes, -⟩ | ⟨k', shape, loses, -⟩ | ⟨keys, drops, named, after⟩
  · rw [next] at shape
    cases shape
    obtain ⟨d, found, later, used, access, refreshed⟩ := inv.doc
    simp only [exec, found, Prod.mk.injEq] at does
    obtain ⟨rfl, rfl⟩ := does
    have drops := revokes d.fields d.update_time used
    rw [access, refreshed] at drops
    have read : ∀ answer, Replayed code i (⟨j, .get_doc_with_update_time .authCodes code, answer⟩ :: c.trace) :=
      fun _ => .inr ⟨by simp [isRead], inv.linked⟩
    refine ⟨inv.timely, ⟨d, found, later, used, access, refreshed⟩, inv.absent, fun unread => absurd (read _) unread, ?_, ?_,
      linked_cons.mpr (.inr inv.linked), fun l => ?_⟩
    · intro _ key listed
      exact .inr ⟨j, _, by simpa using drops, by simpa [issued] using listed⟩
    · intro l
      by_cases own : l = j
      · subst own
        exact .inr (.inr ⟨_, by simpa using drops, by simp [issued], fun _ => read _⟩)
      · simp only [ne_eq, own, not_false_eq_true, Function.update_of_ne]
        refine (inv.threads l).imp_right (.imp_right ?_)
        exact fun ⟨keys, drops, named, _⟩ => ⟨keys, drops, named, fun _ => read _⟩
    · simpa [saved_cons, isSave] using inv.saved l
  · rw [next] at shape
    cases shape
    simp only [exec, stale inv.doc, Bool.false_eq_true, if_false, Prod.mk.injEq] at does
    obtain ⟨rfl, rfl⟩ := does
    refine quiet (loses _ (by simp)) (fun keys drops => ?_) rfl rfl
    rw [next] at drops
    cases drops
    rfl
  · rw [next] at drops
    cases drops with
    | done idle =>
      obtain ⟨rfl, rest⟩ := idle_step idle
      cases does
      refine quiet (rest _) (fun keys drops => ?_) rfl rfl
      rw [next] at drops
      cases drops
      rfl
    | drop rest =>
      cases does
      exact inv.delete next (by simpa using after) rest named

/-- Time may pass in every phase. -/
private theorem Invariant.env (inv : Invariant uuid code start fields time c) {db : Db}
    (passes : NoExpiry start c.state db) : Invariant uuid code start fields time { c with state := db } := by
  obtain ⟨⟨t, later, rfl⟩, before⟩ := passes
  have timely : ∀ {db : Db}, Timely start time db → db.clock ≤ t → Timely start time { db with clock := t } :=
    fun was later => ⟨was.after.trans later, before, was.writes⟩
  rcases inv with untaken | ⟨i, a, r, taken⟩ | ⟨i, r, settled⟩
  · exact .inl { untaken with timely := timely untaken.timely later }
  · exact .inr (.inl ⟨i, a, r, { taken with timely := timely taken.timely later }⟩)
  · exact .inr (.inr ⟨i, r, { settled with timely := timely settled.timely later }⟩)

private theorem Invariant.step (distinct : ∀ i j a b, uuid i a = uuid j b → i = j ∧ a = b)
    (unused : (field_bool fields "used").getD false = false) (accessless : field_str fields "issuedAccessToken" = none)
    (refreshless : field_str fields "issuedRefreshToken" = none)
    {c' : Pool Fs Db (Fin n) (Except OAuthError TokenResponse)} (step : Races start c c')
    (inv : Invariant uuid code start fields time c) : Invariant uuid code start fields time c' := by
  cases step with
  | env passes => exact inv.env passes
  | @act j o k r db next does =>
    rcases inv with untaken | ⟨i, a, refresh, taken⟩ | ⟨i, refresh, settled⟩
    · exact untaken.act unused accessless refreshless next does
    · by_cases same : j = i
      · subst same
        exact taken.winner_act distinct next does
      · exact .inr (.inl ⟨i, a, refresh, taken.bystander same next does⟩)
    · exact .inr (.inr ⟨i, refresh, settled.act next does⟩)

end phases

/-! ### Runs -/

/-- The fields of a code that was just saved. -/
private theorem saved_fields (code : AuthorizationCode) :
    (field_bool (AuthorizationCode.to_fields code) "used").getD false = false ∧
      field_str (AuthorizationCode.to_fields code) "issuedAccessToken" = none ∧
      field_str (AuthorizationCode.to_fields code) "issuedRefreshToken" = none := by
  obtain ⟨t, record⟩ := codeRecord_to_fields code
  exact ⟨congrArg Memory.CodeRecord.used record, congrArg Memory.CodeRecord.issued_access record,
    congrArg Memory.CodeRecord.issued_refresh record⟩

/-- Any number of redemptions of a code, in any interleaving, with all of them
    finished: no issued token is live if and only if whoever saved its tokens
    linked them and the code was read after that. -/
theorem replay_caught_iff (p : Provider) (ent : Entropy) {code : AuthorizationCode} {db : Db}
    (fresh : Issued ent code db) {n : Nat} (requests : Fin n → Request)
    (presented : ∀ i, (requests i).form.get "code" = some code.code)
    {c : Pool Fs Db (Fin n) (Except OAuthError TokenResponse)}
    (steps : Relation.ReflTransGen (Races db.clock) (race p ent db requests) c) (finished : c.Finished) :
    Dead ent n c.state ↔ Caught code.code c.trace := by
  obtain ⟨⟨f, time⟩, stored, rfl⟩ := Option.map_eq_some_iff.mp fresh.saved
  obtain ⟨unused, accessless, refreshless⟩ := saved_fields code
  have start : Invariant (fun i : Fin n => ent.uuid i) code.code db.clock (AuthorizationCode.to_fields code) time
      (race p ent db requests) := by
    refine .inl ⟨⟨le_rfl, Nat.le_add_right _ _, fresh.stamped _ _ stored⟩, stored, ?_, ?_, ?_, ?_⟩
    · intro i key mine
      simp only [own, List.mem_cons, List.not_mem_nil, or_false] at mine
      rcases mine with rfl | rfl
      · exact fresh.access i
      · exact fresh.refresh i
    · exact fun i => .inl (redemption_begins p _ fresh.early (presented i))
    · simp [Saved, race]
    · simp [Linked, race]
  have distinct : ∀ (i j : Fin n) a b, ent.uuid i a = ent.uuid j b → i = j ∧ a = b := by
    intro i j a b same
    obtain ⟨numbers, draws⟩ := ent.distinct same
    exact ⟨Fin.ext numbers, draws⟩
  have inv := Pool.invariant (fun step => Invariant.step distinct unused accessless refreshless step) steps start
  rw [← inv.finished finished]
  exact ⟨fun dead i => dead i i.isLt, fun dead i below => dead ⟨i, below⟩⟩

/-- The same redemption twice. -/
def twins (_ : Fin 2) : Request := ⟨Reference.rp, Reference.redeemForm, none⟩

private theorem issued_codeSaved : Issued .unary Reference.offlineCode Reference.codeSaved where
  saved := rfl
  stamped := Grows.stamped (.exec (.authCodes, "c") _ { clock := 0 }) fun _ _ stored => by cases stored
  access := fun _ => rfl
  refresh := fun _ => rfl
  early := by decide

/-- The second call reads the code when the first is done. -/
theorem replay_caught_iff_in_sequence :
    Dead .unary 2 (Pool.schedule exec (race Reference.provider .unary Reference.codeSaved twins)
      (List.replicate 12 0 ++ List.replicate 4 1)).state :=
  (replay_caught_iff Reference.provider .unary issued_codeSaved twins (fun _ => rfl) (Pool.schedule_steps exec _ _ _)
    (Pool.finished_iff.mpr (by decide +kernel))).mpr (by decide +kernel)

/-- The second call reads the code after the first has taken it and before the
    first has linked its tokens. -/
theorem replay_in_gap_spares_tokens :
    ∃ c, Relation.ReflTransGen (Races 0) (race Reference.provider .unary Reference.codeSaved twins) c ∧ c.Finished ∧
      (∀ i, ∃ o ∈ c.trace, o.thread = i ∧ isRead "c" o.op = true) ∧
      (view c.state).access "a" ≠ none ∧ (view c.state).refresh "r" ≠ none :=
  ⟨Pool.schedule exec (race Reference.provider .unary Reference.codeSaved twins) ([0, 0, 1] ++ List.replicate 12 0),
    Pool.schedule_steps exec _ _ _, Pool.finished_iff.mpr (by decide +kernel), by decide +kernel, by decide +kernel,
    by decide +kernel⟩

end RustOp.CodeRace
