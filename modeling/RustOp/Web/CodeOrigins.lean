import RustOp.Web.CodeFlow

/-!
Where the records of the authorization code flow come from: a code from a request
that was checked, an account from somebody who signed in, a pushed request from
the client that pushed it.
-/
namespace RustOp.Web.CodeFlow
open RustOp.Effects RustOp.Text RustOp.Firestore

/-! ### Origins -/

variable (p : Site) (ent : Entropy) (jwks : ℕ → String → String → Option JwkPub) (requests : ℕ → Request)

/-- The parameters were pushed under this `request_uri`. -/
structure PushedUnder (trace : List (Occurrence Fs ℕ)) (uri creator raw : String) (i : ℕ) (headers : Headers) (body text : String)
    (above : Past Host) (client : Client) : Prop where
  request : requests i = .par headers body
  seen : Seen jwks trace i above
  named : par.id_of uri = some (ent.uuid i .request_uri)
  pushed : Pushed p.toServer headers body above client text raw
  creator : creator = client.client_id

/-- If a query says that it was pushed, it was. -/
def Known (trace : List (Occurrence Fs ℕ)) (q : Query) : Prop :=
  ∀ creator uri, q.pushed = some (creator, uri) →
    ∃ i headers body text above client, PushedUnder p ent jwks requests trace uri creator q.raw i headers body text above client

/-- A request that waits for a login: it was accepted, and perhaps somebody has
    signed in to it since. -/
inductive Waiting (trace : List (Occurrence Fs ℕ)) : Interaction → Prop where
  | asked (j : ℕ) (sid raw : Option String) (above : Past Host) (i : Interaction) (q : Query) (req : AddressedRequest)
      (request : requests j = .authorize sid raw) (seen : Seen jwks trace j above) (own : i.uid = ent.uuid j .interaction_uid)
      (waits : Waits p.toServer sid (raw.getD "") above i q req) (known : Known p ent jwks requests trace q) : Waiting trace i
  | signed_in (j : ℕ) (uid : String) (shown : AuthVerifyReq) (above : Past Host) (i : Interaction) (account_id : String)
      (auth_time : Nat) (request : requests j = .login uid shown) (seen : Seen jwks trace j above)
      (login : Login p uid shown above i account_id auth_time) (waiting : Waiting trace i) :
      Waiting trace { i with account_id := some account_id, auth_time := some auth_time }

/-- A session that a login has opened. -/
structure Opened (trace : List (Occurrence Fs ℕ)) (s : Session) (j : ℕ) (uid : String) (shown : AuthVerifyReq)
    (above : Past Host) (i : Interaction) : Prop where
  request : requests j = .login uid shown
  seen : Seen jwks trace j above
  login : Login p uid shown above i s.account_id s.auth_time
  waiting : Waiting p ent jwks requests trace i

/-- A code for an accepted request: of somebody with a session, or of somebody who
    signed in to it. -/
inductive Authorised (trace : List (Occurrence Fs ℕ)) : AuthorizationCode → Prop where
  | session (j : ℕ) (sid raw : Option String) (above : Past Host) (c : AuthorizationCode) (q : Query) (req : AddressedRequest)
      (s : Session) (t : Nat) (request : requests j = .authorize sid raw) (seen : Seen jwks trace j above)
      (own : c.code = ent.uuid j .code) (code : SessionCode p.toServer sid (raw.getD "") above c q req s t)
      (known : Known p ent jwks requests trace q)
      (opened : ∃ j uid shown above i, Opened p ent jwks requests trace s j uid shown above i) : Authorised trace c
  | login (j : ℕ) (q : Form) (above : Past Host) (c : AuthorizationCode) (i : Interaction) (req : AddressedRequest)
      (account_id : String) (auth_time : Nat) (request : requests j = .resume q) (seen : Seen jwks trace j above)
      (own : c.code = ent.uuid j .code)
      (code : LoginCode p.toServer ((q.get "uid").getD "") above c i req account_id auth_time)
      (waiting : Waiting p ent jwks requests trace i) : Authorised trace c

/-- What a document of the flow says, and who put it there. A code may have lost
    everything but the tokens it issued. -/
inductive Told (trace : List (Occurrence Fs ℕ)) : Col × String → Fields → Prop where
  | interaction (i : Interaction) (t : Nat) (waiting : Waiting p ent jwks requests trace i) :
      Told trace (.interactions, i.uid) (Interaction.to_fields i t)
  | session (s : Session) (t : Nat) (opened : ∃ j uid shown above i, Opened p ent jwks requests trace s j uid shown above i) :
      Told trace (.sessions, s.sid) (Session.to_fields s t)
  | pushed (i : ℕ) (headers : Headers) (body text params : String) (above : Past Host) (client : Client) (t : Nat)
      (request : requests i = .par headers body) (seen : Seen jwks trace i above)
      (pushed : Pushed p.toServer headers body above client text params) :
      Told trace (.parRequests, ent.uuid i .request_uri) (par.fields client.client_id params t)
  | code (c : AuthorizationCode) (f : Fields) (authorised : Authorised p ent jwks requests trace c)
      (decoded : ∃ e, AuthorizationCode.from_fields c.code f = { c with expires_at := e } ∧
        (c.expires_at < YEAR_10000 → e = c.expires_at)) : Told trace (.authCodes, c.code) f
  | ghost (code : String) (f : Fields) (undated : field_ts_secs f "expiresAt" = none) : Told trace (.authCodes, code) f

section later
variable {p ent jwks requests} {trace : List (Occurrence Fs ℕ)} (e : Occurrence Fs ℕ)

theorem Known.later {q : Query} (known : Known p ent jwks requests trace q) : Known p ent jwks requests (e :: trace) q := by
  intro creator uri same
  obtain ⟨i, headers, body, text, above, client, request, seen, named, pushed, own⟩ := known creator uri same
  exact ⟨i, headers, body, text, above, client, request, seen.later e, named, pushed, own⟩

theorem Waiting.later {i : Interaction} (waiting : Waiting p ent jwks requests trace i) :
    Waiting p ent jwks requests (e :: trace) i := by
  induction waiting with
  | asked j sid raw above i q req request seen own waits known =>
    exact .asked j sid raw above i q req request (seen.later e) own waits (known.later e)
  | signed_in j uid shown above i account_id auth_time request seen login _ ih =>
    exact .signed_in j uid shown above i account_id auth_time request (seen.later e) login ih

theorem Opened.later {s : Session} {j : ℕ} {uid : String} {shown : AuthVerifyReq} {above : Past Host} {i : Interaction}
    (opened : Opened p ent jwks requests trace s j uid shown above i) :
    Opened p ent jwks requests (e :: trace) s j uid shown above i :=
  ⟨opened.request, opened.seen.later e, opened.login, opened.waiting.later e⟩

theorem Authorised.later {c : AuthorizationCode} (authorised : Authorised p ent jwks requests trace c) :
    Authorised p ent jwks requests (e :: trace) c := by
  cases authorised with
  | session j sid raw above c q req s t request seen own code known opened =>
    obtain ⟨k, uid, shown, above', i, opened⟩ := opened
    exact .session j sid raw above c q req s t request (seen.later e) own code (known.later e)
      ⟨k, uid, shown, above', i, opened.later e⟩
  | login j q above c i req account_id auth_time request seen own code waiting =>
    exact .login j q above c i req account_id auth_time request (seen.later e) own code (waiting.later e)

theorem Told.later {key : Col × String} {f : Fields} (told : Told p ent jwks requests trace key f) :
    Told p ent jwks requests (e :: trace) key f := by
  cases told with
  | interaction i t waiting => exact .interaction i t (waiting.later e)
  | session s t opened =>
    obtain ⟨j, uid, shown, above, i, opened⟩ := opened
    exact .session s t ⟨j, uid, shown, above, i, opened.later e⟩
  | pushed i headers body text params above client t request seen pushed =>
    exact .pushed i headers body text params above client t request (seen.later e) pushed
  | code c f authorised decoded => exact .code c f (authorised.later e) decoded
  | ghost code f undated => exact .ghost code f undated

end later

/-! ### What a request was shown -/

section shown
variable {p ent jwks requests} {trace : List (Occurrence Fs ℕ)} {i : ℕ} {below : Past Fs} {above : Past Host}
  (implements : Prog.Implements (production (jwks i)) above below)
  (shown : ∀ x ∈ below, ∀ key f, FlowCol key.1 → Shows x key f → Told p ent jwks requests trace key f)
include implements shown

theorem found_interaction {uid : String} {w : Interaction} (read : ⟨.backend (.store (.get_interaction uid)), some w⟩ ∈ above) :
    Waiting p ent jwks requests trace w := by
  obtain ⟨f, listed, rfl, -⟩ := got_interaction (implements.ran read)
  have told := shown _ listed (.interactions, uid) f trivial (.get_doc ..)
  cases told with
  | interaction w t waiting =>
    rw [RoundTrip.interaction_from_to_fields]
    exact waiting

theorem found_session {sid : String} {s : Session} (read : ⟨.backend (.store (.get_session sid)), some s⟩ ∈ above) :
    ∃ j uid shown above w, Opened p ent jwks requests trace s j uid shown above w := by
  obtain ⟨f, listed, rfl, -⟩ := got_session (implements.ran read)
  have told := shown _ listed (.sessions, sid) f trivial (.get_doc ..)
  cases told with
  | session s t opened =>
    rw [RoundTrip.session_from_to_fields]
    exact opened

theorem found_pushed {raw : String} {q : Query} (asked : Asked p.toServer above raw q) : Known p ent jwks requests trace q := by
  cases asked with
  | query plain => exact fun creator uri same => by cases same
  | request_object jwt client params sent registered verified => exact fun creator uri same => by cases same
  | pushed uri id f t sent named read clock unexpired =>
    intro creator uri' same
    cases same
    obtain ⟨before, after, ⟨answer, rfl, rfl⟩, old⟩ := implements.ran read
    have told := shown _ (old.subset List.mem_cons_self) (.parRequests, id) f trivial (.get_doc ..)
    cases told with
    | pushed k headers body text params above' client t' request seen pushed =>
      have stored : (par.fields client.client_id params t').get "params" = some (.string params) := by
        simp [par.fields, Table.ofEntries, Table.get_put]
      have creator : (par.fields client.client_id params t').get "clientId" = some (.string client.client_id) := by
        simp [par.fields, Table.ofEntries, Table.get_put]
      simp only [field_str, stored, creator, Option.getD_some]
      exact ⟨k, headers, body, text, above', client, request, seen, named, pushed, rfl⟩

end shown

/-! ### Documents of codes -/

private theorem decoded_saved (c : AuthorizationCode) :
    ∃ e, AuthorizationCode.from_fields c.code (AuthorizationCode.to_fields c) = { c with expires_at := e } ∧
      (c.expires_at < YEAR_10000 → e = c.expires_at) := by
  obtain ⟨e, record⟩ := codeRecord_to_fields c
  have decoded : AuthorizationCode.from_fields c.code (AuthorizationCode.to_fields c) = { c with expires_at := e } :=
    congrArg Memory.CodeRecord.code record
  refine ⟨e, decoded, fun early => ?_⟩
  have same := RoundTrip.code_from_to_fields c early
  rw [decoded] at same
  exact congrArg AuthorizationCode.expires_at same

/-- Linking the issued tokens leaves the other fields. -/
private theorem get_link (f : Fields) (access_token : String) (refresh_token : Option String) {name : String}
    (access : name ≠ "issuedAccessToken") (refresh : name ≠ "issuedRefreshToken") :
    (f.merge (FirestoreStore.link_fields access_token refresh_token)).get name = f.get name := by
  rw [Table.get_merge]
  simp [FirestoreStore.link_fields, Table.ofEntries, Table.get_put, access, refresh]

private theorem from_fields_link (code : String) (f : Fields) (access_token : String) (refresh_token : Option String) :
    AuthorizationCode.from_fields code (f.merge (FirestoreStore.link_fields access_token refresh_token)) =
      AuthorizationCode.from_fields code f := by
  simp [AuthorizationCode.from_fields, field_str, field_u64, field_ts_secs, get_link]

section documents
variable {p ent jwks requests} {trace : List (Occurrence Fs ℕ)} {code : String}

private theorem told_taken {f : Fields} (told : Told p ent jwks requests trace (.authCodes, code) f) :
    Told p ent jwks requests trace (.authCodes, code) (f.set "used" (.boolean true)) := by
  cases told with
  | code c f authorised decoded =>
    obtain ⟨e, same, early⟩ := decoded
    have taken := congrArg Memory.CodeRecord.code (codeRecord_take c.code f)
    exact .code c _ authorised ⟨e, taken.trans same, early⟩
  | ghost code f undated =>
    refine .ghost code _ ?_
    simpa [field_ts_secs, Table.get_set] using undated

private theorem told_linked {found : Option Fields} (told : ∀ g, found = some g → Told p ent jwks requests trace (.authCodes, code) g)
    (access_token : String) (refresh_token : Option String) :
    Told p ent jwks requests trace (.authCodes, code)
      ((found.getD ∅).merge (FirestoreStore.link_fields access_token refresh_token)) := by
  cases found with
  | none =>
    refine .ghost code _ ?_
    simp [field_ts_secs, get_link]
  | some g =>
    cases told g rfl with
    | code c f authorised decoded =>
      obtain ⟨e, same, early⟩ := decoded
      exact .code c _ authorised ⟨e, (from_fields_link c.code g access_token refresh_token).trans same, early⟩
    | ghost code f undated =>
      refine .ghost code _ ?_
      simpa [field_ts_secs, get_link] using undated

end documents

/-! ### Every document was put there in order -/

section written
variable {o : HostOp} {below now : Past Fs} {asked : FsOp} {key : Col × String} {found : Option Fields} {f : Fields}

/-- What `host_puts` says of a request to Firestore. -/
abbrev Put (o : HostOp) (below now : Past Fs) (asked : FsOp) : Prop :=
  (∃ b, o = .backend b ∧ Puts b now asked) ∨ o = .firestore asked ∧ now = below

/-- Operations that put nothing there. -/
private theorem puts_nothing {free : HostOp → Prop} (allowed : free o) (puts : Put o below now asked) (flow : FlowCol key.1)
    (writes : asked.writes = some key) (makes : asked.makes found = some f)
    (stores : ∀ b, free (.backend b) → ¬Puts b now asked)
    (direct : free (.firestore asked) → asked.writes = some key → FlowCol key.1 → asked.makes found ≠ some f) : False := by
  rcases puts with ⟨b, rfl, puts⟩ | ⟨rfl, -⟩
  · exact stores b allowed puts
  · exact direct allowed writes flow makes

/-- Plain operations leave no document of the flow, and neither do the others of a
    login or of a request that pushes. -/
theorem plain_puts (plain : Plain o) (puts : Put o below now asked) (flow : FlowCol key.1)
    (writes : asked.writes = some key) (makes : asked.makes found = some f) : False := by
  refine puts_nothing plain puts flow writes makes (fun b allowed puts => ?_) fun allowed _ _ makes => ?_
  · cases puts <;> exact allowed
  · cases asked <;> first | exact allowed | cases makes

theorem login_free_puts (free : LoginFree o) (puts : Put o below now asked) (flow : FlowCol key.1)
    (writes : asked.writes = some key) (makes : asked.makes found = some f) : False := by
  refine puts_nothing free puts flow writes makes (fun b allowed puts => ?_) fun allowed writes flow makes => ?_
  · cases puts <;> exact allowed
  · rcases allowed with none | ⟨id, rfl⟩ | ⟨id, field, value, rfl⟩
    · rw [none] at writes
      cases writes
    · cases makes
    · cases writes
      exact flow

theorem par_free_puts (free : ParFree o) (puts : Put o below now asked) (flow : FlowCol key.1)
    (writes : asked.writes = some key) (makes : asked.makes found = some f) : False := by
  refine puts_nothing free puts flow writes makes (fun b allowed puts => ?_) fun allowed _ _ makes => ?_
  · cases puts <;> exact allowed
  · cases asked <;> first | exact allowed | cases makes

variable {p ent jwks requests} {trace : List (Occurrence Fs ℕ)}

/-- What a token request does to a code. -/
private theorem token_free_puts (free : TokenFree o) (puts : Put o below now asked) (writes : asked.writes = some key)
    (makes : asked.makes found = some f) (shown : ∀ x ∈ now, ∀ key f, FlowCol key.1 → Shows x key f →
      Told p ent jwks requests trace key f) (told : ∀ g, found = some g → Told p ent jwks requests trace key g) :
    Told p ent jwks requests trace key f := by
  rcases puts with ⟨b, rfl, puts⟩ | ⟨rfl, -⟩
  · cases puts with
    | interaction | session | code => exact free.elim
    | taken code g ut read =>
      cases writes
      cases makes
      exact told_taken (shown _ read _ g trivial (.get_doc_with_update_time ..))
    | linked code access_token refresh_token =>
      cases writes
      cases makes
      exact told_linked told access_token refresh_token
  · cases asked <;> first | exact free.elim | cases makes

end written

variable {p ent jwks requests}

/-- Every request puts only documents there that are in order. -/
theorem lineage : Lineage FlowCol (Allowed p ent jwks requests) (Told p ent jwks requests) := by
  refine ⟨fun e told => told.later e, ?_⟩
  intro trace i asked key found f r allowed shown flow writes told makes
  obtain ⟨above, o, below, implements, lawful, asks⟩ := allowed
  change (requests i).Lawful p (ent.uuid i) above o at lawful
  have puts := host_puts asks flow writes makes
  have before : ∀ x ∈ below, ∀ key f, FlowCol key.1 → Shows x key f → Told p ent jwks requests trace key f :=
    fun x listed => shown x (asks.suffix.subset listed)
  have seen : Seen jwks (⟨i, asked, r⟩ :: trace) i above := Seen.later ⟨below, implements, asks.suffix⟩ _
  cases request : requests i with
  | authorize sid raw =>
    rw [request] at lawful
    rcases lawful with plain | ⟨c, rfl, own, q, req, s, t, code⟩ | ⟨w, rfl, own, q, req, waits⟩ | ⟨_, -, no⟩
    · exact (plain_puts plain puts flow writes makes).elim
    · rcases puts with ⟨_, same, puts⟩ | ⟨wrong, -⟩
      · cases same
        cases puts
        cases writes
        cases makes
        obtain ⟨id, -, read⟩ := code.session
        obtain ⟨k, uid, verified, above', w, opened⟩ := found_session implements before read
        exact .code c _ (.session i sid raw above c q req s t request seen own code
          ((found_pushed implements before code.accepted.asked).later _) ⟨k, uid, verified, above', w, opened.later _⟩)
          (decoded_saved c)
      · cases wrong
    · rcases puts with ⟨_, same, puts⟩ | ⟨wrong, -⟩
      · cases same
        cases puts
        cases writes
        cases makes
        exact .interaction w _ (.asked i sid raw above w q req request seen own waits
          ((found_pushed implements before waits.accepted.asked).later _))
      · cases wrong
    · exact no.elim
  | resume q =>
    rw [request] at lawful
    rcases lawful with plain | ⟨c, rfl, own, w, req, account_id, auth_time, code⟩ | ⟨_, -, no⟩ | ⟨uid, rfl, -⟩
    · exact (plain_puts plain puts flow writes makes).elim
    · rcases puts with ⟨_, same, puts⟩ | ⟨wrong, -⟩
      · cases same
        cases puts
        cases writes
        cases makes
        exact .code c _ (.login i q above c w req account_id auth_time request seen own code
          ((found_interaction implements before code.interaction).later _)) (decoded_saved c)
      · cases wrong
    · exact no.elim
    · rcases puts with ⟨_, same, puts⟩ | ⟨wrong, -⟩
      · cases same
        cases puts
      · cases wrong
  | cancel uid =>
    rw [request] at lawful
    exact (plain_puts lawful puts flow writes makes).elim
  | login uid verified =>
    rw [request] at lawful
    rcases lawful with free | ⟨w, account_id, auth_time, rfl, login⟩ | ⟨w, s, rfl, login⟩
    · exact (login_free_puts free puts flow writes makes).elim
    · rcases puts with ⟨_, same, puts⟩ | ⟨wrong, -⟩
      · cases same
        cases puts
        cases writes
        cases makes
        exact .interaction { w with account_id := some account_id, auth_time := some auth_time } _
          (.signed_in i uid verified above w account_id auth_time request seen login
            ((found_interaction implements before login.interaction).later _))
      · cases wrong
    · rcases puts with ⟨_, same, puts⟩ | ⟨wrong, -⟩
      · cases same
        cases puts
        cases writes
        cases makes
        exact .session s _ ⟨i, uid, verified, above, w, request, seen, login,
          (found_interaction implements before login.interaction).later _⟩
      · cases wrong
  | par headers body =>
    rw [request] at lawful
    rcases lawful with free | ⟨client, text, params, t, rfl, -, pushed⟩
    · exact (par_free_puts free puts flow writes makes).elim
    · rcases puts with ⟨_, wrong, -⟩ | ⟨same, -⟩
      · cases wrong
      · cases same
        cases writes
        cases makes
        exact .pushed i headers body text params above client _ request seen pushed
  | token headers form =>
    rw [request] at lawful
    exact (token_free_puts lawful puts writes makes shown told).later _

/-! ### Runs -/

theorem run_ordered {db : Db} {c : Pool Fs Db ℕ (Option String × Response)} (empty : ∀ key, FlowCol key.1 → db.docs.get key = none)
    (run : Run (pool p ent jwks requests db) c) : Ordered FlowCol (Told p ent jwks requests) c :=
  Service.run_ordered run lineage empty

end RustOp.Web.CodeFlow
