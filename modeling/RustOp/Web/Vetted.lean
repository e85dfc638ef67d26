import RustOp.Effects.Implementation
import RustOp.Web.Authorize

/-!
What a request to the authorization endpoint has seen when it saves a code, stores
itself for a login, or answers with a redirect: where its parameters came from,
which registration of its client it read, and who was signed in.
-/
namespace RustOp.Web
open RustOp.Effects RustOp.Text

/-! ### Evidence -/

/-- The registration of a client, as a request has found it. -/
inductive Registered (p : Server) (past : Past Host) (id : String) (client : Client) : Prop where
  | static (listed : (p.clients.find? fun c => c.client_id == id) = some client)
  | stored (fields : Firestore.Fields) (read : ⟨.firestore (.get_doc .clients id), .ok (some fields)⟩ ∈ past)
      (decoded : (Firestore.field_str fields "json").bind p.client_from_str = some client)

/-- Where the parameters of a query come from: the query itself, a request object
    that a registered key of the named client signed, or an unexpired pushed
    request. -/
inductive Asked (p : Server) (past : Past Host) (raw : String) : Query → Prop where
  | query (plain : (p.form raw).get "request" = none) : Asked p past raw ⟨raw, none⟩
  | request_object (jwt : String) (client : Client) (params : Form) (sent : (p.form raw).get "request" = some jwt)
      (registered : Registered p past (((p.form raw).get "client_id").getD "") client)
      (verified : (request_object.verify p client jwt).Gave (.ok params) past) : Asked p past raw ⟨p.to_string params, none⟩
  | pushed (uri id : String) (f : Firestore.Fields) (t : Nat) (sent : (p.form raw).get "request_uri" = some uri)
      (named : par.id_of uri = some id) (read : ⟨.firestore (.get_doc .parRequests id), .ok (some f)⟩ ∈ past)
      (clock : ⟨.firestore .now, t⟩ ∈ past) (unexpired : Firestore.expired_at f t = false) :
      Asked p past raw ⟨(Firestore.field_str f "params").getD "", some ((Firestore.field_str f "clientId").getD "", uri)⟩

/-- The parameters are those of the text, and the client that they name has
    registered the address. -/
structure Addressed (p : Server) (past : Past Host) (raw : String) (request_uri : Option String) (req : AddressedRequest) :
    Prop where
  parsed : AuthParams.from_form (p.form raw) = .ok req.params
  client : ∃ id, req.params.client_id = some id ∧ Registered p past id req.client
  redirect_uri : req.params.redirect_uri = some req.redirect_uri
  request_uri : req.request_uri = request_uri

/-- A query that the authorization endpoint has accepted as a request. -/
structure Accepted (p : Server) (past : Past Host) (raw : String) (q : Query) (req : AddressedRequest) : Prop where
  asked : Asked p past raw q
  own : ∀ creator uri, q.pushed = some (creator, uri) → ∀ id, (p.form raw).get "client_id" = some id → id = creator
  addressed : Addressed p past q.raw (q.pushed.map Prod.snd) req
  checked : Checked req.params req.client
  pushed : req.client.require_par = true → q.pushed.isSome

/-- The time that is given, or one that was read. -/
def Timed (past : Past Host) (given : Option Nat) (time : Nat) : Prop :=
  given = some time ∨ given = none ∧ ⟨.backend .now, time⟩ ∈ past

/-- A code for the session that a query came with. -/
structure SessionCode (p : Server) (sid : Option String) (raw : String) (past : Past Host) (c : AuthorizationCode)
    (q : Query) (req : AddressedRequest) (s : Session) (t : Nat) : Prop where
  accepted : Accepted p past raw q req
  session : ∃ id, sid = some id ∧ ⟨.backend (.store (.get_session id)), some s⟩ ∈ past
  clock : ⟨.backend .now, t⟩ ∈ past
  decided : interaction_policy.decide req.params (some s) t = .UseSession s.account_id s.auth_time
  resource : ∀ r, req.params.resource = some r → valid_resource r = true
  code : ∃ t', ⟨.backend .now, t'⟩ ∈ past ∧ c = code_of req c.code s.account_id s.auth_time (t' + 60)

/-- A query that waits for a login. -/
structure Waits (p : Server) (sid : Option String) (raw : String) (past : Past Host) (i : Interaction) (q : Query)
    (req : AddressedRequest) : Prop where
  accepted : Accepted p past raw q req
  session : ∀ id, sid = some id → ∃ s, ⟨.backend (.store (.get_session id)), s⟩ ∈ past
  decided : ∃ (s : Option Session) (t : Nat), ⟨.backend .now, t⟩ ∈ past ∧
    interaction_policy.decide req.params s t = .Login
  interaction : i = ⟨i.uid, q.raw, none, none, q.pushed.map Prod.snd⟩

/-- A code for whoever has logged in to a stored request, which is used up. -/
structure LoginCode (p : Server) (uid : String) (past : Past Host) (c : AuthorizationCode) (i : Interaction)
    (req : AddressedRequest) (account_id : String) (auth_time : Nat) : Prop where
  interaction : ⟨.backend (.store (.get_interaction uid)), some i⟩ ∈ past
  completed : i.account_id = some account_id
  addressed : Addressed p past i.raw_query i.request_uri req
  checked : Checked req.params req.client
  consumed : ⟨.backend (.store (.consume_interaction uid)), true⟩ ∈ past
  time : Timed past i.auth_time auth_time
  resource : ∀ r, req.params.resource = some r → valid_resource r = true
  code : ∃ t', ⟨.backend .now, t'⟩ ∈ past ∧ c = code_of req c.code account_id auth_time (t' + 60)

/-- An answer that leaves through an address which a registered client listed. -/
def Leaves (p : Server) (past : Past Host) (location : String) : Prop :=
  ∃ id client redirect_uri params, Registered p past id client ∧ redirect_uri ∈ client.redirect_uris ∧
    QueryMode.build p redirect_uri params = .redirect location

section grows
variable {p : Server} {past now : Past Host} (extends_ : past <:+ now)
include extends_

theorem Registered.later {id : String} {client : Client} (registered : Registered p past id client) :
    Registered p now id client := by
  cases registered with
  | static listed => exact .static listed
  | stored fields read decoded => exact .stored fields (extends_.subset read) decoded

theorem Asked.later {raw : String} {q : Query} (asked : Asked p past raw q) : Asked p now raw q := by
  cases asked with
  | query plain => exact .query plain
  | request_object jwt client params sent registered verified =>
    exact .request_object jwt client params sent (registered.later extends_) (verified.later extends_)
  | pushed uri id f t sent named read clock unexpired =>
    exact .pushed uri id f t sent named (extends_.subset read) (extends_.subset clock) unexpired

theorem Addressed.later {raw : String} {request_uri : Option String} {req : AddressedRequest}
    (addressed : Addressed p past raw request_uri req) : Addressed p now raw request_uri req := by
  obtain ⟨parsed, ⟨id, named, registered⟩, redirect_uri, same⟩ := addressed
  exact ⟨parsed, ⟨id, named, registered.later extends_⟩, redirect_uri, same⟩

theorem Accepted.later {raw : String} {q : Query} {req : AddressedRequest} (accepted : Accepted p past raw q req) :
    Accepted p now raw q req :=
  ⟨accepted.asked.later extends_, accepted.own, accepted.addressed.later extends_, accepted.checked, accepted.pushed⟩

end grows

theorem Addressed.leaves {p : Server} {past : Past Host} {raw : String} {request_uri : Option String}
    {req : AddressedRequest} (addressed : Addressed p past raw request_uri req) (params : Form) {location : String}
    (answer : QueryMode.build p req.redirect_uri params = .redirect location) : Leaves p past location := by
  obtain ⟨id, -, registered⟩ := addressed.client
  exact ⟨id, req.client, req.redirect_uri, params, registered, req.listed, answer⟩

/-! ### Reading a request -/

section reading
variable {J : Past Host → HostOp → Prop} {p : Server} {past : Past Host}

theorem resolve_client_justified (gets : ∀ past col id, J past (.firestore (.get_doc col id))) (id : String) :
    (p.resolve_client id).Justified J (fun later r => ∀ client, r = some client → Registered p later id client) past := by
  unfold Server.resolve_client
  split
  · rename_i client found
    refine .ret fun c same => ?_
    cases same
    exact .static found
  · split
    · refine .call (gets _ _ _) fun answer => ?_
      rcases answer with e | _ | fields
      · exact .ret fun c same => by cases same
      · exact .ret fun c same => by cases same
      · exact .ret fun c same => .stored fields List.mem_cons_self same
    · exact .ret fun c same => by cases same

theorem resolve_addressee_justified (gets : ∀ past col id, J past (.firestore (.get_doc col id))) (raw : RawAuthRequest) :
    (resolve_addressee p raw).Justified J (fun later r => ∀ req, r = .ok req →
      req.params = raw.params ∧ req.request_uri = raw.request_uri ∧ raw.params.redirect_uri = some req.redirect_uri ∧
        ∃ id, raw.params.client_id = some id ∧ Registered p later id req.client) past := by
  unfold resolve_addressee
  split
  · rename_i id named
    refine (resolve_client_justified gets id).bind fun later r _ found => ?_
    cases r with
    | none => exact .ret fun req same => by cases same
    | some client =>
      dsimp only
      split
      · rename_i ru address
        split
        · refine .ret fun req same => ?_
          cases same
          exact ⟨rfl, rfl, address, id, named, found client rfl⟩
        · exact .ret fun req same => by cases same
      · exact .ret fun req same => by cases same
  · exact .ret fun req same => by cases same

/-- Whoever cannot be answered through an address is answered in text. -/
def InText : Response → Prop
  | .text 400 _ => True
  | _ => False

theorem addressee_justified (gets : ∀ past col id, J past (.firestore (.get_doc col id))) (label raw : String)
    (request_uri : Option String) :
    (addressee p label raw request_uri).Justified J (fun later r =>
      (∀ req, r = .ok req → Addressed p later raw request_uri req) ∧ ∀ answer, r = .error answer → InText answer) past := by
  unfold addressee
  split
  · refine .ret ⟨fun req same => (by cases same), fun answer same => ?_⟩
    cases same
    trivial
  · rename_i params parsed
    refine (resolve_addressee_justified gets _).bind fun later r _ found => ?_
    cases r with
    | error e =>
      refine .ret ⟨fun req same => (by cases same), fun answer same => ?_⟩
      cases same
      trivial
    | ok req =>
      refine .ret ⟨fun req' same => ?_, fun answer same => by cases same⟩
      cases same
      obtain ⟨rfl, uri, address, id, named, registered⟩ := found req rfl
      exact ⟨parsed, ⟨id, named, registered⟩, address, uri⟩

theorem request_object_verify_uses {allowed : HostOp → Prop} (clock : allowed (.backend .now))
    (claims : ∀ key ttl, allowed (.claim .request_object key ttl)) (client : Client) (jwt : String) :
    (request_object.verify p client jwt).Uses allowed := by
  unfold request_object.verify
  split
  · trivial
  · split
    · trivial
    · refine ⟨clock, fun t => ?_⟩
      dsimp only [Prog.bind]
      split
      · trivial
      · refine ⟨claims _ _, fun won => ?_⟩
        cases won <;> trivial

/-- The operations that need no justification here. -/
def Plain : HostOp → Prop
  | .backend (.store (.get_interaction _)) => True
  | .backend (.store (.get_session _)) => True
  | .backend .now => True
  | .firestore (.get_doc ..) => True
  | .firestore (.delete_doc .parRequests _) => True
  | .firestore .now => True
  | .claim .request_object _ _ => True
  | _ => False

variable (plain : ∀ past o, Plain o → J past o)
include plain

theorem peek_justified (uri : String) :
    (par.peek uri).Justified J (fun later r => ∀ cid params, r = .ok (some (cid, params)) →
      ∃ id f t, par.id_of uri = some id ∧ ⟨.firestore (.get_doc .parRequests id), .ok (some f)⟩ ∈ later ∧
        ⟨.firestore .now, t⟩ ∈ later ∧ Firestore.expired_at f t = false ∧
        cid = (Firestore.field_str f "clientId").getD "" ∧ params = (Firestore.field_str f "params").getD "") past := by
  unfold par.peek
  split
  · rename_i id named
    refine .call (plain _ _ trivial) fun answer => ?_
    rcases answer with e | _ | f
    · exact .ret fun _ _ same => by cases same
    · exact .ret fun _ _ same => by cases same
    · refine .call (plain _ _ trivial) fun t => ?_
      dsimp only [Prog.bind]
      split
      · exact .ret fun _ _ same => by cases same
      · rename_i unexpired
        refine .ret fun cid params same => ?_
        cases same
        exact ⟨id, f, t, named, by simp, by simp, by simpa using unexpired, rfl, rfl⟩
  · exact .ret fun _ _ same => by cases same

theorem authorize_query_justified (raw : String) :
    (authorize_query p raw).Justified J (fun later r =>
      (∀ q, r = .ok q → Asked p later raw q) ∧ ∀ answer, r = .error answer → InText answer) past := by
  have text : ∀ (m : String) (later : Past Host), (∀ q, (Except.error (plain_error m) : Except Response Query) = .ok q →
      Asked p later raw q) ∧ ∀ answer, (Except.error (plain_error m) : Except Response Query) = .error answer → InText answer := by
    refine fun m later => ⟨fun q same => (by cases same), fun answer same => ?_⟩
    cases same
    trivial
  have found : ∀ (later : Past Host) q, Asked p later raw q →
      (∀ q', (Except.ok q : Except Response Query) = .ok q' → Asked p later raw q') ∧
        ∀ answer, (Except.ok q : Except Response Query) = .error answer → InText answer := by
    refine fun later q asked => ⟨fun q' same => ?_, fun answer same => by cases same⟩
    cases same
    exact asked
  unfold authorize_query
  dsimp only
  cases sent : (p.form raw).get "request" with
  | some jwt =>
    refine (resolve_client_justified (fun _ _ _ => plain _ _ trivial) _).bind fun past client _ registered => ?_
    cases client with
    | none => exact .ret (text _ _)
    | some client =>
      have verify := (Prog.Justified.of_uses (J := J) plain
        (request_object_verify_uses (p := p) trivial (fun _ _ => trivial) client jwt) past).gave
      refine verify.bind fun later r extends_ verified => ?_
      cases r with
      | error e => exact .ret (text _ _)
      | ok params =>
        exact .ret (found _ _ (.request_object jwt client params sent ((registered client rfl).later extends_) verified.2))
  | none =>
    dsimp only
    split
    · exact .ret (found _ _ (.query sent))
    · rename_i uri asked
      obtain ⟨uri_sent, -⟩ := Option.filter_eq_some_iff.mp asked
      split
      · exact .ret (text _ _)
      · refine (peek_justified plain uri).bind fun later r _ peeked => ?_
        rcases r with e | _ | ⟨cid, params⟩
        · exact .ret (text _ _)
        · exact .ret (text _ _)
        · obtain ⟨id, f, t, named, read, clock, unexpired, rfl, rfl⟩ := peeked cid params rfl
          exact .ret (found _ _ (.pushed uri id f t uri_sent named read clock unexpired))

end reading

/-! ### Issuing -/

/-- Besides plain operations, a code or a request that waits is saved, or one is
    consumed, each in order. -/
def Saves (codes : Past Host → AuthorizationCode → Prop) (waits : Past Host → Interaction → Prop)
    (consumes : Past Host → String → Prop) (past : Past Host) (o : HostOp) : Prop :=
  Plain o ∨ (∃ c, o = .backend (.store (.save_code c)) ∧ codes past c) ∨
    (∃ i, o = .backend (.store (.save_interaction i)) ∧ waits past i) ∨
    ∃ uid, o = .backend (.store (.consume_interaction uid)) ∧ consumes past uid

/-- An answer in text, the login page, or one that leaves through a registered address. -/
def Answers (p : Server) (login : String → Prop) (past : Past Host) : Response → Prop
  | .text 400 _ => True
  | .redirect location => login location ∨ Leaves p past location
  | _ => False

section issuing
variable {p : Server} {past : Past Host} {codes : Past Host → AuthorizationCode → Prop}
  {waits : Past Host → Interaction → Prop} {consumes : Past Host → String → Prop} {login : String → Prop}

theorem InText.answers {r : Response} (text : InText r) : Answers p login past r := by
  unfold InText at text
  split at text
  · trivial
  · exact text.elim

theorem Addressed.answers {raw : String} {request_uri : Option String} {req : AddressedRequest}
    (addressed : Addressed p past raw request_uri req) (params : Form) :
    Answers p login past (QueryMode.build p req.redirect_uri params) := .inr (addressed.leaves params rfl)

theorem delete_uses {allowed : HostOp → Prop} (deletes : ∀ id, allowed (.firestore (.delete_doc .parRequests id))) (uri : String) :
    (par.delete uri).Uses allowed := by
  unfold par.delete
  split
  · exact ⟨deletes _, fun _ => trivial⟩
  · trivial

theorem delete_pushed_uses {allowed : HostOp → Prop} (deletes : ∀ id, allowed (.firestore (.delete_doc .parRequests id)))
    (req : AddressedRequest) : (delete_pushed p req).Uses allowed := by
  unfold delete_pushed
  split
  · split
    · exact delete_uses deletes _
    · trivial
  · trivial

theorem time_or_now_justified {J : Past Host → HostOp → Prop} (clock : ∀ past, J past (.backend .now)) (given : Option Nat) :
    (time_or_now given).Justified J (fun later time => Timed later given time) past := by
  cases given with
  | some t => exact .ret (.inl rfl)
  | none => exact .call (clock _) fun t => .ret (.inr ⟨rfl, List.mem_cons_self⟩)

theorem issue_code_justified (uuid : Draw → String) {req : AddressedRequest} {account_id : String} {auth_time : Option Nat}
    {raw : String} {request_uri : Option String} (addressed : Addressed p past raw request_uri req)
    (ready : (∀ r, req.params.resource = some r → valid_resource r = true) → ∀ now time t, past <:+ now →
      Timed now auth_time time → ⟨.backend .now, t⟩ ∈ now → codes now (code_of req (uuid .code) account_id time (t + 60))) :
    (issue_code p uuid req account_id auth_time).Justified (Saves codes waits consumes) (Answers p login) past := by
  have free : ∀ past o, Plain o → Saves codes waits consumes past o := fun _ _ => .inl
  unfold issue_code
  split
  · exact .ret (addressed.answers _)
  · rename_i target
    have valid : ∀ r, req.params.resource = some r → valid_resource r = true := by
      intro r asked
      simpa [asked] using target
    refine (time_or_now_justified (fun _ => .inl trivial) auth_time).bind fun now time extends_ timed => ?_
    refine .call (.inl trivial) fun t => ?_
    have read : now <:+ ⟨.backend .now, t⟩ :: now := List.suffix_cons _ _
    have still : Timed (⟨.backend .now, t⟩ :: now) auth_time time :=
      timed.imp_right fun ⟨absent, clock⟩ => ⟨absent, read.subset clock⟩
    refine .call (.inr (.inl ⟨_, rfl, ready valid _ time t (extends_.trans read) still List.mem_cons_self⟩)) fun u => ?_
    refine (Prog.Justified.of_uses free (delete_pushed_uses (fun _ => trivial) req) _).bind
      fun later _ grown _ => .ret ?_
    rw [response_mode_eq]
    exact (addressed.later (extends_.trans (read.trans ((List.suffix_cons _ _).trans grown)))).answers _

end issuing

/-! ### The endpoints -/

section endpoints
variable {p : Server} (uuid : Draw → String)

/-- What `/authorize` may save. -/
abbrev AuthorizeSaves (p : Server) (sid : Option String) (raw : String) : Past Host → HostOp → Prop :=
  Saves (fun past c => c.code = uuid .code ∧ ∃ q req s t, SessionCode p sid raw past c q req s t)
    (fun past i => i.uid = uuid .interaction_uid ∧ ∃ q req, Waits p sid raw past i q req) fun _ _ => False

/-- The request that waits was read after somebody had logged in. -/
def Completed (uid : String) (past : Past Host) : Prop :=
  ∃ i, ⟨.backend (.store (.get_interaction uid)), some i⟩ ∈ past ∧ i.account_id.isSome

/-- What `/authorize/resume` may save. -/
abbrev ResumeSaves (p : Server) (uid : String) : Past Host → HostOp → Prop :=
  Saves (fun past c => c.code = uuid .code ∧ ∃ i req account_id auth_time, LoginCode p uid past c i req account_id auth_time)
    (fun _ _ => False) fun past u => u = uid ∧ Completed uid past

private theorem cookie_session_justified {J : Past Host → HostOp → Prop} (reads : ∀ past id, J past (.backend (.store (.get_session id))))
    {past : Past Host} (sid : Option String) :
    (cookie_session sid).Justified J (fun later s =>
      (∀ s', s = some s' → ∃ id, sid = some id ∧ ⟨.backend (.store (.get_session id)), some s'⟩ ∈ later) ∧
        ∀ id, sid = some id → ⟨.backend (.store (.get_session id)), s⟩ ∈ later) past := by
  cases sid with
  | none => exact .ret ⟨fun s' same => (by cases same), fun id same => by cases same⟩
  | some id =>
    refine .call (reads _ _) fun s => .ret ⟨fun s' same => ⟨id, rfl, ?_⟩, fun id' same => ?_⟩
    · subst same
      exact List.mem_cons_self
    · cases same
      exact List.mem_cons_self

theorem authorize_session_justified {sid : Option String} {raw : String} {past : Past Host} {q : Query} {req : AddressedRequest}
    (accepted : Accepted p past raw q req) :
    (authorize_session p uuid sid q req).Justified (AuthorizeSaves uuid p sid raw)
      (Answers p (· = p.path ("/login/" ++ uuid .interaction_uid))) past := by
  unfold authorize_session
  refine (cookie_session_justified (fun _ _ => .inl trivial) sid).bind fun before s extends_ known => ?_
  refine .call (.inl trivial) fun t => ?_
  have read : before <:+ ⟨.backend .now, t⟩ :: before := List.suffix_cons _ _
  have accepted' := accepted.later (extends_.trans read)
  dsimp only [Prog.bind]
  split
  · rename_i account_id auth_time used
    refine issue_code_justified uuid accepted'.addressed fun valid now time t' grown timed clock => ⟨rfl, ?_⟩
    obtain ⟨s', rfl, rfl, rfl, -⟩ := interaction_policy.decide_uses used
    obtain ⟨id, cookie, session⟩ := known.1 s' rfl
    obtain rfl : s'.auth_time = time := by simpa [Timed] using timed
    exact ⟨q, req, s', t, accepted'.later grown, ⟨id, cookie, grown.subset (read.subset session)⟩,
      grown.subset List.mem_cons_self, used, valid, t', clock, rfl⟩
  · exact .ret (accepted'.addressed.answers _)
  · rename_i decided
    refine .call (.inr (.inr (.inl ⟨_, rfl, rfl, q, req, accepted', fun id cookie => ⟨s, read.subset (known.2 id cookie)⟩,
      ⟨s, t, List.mem_cons_self, decided⟩, rfl⟩))) fun _ => .ret (.inl rfl)

theorem authorize_justified (sid raw : Option String) :
    (authorize p uuid sid raw).Justified (AuthorizeSaves uuid p sid (raw.getD ""))
      (Answers p (· = p.path ("/login/" ++ uuid .interaction_uid))) [] := by
  have plain : ∀ past o, Plain o → AuthorizeSaves uuid p sid (raw.getD "") past o := fun _ _ => .inl
  unfold authorize
  refine (authorize_query_justified plain _).bind fun past r _ asked => ?_
  cases r with
  | error answer => exact .ret (asked.2 answer rfl).answers
  | ok q =>
    dsimp only
    split
    · exact .ret trivial
    · rename_i own
      refine (addressee_justified (fun _ _ _ => plain _ _ trivial) _ _ _).bind fun past' r extends_ settled => ?_
      cases r with
      | error answer => exact .ret (settled.2 answer rfl).answers
      | ok req =>
        have addressed := settled.1 req rfl
        dsimp only
        split
        · exact .ret (addressed.answers _)
        · rename_i checked
          split
          · exact .ret (addressed.answers _)
          · split
            · exact .ret (addressed.answers _)
            · rename_i pushed
              refine authorize_session_justified uuid
                ⟨(asked.1 q rfl).later extends_, fun creator uri same id named => ?_, addressed, run_checks_eq_ok.mp checked,
                  fun required => ?_⟩
              · simpa [same, named] using own
              · simpa [required, Option.isSome_iff_ne_none] using pushed

theorem authorize_resume_justified (q : Form) (uid : String) (named : ∀ u, q.get "uid" = some u → u = uid) :
    (authorize_resume p uuid q).Justified (ResumeSaves uuid p uid) (Answers p fun _ => False) [] := by
  have plain : ∀ past o, Plain o → ResumeSaves uuid p uid past o := fun _ _ => .inl
  unfold authorize_resume
  split
  · rename_i u sent
    obtain rfl := named u sent
    refine .call (plain _ _ trivial) fun i => ?_
    cases i with
    | none => exact .ret trivial
    | some i =>
      dsimp only [Prog.bind]
      split
      · rename_i account_id completed
        refine (addressee_justified (fun _ _ _ => plain _ _ trivial) _ _ _).bind fun past r extends_ settled => ?_
        cases r with
        | error answer => exact .ret (settled.2 answer rfl).answers
        | ok req =>
          have addressed := settled.1 req rfl
          dsimp only
          split
          · exact .ret (addressed.answers _)
          · rename_i checked
            have seen : Completed u past := ⟨i, extends_.subset List.mem_cons_self, by simp [completed]⟩
            refine .call (.inr (.inr (.inr ⟨u, rfl, rfl, seen⟩))) fun won => ?_
            cases won with
            | false => exact .ret trivial
            | true =>
              have grown : past <:+ ⟨.backend (.store (.consume_interaction u)), true⟩ :: past := List.suffix_cons _ _
              refine issue_code_justified uuid (addressed.later grown) fun valid now time t more timed clock =>
                ⟨rfl, i, req, account_id, time, ?_⟩
              exact ⟨(extends_.trans (grown.trans more)).subset List.mem_cons_self, completed,
                addressed.later (grown.trans more), run_checks_eq_ok.mp checked, more.subset List.mem_cons_self, timed,
                valid, t, clock, rfl⟩
      · exact .ret trivial
  · exact .ret trivial

theorem authorize_cancel_justified (uid : String) :
    (authorize_cancel p uid).Justified (fun _ o => Plain o) (Answers p fun _ => False) [] := by
  unfold authorize_cancel
  refine .call trivial fun i => ?_
  cases i with
  | none => exact .ret trivial
  | some i =>
    refine (addressee_justified (fun _ _ _ => trivial) _ _ _).bind fun past r _ settled => ?_
    cases r with
    | error answer => exact .ret (settled.2 answer rfl).answers
    | ok req =>
      have addressed := settled.1 req rfl
      dsimp only
      split
      · exact .ret (addressed.answers _)
      · exact .ret (addressed.answers _)

end endpoints

end RustOp.Web
