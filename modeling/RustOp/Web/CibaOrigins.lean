import RustOp.Web.CibaFlow

/-!
Where backchannel requests and their outcomes come from: a request from a client
that asked for it, an approval from a passkey of its account, a rejection from
whoever rejected it, and an outcome from whoever moved the request or found it
expired.
-/
namespace RustOp.Web.CibaFlow
open RustOp.Effects RustOp.Text RustOp.Firestore

/-! ### Origins -/

/-- A request as it is stored first. -/
def asked_request (auth_req_id : String) (client : Client) (account_id : String) (terms : backchannel.Terms) (t : Nat) :
    BackchannelAuthRequest :=
  ⟨auth_req_id, client.client_id, account_id, terms.scope, terms.binding_message, .Pending, t + CIBA_TTL_SECS,
    terms.authorization_details⟩

variable (p : Site) (ent : Entropy) (jwks : ℕ → String → String → Option JwkPub) (requests : ℕ → Request)

/-- The request was asked for, on these terms and at this time, by a client. -/
structure AskedAt (trace : List (Occurrence Fs ℕ)) (j : ℕ) (admitted : Bool) (headers : Headers) (form : Form)
    (above : Past Host) (client : Client) (account_id : String) (terms : backchannel.Terms) (t : Nat) : Prop where
  request : requests j = .backchannel admitted headers form
  seen : Seen jwks trace j above
  requested : Requested p headers form above client account_id terms
  clock : ⟨j, .now, t⟩ ∈ trace

/-- This is what was stored for it. -/
structure AskedFor (trace : List (Occurrence Fs ℕ)) (j : ℕ) (r₀ : BackchannelAuthRequest) : Prop where
  own : r₀.auth_req_id = ent.uuid j .auth_req_id
  asked : ∃ admitted headers form above client account_id terms t,
    AskedAt p jwks requests trace j admitted headers form above client account_id terms t ∧
    r₀ = asked_request r₀.auth_req_id client account_id terms t
  stored : ∃ a, ⟨j, .set_doc .cibaRequests r₀.auth_req_id (BackchannelAuthRequest.fields r₀), a⟩ ∈ trace

/-- What was read of a request is what was asked for, whatever became of it. -/
def Known (trace : List (Occurrence Fs ℕ)) (r : BackchannelAuthRequest) : Prop :=
  ∃ j r₀, AskedFor p ent jwks requests trace j r₀ ∧ Keeps r₀ r

/-- The passkey of the account has approved the request. -/
structure ApprovedAt (trace : List (Occurrence Fs ℕ)) (k : ℕ) (auth_req_id : String) (shown : AuthVerifyReq) (above : Past Host)
    (r : BackchannelAuthRequest) (challenge : String) (t : registration.Ceremony) (cred : registration.Credential) : Prop where
  request : requests k = .approve auth_req_id shown
  seen : Seen jwks trace k above
  approves : Approves p auth_req_id shown above r challenge t cred
  known : Known p ent jwks requests trace r

/-- Who decided on a request. -/
def Decided (trace : List (Occurrence Fs ℕ)) (auth_req_id : String) : CibaStatus → Prop
  | .Pending => True
  | .Approved => ∃ k shown above r challenge t cred, ApprovedAt p ent jwks requests trace k auth_req_id shown above r challenge t cred
  | .Denied => ∃ k, requests k = .reject auth_req_id

/-- The request was moved to this status, and whoever moved it knows. -/
def Moved (trace : List (Occurrence Fs ℕ)) (k : ℕ) (auth_req_id : String) (status : CibaStatus) : Prop :=
  ∃ f ut, ⟨k, .set_doc_if_unchanged .cibaRequests auth_req_id
    (BackchannelAuthRequest.fields { BackchannelAuthRequest.from_fields auth_req_id f with status }) ut, .ok true⟩ ∈ trace

/-- Who noted an outcome, and why. -/
inductive Noted (trace : List (Occurrence Fs ℕ)) (auth_req_id : String) : String → Prop where
  | approved (k : ℕ) (shown : AuthVerifyReq) (above : Past Host) (r : BackchannelAuthRequest) (challenge : String) (t : registration.Ceremony)
      (cred : registration.Credential)
      (approved : ApprovedAt p ent jwks requests trace k auth_req_id shown above r challenge t cred)
      (moved : Moved trace k auth_req_id .Approved) : Noted trace auth_req_id "approved"
  | denied (k : ℕ) (request : requests k = .reject auth_req_id) (moved : Moved trace k auth_req_id .Denied) :
      Noted trace auth_req_id "denied"
  | expired (k : ℕ) (t : Nat) (r : BackchannelAuthRequest) (known : Known p ent jwks requests trace r)
      (own : r.auth_req_id = auth_req_id) (pending : r.status = .Pending) (clock : ⟨k, .now, t⟩ ∈ trace)
      (late : r.expired t = true) : Noted trace auth_req_id "expired"

/-- What a document says of a request, and who put it there. -/
inductive Told (trace : List (Occurrence Fs ℕ)) : Col × String → Fields → Prop where
  | request (auth_req_id : String) (f : Fields)
      (known : Known p ent jwks requests trace (BackchannelAuthRequest.from_fields auth_req_id f))
      (decided : Decided p ent jwks requests trace auth_req_id (BackchannelAuthRequest.from_fields auth_req_id f).status) :
      Told trace (.cibaRequests, auth_req_id) f
  | outcome (auth_req_id : String) (f : Fields) (r : BackchannelAuthRequest) (known : Known p ent jwks requests trace r)
      (own : r.auth_req_id = auth_req_id) (t : Nat)
      (same : ∃ outcome, f = CibaHistoryEntry.fields (.from_request r outcome t) ∧ Noted p ent jwks requests trace auth_req_id outcome) :
      Told trace (.cibaHistory, auth_req_id) f

section later
variable {p ent jwks requests} {trace : List (Occurrence Fs ℕ)} (e : Occurrence Fs ℕ)

theorem AskedFor.later {j : ℕ} {r₀ : BackchannelAuthRequest} (asked : AskedFor p ent jwks requests trace j r₀) :
    AskedFor p ent jwks requests (e :: trace) j r₀ := by
  obtain ⟨own, ⟨admitted, headers, form, above, client, account_id, terms, t, asked, same⟩, a, stored⟩ := asked
  exact ⟨own, ⟨admitted, headers, form, above, client, account_id, terms, t,
    ⟨asked.request, asked.seen.later e, asked.requested, List.mem_cons_of_mem _ asked.clock⟩, same⟩, a,
    List.mem_cons_of_mem _ stored⟩

theorem Known.later {r : BackchannelAuthRequest} (known : Known p ent jwks requests trace r) :
    Known p ent jwks requests (e :: trace) r := by
  obtain ⟨j, r₀, asked, keeps⟩ := known
  exact ⟨j, r₀, asked.later e, keeps⟩

theorem ApprovedAt.later {k : ℕ} {auth_req_id challenge : String} {shown : AuthVerifyReq} {above : Past Host}
    {r : BackchannelAuthRequest} {t : registration.Ceremony} {cred : registration.Credential}
    (approved : ApprovedAt p ent jwks requests trace k auth_req_id shown above r challenge t cred) :
    ApprovedAt p ent jwks requests (e :: trace) k auth_req_id shown above r challenge t cred :=
  ⟨approved.request, approved.seen.later e, approved.approves, approved.known.later e⟩

theorem Moved.later {k : ℕ} {auth_req_id : String} {status : CibaStatus} (moved : Moved trace k auth_req_id status) :
    Moved (e :: trace) k auth_req_id status := by
  obtain ⟨f, ut, listed⟩ := moved
  exact ⟨f, ut, List.mem_cons_of_mem _ listed⟩

theorem Decided.later {auth_req_id : String} {status : CibaStatus} (decided : Decided p ent jwks requests trace auth_req_id status) :
    Decided p ent jwks requests (e :: trace) auth_req_id status := by
  cases status with
  | Pending => trivial
  | Approved =>
    obtain ⟨k, shown, above, r, challenge, t, cred, approved⟩ := decided
    exact ⟨k, shown, above, r, challenge, t, cred, approved.later e⟩
  | Denied => exact decided

omit e in
theorem decided_pending {auth_req_id : String} {status : CibaStatus} (pending : status = .Pending) :
    Decided p ent jwks requests trace auth_req_id status := by
  subst pending
  trivial

theorem Noted.later {auth_req_id outcome : String} (noted : Noted p ent jwks requests trace auth_req_id outcome) :
    Noted p ent jwks requests (e :: trace) auth_req_id outcome := by
  cases noted with
  | approved k shown above r challenge t cred approved moved =>
    exact .approved k shown above r challenge t cred (approved.later e) (moved.later e)
  | denied k request moved => exact .denied k request (moved.later e)
  | expired k t r known own pending clock late =>
    exact .expired k t r (known.later e) own pending (List.mem_cons_of_mem _ clock) late

theorem Told.later {key : Col × String} {f : Fields} (told : Told p ent jwks requests trace key f) :
    Told p ent jwks requests (e :: trace) key f := by
  cases told with
  | request auth_req_id f known decided => exact .request auth_req_id f (known.later e) (decided.later e)
  | outcome auth_req_id f r known own t same =>
    obtain ⟨outcome, same, noted⟩ := same
    exact .outcome auth_req_id f r (known.later e) own t ⟨outcome, same, noted.later e⟩

end later

/-- The request that was approved is the one that was meant. -/
theorem ApprovedAt.own {p : Site} {ent : Entropy} {jwks : ℕ → String → String → Option JwkPub} {requests : ℕ → Request}
    {trace : List (Occurrence Fs ℕ)} {k : ℕ} {auth_req_id challenge : String} {shown : AuthVerifyReq} {above : Past Host}
    {r : BackchannelAuthRequest} {t : registration.Ceremony} {cred : registration.Credential}
    (approved : ApprovedAt p ent jwks requests trace k auth_req_id shown above r challenge t cred) : r.auth_req_id = auth_req_id := by
  obtain ⟨below, implements, -⟩ := approved.seen
  obtain ⟨f, -, rfl⟩ := got_request (implements.ran approved.approves.request)
  rfl

/-! ### What a request was shown -/

section shown
variable {p ent jwks requests} {trace : List (Occurrence Fs ℕ)} {i : ℕ} {below : Past Fs} {above : Past Host}
  (implements : Prog.Implements (production (jwks i)) above below)
  (shown : ∀ x ∈ below, ∀ key f, CibaCol key.1 → Shows x key f → Told p ent jwks requests trace key f)
include implements shown

theorem found_request {auth_req_id : String} {r : BackchannelAuthRequest}
    (read : ⟨.backend (.ciba (.get auth_req_id)), .ok (some r)⟩ ∈ above) :
    Known p ent jwks requests trace r ∧ r.auth_req_id = auth_req_id := by
  obtain ⟨f, listed, rfl⟩ := got_request (implements.ran read)
  have told := shown _ listed (.cibaRequests, auth_req_id) f trivial (.get_doc ..)
  cases told with
  | request _ _ known decided => exact ⟨known, rfl⟩

end shown

/-! ### Every document was put there in order -/

section written
variable {o : HostOp} {below now : Past Fs} {asked : FsOp} {key : Col × String} {found : Option Fields} {f : Fields}

/-- A request to Firestore that leaves such a document belongs to an operation of
    the store of requests, or is one that the handler makes itself. -/
abbrev Put (o : HostOp) (now : Past Fs) (asked : FsOp) : Prop := (∃ b, o = .backend b ∧ CibaPuts b now asked) ∨ o = .firestore asked

theorem put_of_asks {jwks : String → String → Option JwkPub} (asks : (production jwks o).Asks below asked now)
    (here : CibaCol key.1) (writes : asked.writes = some key) (makes : asked.makes found = some f) : Put o now asked := by
  have other : key.1 ≠ .nonces := fun same => by rw [same] at here; exact here
  rcases host_asks asks other writes with ⟨b, rfl, asks⟩ | ⟨direct, -⟩
  · exact .inl ⟨b, rfl, cibaPuts_of_asks asks here writes makes⟩
  · exact .inr direct

theorem free_puts_nothing (free : CibaFree o) (here : CibaCol key.1) (writes : asked.writes = some key) : ¬Put o now asked := by
  rintro (⟨b, rfl, puts⟩ | rfl)
  · cases puts <;> exact free
  · exact free key writes here

theorem token_puts_nothing (free : TokenFree o) (writes : asked.writes = some key) : ¬Put o now asked := by
  rintro (⟨b, rfl, puts⟩ | rfl)
  · cases puts <;> exact free
  · cases asked <;> first | exact free | cases writes

end written

section moves
variable {p ent jwks requests} {trace : List (Occurrence Fs ℕ)} {i : ℕ} {above : Past Host} {below : Past Fs} {asked : FsOp}
  (implements : Prog.Implements (production (jwks i)) above below) (old : below <:+ Pool.past trace i)
  (shown : ∀ x ∈ Pool.past trace i, ∀ key f, CibaCol key.1 → Shows x key f → Told p ent jwks requests trace key f)
include implements old shown

/-- A request that is moved stays what was asked for. -/
private theorem told_moved {o : HostOp} {auth_req_id outcome : String} {status : CibaStatus}
    {justified : Past Host → Option BackchannelAuthRequest → Prop} {key : Col × String} {found : Option Fields} {f : Fields}
    (settles : Settles auth_req_id status outcome justified above o) (puts : Put o (Pool.past trace i) asked)
    (here : CibaCol key.1) (writes : asked.writes = some key) (makes : asked.makes found = some f) (r : asked.Res)
    (decided : ∀ req, justified above req → Decided p ent jwks requests (⟨i, asked, r⟩ :: trace) auth_req_id status)
    (known : ∀ r', justified above (some r') → Known p ent jwks requests trace r' ∧ r'.auth_req_id = auth_req_id)
    (noted : ∀ req, justified above req → Moved trace i auth_req_id status →
      Noted p ent jwks requests (⟨i, asked, r⟩ :: trace) auth_req_id outcome) :
    Told p ent jwks requests (⟨i, asked, r⟩ :: trace) key f := by
  rcases settles with free | ⟨rfl, req, holds⟩ | ⟨r', time, rfl, holds, moved⟩
  · exact absurd puts (free_puts_nothing free here writes)
  · rcases puts with ⟨_, same, puts⟩ | wrong
    · cases same
      cases puts with
      | moved _ _ g ut read pending =>
        cases writes
        cases makes
        have told := shown _ read (.cibaRequests, auth_req_id) g trivial (.get_doc_with_update_time ..)
        cases told with
        | request _ _ was _ =>
          obtain ⟨j, r₀, asked, keeps⟩ := was
          have written := decoded_request { BackchannelAuthRequest.from_fields auth_req_id g with status }
          have same : Keeps r₀ { BackchannelAuthRequest.from_fields auth_req_id g with status } := { keeps with }
          refine .request auth_req_id _ ⟨j, r₀, asked.later _, same.trans written.1⟩ ?_
          rw [show (BackchannelAuthRequest.from_fields auth_req_id _).status = status from written.2]
          exact decided req holds
    · cases wrong
  · rcases puts with ⟨_, same, puts⟩ | wrong
    · cases same
      cases puts
      cases writes
      cases makes
      obtain ⟨f, ut, -, -, listed⟩ := moved_request (implements.ran moved)
      obtain ⟨was, own⟩ := known r' holds
      have moved : Moved trace i auth_req_id status := ⟨f, ut, Pool.mem_past.mp (old.subset listed)⟩
      subst own
      exact .outcome r'.auth_req_id _ r' (was.later _) rfl time ⟨outcome, rfl, noted _ holds moved⟩
    · cases wrong

omit implements old in
/-- A request that is swept had been read, and was late. -/
private theorem told_swept {o : HostOp} {key : Col × String} {found : Option Fields} {f : Fields} (lists : ListSaves o)
    (puts : Put o (Pool.past trace i) asked) (here : CibaCol key.1) (writes : asked.writes = some key)
    (makes : asked.makes found = some f) (r : asked.Res) : Told p ent jwks requests (⟨i, asked, r⟩ :: trace) key f := by
  rcases lists with free | ⟨account, rfl⟩
  · exact absurd puts (free_puts_nothing free here writes)
  · rcases puts with ⟨_, same, puts⟩ | wrong
    · cases same
      cases puts with
      | swept _ id g rows t t' read listed pending clock later expired =>
        cases writes
        cases makes
        have told := shown _ read (.cibaRequests, id) g trivial (.query_eq listed)
        cases told with
        | request _ _ was _ =>
          refine .outcome id _ _ (was.later _) rfl t ⟨"expired", rfl, ?_⟩
          exact .expired i t' _ (was.later _) rfl pending (List.mem_cons_of_mem _ (Pool.mem_past.mp later)) expired
    · cases wrong

end moves

/-- Whatever is stored, a request of the flow put it there in order. -/
theorem lineage : Lineage CibaCol (Allowed p ent jwks requests) (Told p ent jwks requests) := by
  refine ⟨fun e told => told.later e, ?_⟩
  rintro trace i asked key found f r allowed shown here writes - makes
  obtain ⟨above, o, below, implements, lawful, asks⟩ := allowed
  change (requests i).Lawful p (ent.uuid i) above o at lawful
  have puts : Put o (Pool.past trace i) asked := put_of_asks asks here writes makes
  have old := asks.suffix
  have before : ∀ x ∈ below, ∀ key f, CibaCol key.1 → Shows x key f → Told p ent jwks requests trace key f :=
    fun x listed => shown x (old.subset listed)
  have seen : Seen jwks trace i above := ⟨below, implements, old⟩
  have later : ∀ x ∈ Pool.past trace i, (⟨i, x.1, x.2⟩ : Occurrence Fs ℕ) ∈ ⟨i, asked, r⟩ :: trace :=
    fun x listed => List.mem_cons_of_mem _ (Pool.mem_past.mp listed)
  cases request : requests i with
  | backchannel admitted headers form =>
    rw [request] at lawful
    rcases lawful with free | ⟨client, account_id, terms, rfl, requested⟩
    · exact absurd puts (free_puts_nothing free here writes)
    · rcases puts with ⟨_, same, puts⟩ | wrong
      · cases same
        cases puts with
        | created _ _ _ _ _ _ t clock =>
          cases writes
          cases makes
          have written := decoded_request (asked_request (ent.uuid i .auth_req_id) client account_id terms t)
          have asked : AskedFor p ent jwks requests (⟨i, _, r⟩ :: trace) i
              (asked_request (ent.uuid i .auth_req_id) client account_id terms t) :=
            ⟨rfl, ⟨admitted, headers, form, above, client, account_id, terms, t,
              ⟨request, seen.later _, requested, later _ clock⟩, rfl⟩, r, List.mem_cons_self⟩
          exact .request (ent.uuid i .auth_req_id) _ ⟨i, _, asked, written.1⟩ (decided_pending written.2)
      · cases wrong
  | approve_options auth_req_id =>
    rw [request] at lawful
    exact absurd puts (free_puts_nothing lawful here writes)
  | approve auth_req_id shown_ =>
    rw [request] at lawful
    have approved : ∀ req, Approved p auth_req_id shown_ above req → ∃ r challenge t cred, req = some r ∧ r.auth_req_id = auth_req_id ∧
        ApprovedAt p ent jwks requests trace i auth_req_id shown_ above r challenge t cred := by
      rintro req ⟨r, challenge, t, cred, rfl, approves⟩
      obtain ⟨known, own⟩ := found_request implements before approves.request
      exact ⟨r, challenge, t, cred, rfl, own, request, seen, approves, known⟩
    refine told_moved implements old shown lawful puts here writes makes r (fun req holds => ?_) (fun r' holds => ?_)
      fun req holds moved => ?_
    · obtain ⟨r', challenge, t, cred, -, -, approved⟩ := approved req holds
      exact ⟨i, shown_, above, r', challenge, t, cred, approved.later _⟩
    · obtain ⟨_, challenge, t, cred, same, own, approved⟩ := approved _ holds
      cases same
      exact ⟨approved.known, own⟩
    · obtain ⟨r', challenge, t, cred, -, -, approved⟩ := approved req holds
      exact .approved i shown_ above r' challenge t cred (approved.later _) (moved.later _)
  | reject auth_req_id =>
    rw [request] at lawful
    refine told_moved implements old shown lawful puts here writes makes r (fun req holds => ⟨i, request⟩)
      (fun r' holds => ?_) fun req holds moved => .denied i request (moved.later _)
    exact found_request implements before (holds r' rfl).1
  | pending_list headers =>
    rw [request] at lawful
    exact told_swept shown lawful puts here writes makes r
  | history headers =>
    rw [request] at lawful
    exact told_swept shown lawful puts here writes makes r
  | token headers form =>
    rw [request] at lawful
    exact absurd puts (token_puts_nothing lawful writes)

/-! ### Runs -/

section runs
variable {p ent jwks requests} {db : Db} {c : Pool Fs Db ℕ Response} (empty : ∀ key, CibaCol key.1 → db.docs.get key = none)
  (run : Run (pool p ent jwks requests db) c)
include run

include empty in
theorem run_ordered : Ordered CibaCol (Told p ent jwks requests) c := Service.run_ordered run (lineage p ent jwks requests) empty

end runs

end RustOp.Web.CibaFlow
