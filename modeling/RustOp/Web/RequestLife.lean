import RustOp.Web.CibaOrigins
import RustOp.Web.FlowReference

/-!
The life of a backchannel request, however the requests of clients and users
interleave: it waits, is decided on once, and then goes. Every run of the flow moves
each request along this life.
-/
namespace RustOp.Web.CibaFlow
open RustOp.Effects RustOp.Text RustOp.Firestore

/-! ### Lives -/

/-- What has become of a request. -/
inductive Phase where
  | unasked
  | pending
  | approved
  | denied
  | gone
deriving DecidableEq, Repr

namespace Phase

/-- What can become of it next. It may go at any time. -/
inductive Next : Phase → Phase → Prop where
  | asked : Next .unasked .pending
  | approved : Next .pending .approved
  | denied : Next .pending .denied
  | dropped (φ : Phase) : Next φ .gone

/-- Later phases, in the order of a life. -/
abbrev Leads : Phase → Phase → Prop := Relation.ReflTransGen Next

theorem gone_leads {φ : Phase} (leads : Leads .gone φ) : φ = .gone := by
  induction leads with
  | refl => rfl
  | tail _ next ih =>
    subst ih
    cases next
    rfl

theorem decided_leads {φ ψ : Phase} (decided : φ = .approved ∨ φ = .denied) (leads : Leads φ ψ) : ψ = φ ∨ ψ = .gone := by
  induction leads with
  | refl => exact .inl rfl
  | tail _ next ih =>
    rcases ih with rfl | rfl
    · rcases decided with rfl | rfl <;> cases next <;> exact .inr rfl
    · cases next
      exact .inr rfl

def of_status : CibaStatus → Phase
  | .Pending => .pending
  | .Approved => .approved
  | .Denied => .denied

theorem decided_of_next {status : CibaStatus} (next : Next .pending (of_status status)) :
    of_status status = .approved ∨ of_status status = .denied := by
  cases status with
  | Pending => cases next
  | Approved => exact .inl rfl
  | Denied => exact .inr rfl

end Phase

/-! ### Each request asks once -/

/-- Requests to Firestore that store a request for the first time. -/
def Asks : FsOp → Prop
  | .set_doc .cibaRequests .. => True
  | _ => False

/-- The operations of a handler that do. -/
def HostAsks : HostOp → Prop
  | .backend (.ciba (.create ..)) => True
  | .firestore o => Asks o
  | _ => False

theorem Asks.eq {o : FsOp} (asks : Asks o) : ∃ auth_req_id f, o = .set_doc .cibaRequests auth_req_id f := by
  unfold Asks at asks
  split at asks
  · exact ⟨_, _, rfl⟩
  · exact asks.elim

theorem production_asks (jwks : String → String → Option JwkPub) (o : HostOp) (other : ¬HostAsks o) :
    (production jwks o).Uses fun o => ¬Asks o := by
  refine Prog.uses_of_asks [] fun asked now asks first => ?_
  obtain ⟨auth_req_id, f, rfl⟩ := first.eq
  have here : CibaCol (Col.cibaRequests, auth_req_id).1 := trivial
  have makes : (FsOp.set_doc .cibaRequests auth_req_id f).makes none = some f := rfl
  rcases put_of_asks asks here rfl makes with ⟨b, rfl, puts⟩ | rfl
  · cases puts
    exact other trivial
  · exact other first

theorem production_asks_once (jwks : String → String → Option JwkPub) (o : HostOp) (asks : HostAsks o) :
    (production jwks o).Once Asks := by
  unfold HostAsks at asks
  split at asks
  · refine ⟨fun no => no.elim, fun t => ⟨fun _ r => ?_, fun r => ?_⟩⟩ <;> cases r <;> trivial
  · exact ⟨fun _ _ => trivial, fun _ => trivial⟩
  · exact asks.elim

theorem free_does_not_ask (o : HostOp) (free : CibaFree o) : ¬HostAsks o := by
  intro asks
  unfold HostAsks at asks
  split at asks
  · exact free
  · obtain ⟨auth_req_id, f, rfl⟩ := asks.eq
    exact free (.cibaRequests, auth_req_id) rfl trivial
  · exact asks

theorem token_does_not_ask (o : HostOp) (free : TokenFree o) : ¬HostAsks o := by
  intro asks
  unfold HostAsks at asks
  split at asks
  · exact free
  · obtain ⟨auth_req_id, f, rfl⟩ := asks.eq
    exact free
  · exact asks

section once
variable {p : Site}

private theorem backchannel_auth_once (uuid : Draw → String) (admitted : Bool) (headers : Headers) (form : Form) :
    (backchannel_auth p uuid admitted headers form).Once HostAsks := by
  have free : ∀ (past : Past Host) o, CibaFree o → ¬HostAsks o := fun _ => free_does_not_ask
  have reads : ∀ col id, ¬HostAsks (.firestore (.get_doc col id)) := fun _ _ => id
  have never : ∀ {α : Type} {q : Prog Host α} {R : Past Host → α → Prop},
      q.Justified (fun _ o => ¬HostAsks o) R [] → q.Uses fun o => ¬HostAsks o :=
    fun justified => Prog.Justified.uses (J := fun _ o => ¬HostAsks o) (fun _ _ never => never) justified
  unfold backchannel_auth
  split
  · trivial
  · refine .bind_second (authenticate_client_uses reads (fun _ _ => id) id (fun _ _ => id) _ _ _) fun client => ?_
    cases client with
    | error e => trivial
    | ok client =>
      dsimp only
      split
      · trivial
      · refine .bind_second (never (parameters_justified free client form)) fun params => ?_
        cases params with
        | error e => trivial
        | ok params =>
          dsimp only
          split
          · trivial
          · refine .bind_second (never (backchannel_account_justified free _)) fun account => ?_
            cases account with
            | error r => trivial
            | ok account_id =>
              unfold backchannel.create
              refine ⟨fun no => no.elim, fun pending => ?_⟩
              cases pending with
              | error e => trivial
              | ok pending =>
                dsimp only [Prog.bind]
                split
                · exact ⟨fun no => no.elim, fun _ => trivial⟩
                · split
                  · trivial
                  · refine ⟨fun _ r => ?_, fun r => ?_⟩
                    · cases r with
                      | error e => trivial
                      | ok id => exact ⟨reads _ _, fun _ => trivial⟩
                    · cases r with
                      | error e => trivial
                      | ok id => exact .of_uses ⟨reads _ _, fun _ => trivial⟩

/-- Every request asks for one authentication at most. -/
theorem run_once (uuid : Draw → String) (req : Request) : (req.run p uuid).Once HostAsks := by
  have settles : ∀ {auth_req_id : String} {status : CibaStatus} {outcome : String}
      {justified : Past Host → Option BackchannelAuthRequest → Prop} (past : Past Host) (o : HostOp),
      Settles auth_req_id status outcome justified past o → ¬HostAsks o := by
    rintro _ _ _ _ past o (free | ⟨rfl, -⟩ | ⟨_, _, rfl, -⟩)
    · exact free_does_not_ask o free
    · exact id
    · exact id
  have lists : ∀ (past : Past Host) (o : HostOp), ListSaves o → ¬HostAsks o := by
    rintro past o (free | ⟨_, rfl⟩)
    · exact free_does_not_ask o free
    · exact id
  have justified := req.run_justified p uuid
  cases req with
  | backchannel admitted headers form => exact backchannel_auth_once uuid admitted headers form
  | approve_options auth_req_id => exact .of_uses (justified.uses fun _ => free_does_not_ask)
  | approve auth_req_id shown => exact .of_uses (justified.uses settles)
  | reject auth_req_id => exact .of_uses (justified.uses settles)
  | pending_list headers => exact .of_uses (justified.uses lists)
  | history headers => exact .of_uses (justified.uses lists)
  | token headers form => exact .of_uses (justified.uses fun _ => token_does_not_ask)

end once

/-! ### Who writes a request -/

section writes
variable {p : Site} {ent : Entropy} {jwks : ℕ → String → String → Option JwkPub} {requests : ℕ → Request}

variable (ent) in
/-- What a handler does to the requests that are stored. -/
inductive May (i : ℕ) : HostOp → Prop where
  | free {o : HostOp} (free : CibaFree o) : May i o
  | redeem {o : HostOp} (free : TokenFree o) : May i o
  | create (client_id account scope binding_message : String) (details : Option String) :
      May i (.backend (.ciba (.create (ent.uuid i .auth_req_id) client_id account scope binding_message details)))
  | sweep (account : String) : May i (.backend (.ciba (.sweep_expired account)))
  | settle (auth_req_id : String) (status : CibaStatus) (decided : status ≠ .Pending) :
      May i (.backend (.ciba (.transition_if_pending auth_req_id status)))
  | record (entry : CibaHistoryEntry) : May i (.backend (.ciba (.record_history entry)))

private theorem may_of_settles {i : ℕ} {above : Past Host} {o : HostOp} {auth_req_id outcome : String} {status : CibaStatus}
    {justified : Past Host → Option BackchannelAuthRequest → Prop} (settles : Settles auth_req_id status outcome justified above o)
    (decided : status ≠ .Pending) : May ent i o := by
  rcases settles with free | ⟨rfl, -⟩ | ⟨r, time, rfl, -⟩
  · exact .free free
  · exact .settle auth_req_id status decided
  · exact .record _

private theorem may_of_lists {i : ℕ} {o : HostOp} (lists : ListSaves o) : May ent i o := by
  rcases lists with free | ⟨account, rfl⟩
  · exact .free free
  · exact .sweep account

theorem may_of_lawful {i : ℕ} {above : Past Host} {o : HostOp} (lawful : (requests i).Lawful p (ent.uuid i) above o) : May ent i o := by
  cases request : requests i with
  | backchannel admitted headers form =>
    rw [request] at lawful
    rcases lawful with free | ⟨client, account_id, terms, rfl, -⟩
    · exact .free free
    · exact .create ..
  | approve_options auth_req_id =>
    rw [request] at lawful
    exact .free lawful
  | approve auth_req_id shown =>
    rw [request] at lawful
    exact may_of_settles lawful (by simp)
  | reject auth_req_id =>
    rw [request] at lawful
    exact may_of_settles lawful (by simp)
  | pending_list headers =>
    rw [request] at lawful
    exact may_of_lists lawful
  | history headers =>
    rw [request] at lawful
    exact may_of_lists lawful
  | token headers form =>
    rw [request] at lawful
    exact .redeem lawful

/-- No handler writes a request or an outcome itself. -/
private theorem direct_writes_nothing {i : ℕ} {asked : FsOp} {key : Col × String} (here : CibaCol key.1)
    (writes : asked.writes = some key) (may : May ent i (.firestore asked)) : False := by
  cases may with
  | free free => exact free key writes here
  | redeem free =>
    have puts : Put (.firestore asked) [] asked := .inr rfl
    exact token_puts_nothing free writes puts

variable (ent) in
/-- A request is stored once by whoever asks for it, and then moved by whoever has
    read it pending. -/
inductive Writes (i : ℕ) (now : Past Fs) (auth_req_id : String) (f : Fields) : FsOp → Prop where
  | asked (own : auth_req_id = ent.uuid i .auth_req_id)
      (pending : (BackchannelAuthRequest.from_fields auth_req_id f).status = .Pending) :
      Writes i now auth_req_id f (.set_doc .cibaRequests auth_req_id f)
  | moved (g : Fields) (ut : Nat) (read : ⟨.get_doc_with_update_time .cibaRequests auth_req_id, .ok (some (g, ut))⟩ ∈ now)
      (pending : (BackchannelAuthRequest.from_fields auth_req_id g).status = .Pending)
      (decided : (BackchannelAuthRequest.from_fields auth_req_id f).status ≠ .Pending) :
      Writes i now auth_req_id f (.set_doc_if_unchanged .cibaRequests auth_req_id f ut)

theorem writes_of_allowed {i : ℕ} {now : Past Fs} {asked : FsOp} (allowed : Allowed p ent jwks requests i now asked)
    {auth_req_id : String} (writes : asked.writes = some (.cibaRequests, auth_req_id)) {found : Option Fields} {f : Fields}
    (makes : asked.makes found = some f) : Writes ent i now auth_req_id f asked := by
  obtain ⟨above, o, below, implements, lawful, asks⟩ := allowed
  have may : May ent i o := may_of_lawful lawful
  have here : CibaCol (Col.cibaRequests, auth_req_id).1 := trivial
  rcases put_of_asks asks here writes makes with ⟨b, rfl, puts⟩ | rfl
  · cases puts with
    | created id client_id account scope binding_message details t clock =>
      cases writes
      cases makes
      refine .asked ?_ (decoded_request _).2
      cases may with
      | free free => exact free.elim
      | redeem free => exact free.elim
      | create => rfl
    | moved id status g ut read pending =>
      cases writes
      cases makes
      refine .moved g ut read pending ?_
      have written := (decoded_request { BackchannelAuthRequest.from_fields auth_req_id g with status }).2
      rw [show (BackchannelAuthRequest.from_fields auth_req_id _).status = status from written]
      cases may with
      | free free => exact free.elim
      | redeem free => exact free.elim
      | settle _ _ decided => exact decided
    | recorded entry => cases writes
    | swept account id g rows t t' read listed pending clock later expired => cases writes
  · exact (direct_writes_nothing here writes may).elim

end writes

/-! ### Phases -/

/-- Whether somebody has tried to store the request. -/
def asked (trace : List (Occurrence Fs ℕ)) (auth_req_id : String) : Bool :=
  trace.any fun e => match e.op with
    | .set_doc .cibaRequests id _ => id == auth_req_id
    | _ => false

theorem asked_eq_true {trace : List (Occurrence Fs ℕ)} {auth_req_id : String} :
    asked trace auth_req_id = true ↔ ∃ e ∈ trace, ∃ f, e.op = .set_doc .cibaRequests auth_req_id f := by
  simp only [asked, List.any_eq_true]
  refine exists_congr fun e => and_congr_right fun _ => ?_
  split <;> simp_all

/-- What has become of the request: what its document says, or that it is gone. -/
def phase (c : Pool Fs Db ℕ Response) (auth_req_id : String) : Phase :=
  match c.state.docs.get (.cibaRequests, auth_req_id) with
  | some doc => .of_status (BackchannelAuthRequest.from_fields auth_req_id doc.fields).status
  | none => if asked c.trace auth_req_id then .gone else .unasked

theorem phase_stored {c : Pool Fs Db ℕ Response} {auth_req_id : String} {doc : Doc}
    (stored : c.state.docs.get (.cibaRequests, auth_req_id) = some doc) :
    phase c auth_req_id = .of_status (BackchannelAuthRequest.from_fields auth_req_id doc.fields).status := by
  simp [phase, stored]

theorem phase_absent {c : Pool Fs Db ℕ Response} {auth_req_id : String}
    (absent : c.state.docs.get (.cibaRequests, auth_req_id) = none) :
    phase c auth_req_id = if asked c.trace auth_req_id then .gone else .unasked := by
  simp [phase, absent]

/-- What an acknowledged operation makes of a request. -/
inductive Turns (auth_req_id : String) : Occurrence Fs ℕ → Phase → Phase → Prop where
  | decided (k : ℕ) (f : Fields) (ut : Nat) :
      Turns auth_req_id ⟨k, .set_doc_if_unchanged .cibaRequests auth_req_id f ut, .ok true⟩ .pending
        (.of_status (BackchannelAuthRequest.from_fields auth_req_id f).status)
  | redeemed (i : ℕ) (ut : Nat) :
      Turns auth_req_id ⟨i, .delete_doc_if_unchanged .cibaRequests auth_req_id ut, .ok true⟩ .approved .gone

/-! ### A run -/

section example_run
open Reference

private def basic : Headers := [("authorization", "Basic cnA6c2VjcmV0")]

private def ask : Request := .backchannel true basic [("login_hint", "a@x"), ("scope", "openid")]

private def poll (auth_req_id : String) : Request :=
  .token basic [("grant_type", CIBA_GRANT), ("auth_req_id", auth_req_id)]

/-- The request that is approved. -/
def approvedId : String := Entropy.unary.uuid 0 .auth_req_id

/-- The request that is rejected. -/
def rejectedId : String := Entropy.unary.uuid 4 .auth_req_id

/-- A client asks, the user looks and approves, and the client redeems; it asks
    again, the user rejects, and the client polls in vain. At last the user reads
    the history. -/
def consentRequests : ℕ → Request
  | 0 | 4 => ask
  | 1 => .pending_list [("authorization", "Bearer t")]
  | 2 => .approve approvedId signIn
  | 3 => poll approvedId
  | 5 => .reject rejectedId
  | 6 => poll rejectedId
  | _ => .history [("authorization", "Bearer t")]

/-- An account with its passkey and an access token, and a challenge for the first
    request. -/
def consentDb : Db where
  clock := 1000
  docs := .ofEntries
    [((.accounts, "a@x"), some ⟨registration.account_fields "a@x" "acct" ⟨signIn.id, base64 signerX, base64 signerY, 3⟩ 0 false, 0⟩),
      ((.accountsByUuid, "acct"), some ⟨.ofEntries [("email", some (.string "a@x"))], 0⟩),
      ((.accessTokens, "t"), some ⟨AccessToken.to_fields ⟨"t", "rp", "acct", "openid", none, none, none, none, none, false⟩ 1300, 0⟩),
      ((.webauthnChallenges, signInChallenge), some ⟨registration.Ceremony.to_fields
        ⟨"a@x", .CibaApprove, approvedId, ""⟩ 1300, 0⟩)]

def consentPool : Pool Fs Db ℕ Response := pool flowSite .unary (fun _ _ _ => none) consentRequests consentDb

/-- The requests take turns, one after the other. -/
def consentOrder : List ℕ :=
  List.replicate 5 0 ++ List.replicate 7 1 ++ List.replicate 11 2 ++ List.replicate 7 3 ++ List.replicate 5 4 ++
    List.replicate 6 5 ++ List.replicate 3 6 ++ List.replicate 5 7

def consentEnd : Pool Fs Db ℕ Response := Pool.schedule exec consentPool consentOrder

/-- Whether the user was shown the first request, the client got tokens for it, the
    second was rejected, and the history was shown. -/
def consentSettled (c : Pool Fs Db ℕ Response) : Bool :=
  (match (c.threads 1).result with
    | some (.json 200 (.arr [entry])) =>
      match entry.get "auth_req_id" with
      | some (.str id) => id == approvedId
      | _ => false
    | _ => false) &&
  (match (c.threads 3).result with
    | some (.token _) => true
    | _ => false) &&
  (match (c.threads 5).result with
    | some (.text 204 "") => true
    | _ => false) &&
  match (c.threads 7).result with
    | some (.json 200 (.arr _)) => true
    | _ => false

private theorem consentSettled_consentEnd : consentSettled consentEnd = true := by
  have threads : (fun i => ((consentRequests i).run flowSite (Entropy.unary.uuid i)).lower (Web.production fun _ _ => none)) =
      fun i => if i = 2 then (ciba_approve flowSite approvedId signIn).lower (Web.production fun _ _ => none)
      else ((consentRequests i).run flowSite (Entropy.unary.uuid i)).lower (Web.production fun _ _ => none) := by
    funext i
    split
    · rename_i same
      subst same
      rfl
    · rfl
  unfold consentEnd consentPool
  dsimp only [pool, Service.pool, service]
  rw [threads]
  simp only [ciba_approve, signIn_named, approve_as, signIn_checked]
  decide +kernel

theorem consentEnd_run : Run (pool flowSite .unary (fun _ _ _ => none) consentRequests consentDb) consentEnd :=
  Relation.ReflTransGen.mono (fun _ _ step => step.mono (fun _ _ _ _ => .inl) fun _ _ => id) _ _
    (Pool.schedule_steps exec (Elsewhere CibaCol) consentPool consentOrder)

theorem consentDb_empty : ∀ key, CibaCol key.1 → consentDb.docs.get key = none := by
  rintro ⟨col, id⟩ ciba
  cases col <;> first | exact ciba.elim | simp [consentDb, Table.ofEntries, Table.get_put]

/-- The user was shown the first request. -/
theorem consentEnd_shown : ∃ entry, consentEnd.threads 1 = .ret (.json 200 (.arr [entry])) ∧
    entry.get "auth_req_id" = some (.str approvedId) := by
  have settled := consentSettled_consentEnd
  simp only [consentSettled, Bool.and_eq_true] at settled
  obtain ⟨⟨⟨shown, -⟩, -⟩, -⟩ := settled
  split at shown
  · rename_i entry done
    split at shown
    · rename_i id named
      obtain rfl : id = approvedId := by simpa using shown
      exact ⟨entry, Prog.result_eq_some.mp done, named⟩
    · cases shown
  · cases shown

/-- The client got tokens for it. -/
theorem consentEnd_issued : ∃ resp, consentEnd.threads 3 = .ret (.token resp) := by
  have settled := consentSettled_consentEnd
  simp only [consentSettled, Bool.and_eq_true] at settled
  obtain ⟨⟨⟨-, tokens⟩, -⟩, -⟩ := settled
  split at tokens
  · rename_i resp done
    exact ⟨resp, Prog.result_eq_some.mp done⟩
  · cases tokens

/-- The second request was rejected. -/
theorem consentEnd_rejected : consentEnd.threads 5 = .ret (.text 204 "") := by
  have settled := consentSettled_consentEnd
  simp only [consentSettled, Bool.and_eq_true] at settled
  obtain ⟨⟨-, rejected⟩, -⟩ := settled
  split at rejected
  · rename_i done
    exact Prog.result_eq_some.mp done
  · cases rejected

theorem consentEnd_noted : ∃ entries, consentEnd.threads 7 = .ret (.json 200 (.arr entries)) := by
  have settled := consentSettled_consentEnd
  simp only [consentSettled, Bool.and_eq_true] at settled
  obtain ⟨-, noted⟩ := settled
  split at noted
  · rename_i entries done
    exact ⟨entries, Prog.result_eq_some.mp done⟩
  · cases noted

end example_run

section runs
variable {p : Site} {ent : Entropy} {jwks : ℕ → String → String → Option JwkPub} {requests : ℕ → Request} {db : Db}
  {c : Pool Fs Db ℕ Response} (empty : ∀ key, CibaCol key.1 → db.docs.get key = none)
  (run : Run (pool p ent jwks requests db) c)
include run

/-- No thread asks twice. -/
theorem run_asks_once {K : Occurrence Fs ℕ → Bool} (kind : ∀ e, K e = true → Asks e.op) :
    (∀ i, Pool.OnceBy Asks c i) ∧ ((c.trace.filter K).map (·.thread)).Nodup :=
  Service.run_once run
    (fun i => (run_once (ent.uuid i) (requests i)).lower (production_asks_once (jwks i)) (production_asks (jwks i))) kind

/-- Whoever has tried to store a request drew its identifier. -/
theorem asked_by {auth_req_id : String} (before : asked c.trace auth_req_id = true) :
    ∃ e ∈ c.trace, Asks e.op ∧ auth_req_id = ent.uuid e.thread .auth_req_id := by
  obtain ⟨e, listed, f, same⟩ := asked_eq_true.mp before
  obtain ⟨before, -, allowed⟩ := Service.run_occurred run e listed
  have writes : e.op.writes = some (.cibaRequests, auth_req_id) := by rw [same]; rfl
  have makes : e.op.makes none = some f := by rw [same]; rfl
  have written := writes_of_allowed allowed writes makes
  rw [same] at written
  cases written with
  | asked own pending => exact ⟨e, listed, by rw [same]; trivial, own⟩

include empty

theorem asked_of_stored {auth_req_id : String} {doc : Doc} (stored : c.state.docs.get (.cibaRequests, auth_req_id) = some doc) :
    asked c.trace auth_req_id = true := by
  have told := (run_ordered empty run).stored (.cibaRequests, auth_req_id) doc trivial stored
  cases told with
  | request _ _ known _ =>
    obtain ⟨j, r₀, ⟨-, -, a, listed⟩, keeps⟩ := known
    obtain rfl : auth_req_id = r₀.auth_req_id := keeps.auth_req_id
    exact asked_eq_true.mpr ⟨_, listed, _, rfl⟩

theorem absent_of_unasked {auth_req_id : String} (unasked : asked c.trace auth_req_id ≠ true) :
    c.state.docs.get (.cibaRequests, auth_req_id) = none := by
  by_contra present
  obtain ⟨doc, stored⟩ := Option.ne_none_iff_exists'.mp present
  exact unasked (asked_of_stored empty run stored)

theorem run_versioned (auth_req_id : String) : Versioned (.cibaRequests, auth_req_id) c := by
  have here : CibaCol (Col.cibaRequests, auth_req_id).1 := trivial
  exact Versioned.run here rfl (empty _ here) run

/-- Each step leaves a request as it is or moves it on in its life. -/
theorem phase_step {c' : Pool Fs Db ℕ Response} (did : Pool.Did sem (Elsewhere CibaCol) (Allowed p ent jwks requests) c c')
    (auth_req_id : String) : phase c' auth_req_id = phase c auth_req_id ∨ (phase c auth_req_id).Next (phase c' auth_req_id) := by
  cases did with
  | env changes trace threads =>
    rcases changes.docs (.cibaRequests, auth_req_id) trivial with same | gone
    · exact .inl (by simp only [phase, same, trace])
    · cases stored : c.state.docs.get (.cibaRequests, auth_req_id) with
      | none => exact .inl (by simp only [phase, stored, gone, trace])
      | some doc =>
        rw [phase_absent gone, trace, if_pos (asked_of_stored empty run stored)]
        exact .inr (.dropped _)
  | act e k next allowed does trace threads =>
    obtain ⟨i, o, r⟩ := e
    dsimp only at next allowed does
    cases stored : c'.state.docs.get (.cibaRequests, auth_req_id) with
    | none =>
      rw [phase_absent stored]
      split
      · exact .inr (.dropped _)
      · rename_i never
        have unasked : asked c.trace auth_req_id ≠ true := by
          intro before
          obtain ⟨x, listed, f, same⟩ := asked_eq_true.mp before
          exact never (asked_eq_true.mpr ⟨x, trace ▸ List.mem_cons_of_mem _ listed, f, same⟩)
        rw [phase_absent (absent_of_unasked empty run unasked), if_neg unasked]
        exact .inl rfl
    | some doc =>
      have unchanged : c.state.docs.get (.cibaRequests, auth_req_id) = some doc → phase c' auth_req_id = phase c auth_req_id :=
        fun old => by rw [phase_stored stored, phase_stored old]
      have made : c.state.docs.get (.cibaRequests, auth_req_id) = some doc ∨ o.writes = some (.cibaRequests, auth_req_id) ∧
          o.makes ((c.state.docs.get (.cibaRequests, auth_req_id)).map Doc.fields) = some doc.fields := by
        rcases sem_effect does with same | effect
        · exact .inl (same ▸ stored)
        · exact exec_makes (effect ▸ stored)
      rcases made with old | ⟨writes, makes⟩
      · exact .inl (unchanged old)
      · rw [phase_stored stored]
        cases writes_of_allowed allowed writes makes with
        | asked own pending =>
          have unasked : asked c.trace auth_req_id ≠ true := by
            intro before
            obtain ⟨x, listed, asks, own'⟩ := asked_by run before
            obtain ⟨same, -⟩ := ent.distinct (own.symm.trans own')
            have kind : ∀ x : Occurrence Fs ℕ, false = true → Asks x.op := fun _ no => by cases no
            have earlier : ⟨x.op, x.answer⟩ ∈ Pool.past c.trace i := Pool.mem_past.mpr (same ▸ listed)
            exact ((run_asks_once run kind).1 i).first next trivial earlier asks
          rw [phase_absent (absent_of_unasked empty run unasked), if_neg unasked, pending]
          exact .inr .asked
        | moved g ut read pending decided =>
          rcases sem_set_if_unchanged does with ⟨same, -⟩ | ⟨current, -, -⟩
          · rw [← phase_stored stored]
            exact .inl (unchanged (same ▸ stored))
          · obtain ⟨was, stored', rfl⟩ := (run_versioned empty run auth_req_id).current read current
            rw [phase_stored stored', pending]
            cases status : (BackchannelAuthRequest.from_fields auth_req_id doc.fields).status with
            | Pending => exact absurd status decided
            | Approved => exact .inr .approved
            | Denied => exact .inr .denied

omit run in
/-- From any time of a run to any later one, a request moves on in its life. -/
theorem run_leads {c' : Pool Fs Db ℕ Response} (before : Run (pool p ent jwks requests db) c) (run : Run c c')
    (auth_req_id : String) : (phase c auth_req_id).Leads (phase c' auth_req_id) := by
  induction run with
  | refl => exact .refl
  | @tail b d prior step ih =>
    have here := before.trans prior
    obtain ⟨-, did⟩ := (Service.run_honest here).step step
    rcases phase_step empty here did auth_req_id with same | next
    · exact same ▸ ih
    · exact ih.tail next

/-! ### Decisions and redemptions -/

/-- Whoever moved a request found it pending. -/
theorem decided_at {i : ℕ} {auth_req_id : String} {f : Fields} {ut : Nat} {c' : Pool Fs Db ℕ Response}
    (step : Pool.Step sem (Elsewhere CibaCol) c c')
    (trace : c'.trace = ⟨i, .set_doc_if_unchanged .cibaRequests auth_req_id f ut, .ok true⟩ :: c.trace)
    (does : sem (.set_doc_if_unchanged .cibaRequests auth_req_id f ut) c.state (.ok true) c'.state) :
    phase c auth_req_id = .pending ∧ phase c' auth_req_id = .of_status (BackchannelAuthRequest.from_fields auth_req_id f).status ∧
      (BackchannelAuthRequest.from_fields auth_req_id f).status ≠ .Pending := by
  have listed : ⟨i, .set_doc_if_unchanged .cibaRequests auth_req_id f ut, .ok true⟩ ∈ c'.trace := by
    rw [trace]
    exact List.mem_cons_self
  obtain ⟨before, old, allowed⟩ := Service.run_occurred (run.tail step) _ listed
  rcases sem_set_if_unchanged does with ⟨-, refused⟩ | ⟨current, after, -⟩
  · exact absurd rfl refused
  · have makes : (FsOp.set_doc_if_unchanged .cibaRequests auth_req_id f ut).makes none = some f := rfl
    cases writes_of_allowed allowed rfl makes with
    | moved g _ read pending decided =>
      have read : ⟨.get_doc_with_update_time .cibaRequests auth_req_id, .ok (some (g, ut))⟩ ∈ Pool.past c.trace i := by
        have there := Pool.mem_past.mp (old.subset (List.mem_cons_of_mem _ read))
        rw [trace] at there
        exact Pool.mem_past.mpr (List.mem_of_ne_of_mem (by simp) there)
      obtain ⟨doc, stored, rfl⟩ := (run_versioned empty run auth_req_id).current read current
      refine ⟨by rw [phase_stored stored, pending]; rfl, ?_, decided⟩
      have written : c'.state.docs.get (.cibaRequests, auth_req_id) = some ⟨f, c.state.writes + 1⟩ := by
        rw [after, get_write, if_pos rfl]
      rw [phase_stored written]

omit empty run in
private theorem deletes_of_allowed {i : ℕ} {now : Past Fs} {auth_req_id : String} {ut : Nat}
    (allowed : Allowed p ent jwks requests i now (.delete_doc_if_unchanged .cibaRequests auth_req_id ut)) :
    ∃ g, ⟨.get_doc_with_update_time .cibaRequests auth_req_id, .ok (some (g, ut))⟩ ∈ now ∧
      (BackchannelAuthRequest.from_fields auth_req_id g).status = .Approved := by
  obtain ⟨above, o, below, -, lawful, asks⟩ := allowed
  have writes : (FsOp.delete_doc_if_unchanged .cibaRequests auth_req_id ut).writes = some (.cibaRequests, auth_req_id) := rfl
  have here : CibaCol (Col.cibaRequests, auth_req_id).1 := trivial
  rcases host_asks asks (by simp) writes with ⟨b, rfl, asks⟩ | ⟨rfl, -⟩
  · exact deletes_of_asks asks
  · exact (direct_writes_nothing here writes (may_of_lawful lawful)).elim

/-- Whoever consumed a request found it approved, and it is gone. -/
theorem consumed_at {i : ℕ} {auth_req_id : String} {ut : Nat} {c' : Pool Fs Db ℕ Response}
    (step : Pool.Step sem (Elsewhere CibaCol) c c')
    (trace : c'.trace = ⟨i, .delete_doc_if_unchanged .cibaRequests auth_req_id ut, .ok true⟩ :: c.trace)
    (does : sem (.delete_doc_if_unchanged .cibaRequests auth_req_id ut) c.state (.ok true) c'.state) :
    phase c auth_req_id = .approved ∧ phase c' auth_req_id = .gone := by
  have listed : ⟨i, .delete_doc_if_unchanged .cibaRequests auth_req_id ut, .ok true⟩ ∈ c'.trace := by
    rw [trace]
    exact List.mem_cons_self
  obtain ⟨before, old, allowed⟩ := Service.run_occurred (run.tail step) _ listed
  obtain ⟨g, read, approved⟩ := deletes_of_allowed allowed
  rcases sem_delete_if_unchanged does with ⟨-, refused⟩ | ⟨current, after, -⟩
  · exact absurd rfl refused
  · have read : ⟨.get_doc_with_update_time .cibaRequests auth_req_id, .ok (some (g, ut))⟩ ∈ Pool.past c.trace i := by
      have there := Pool.mem_past.mp (old.subset (List.mem_cons_of_mem _ read))
      rw [trace] at there
      exact Pool.mem_past.mpr (List.mem_of_ne_of_mem (by simp) there)
    obtain ⟨doc, stored, rfl⟩ := (run_versioned empty run auth_req_id).current read current
    have absent : c'.state.docs.get (.cibaRequests, auth_req_id) = none := by
      rw [after, get_erase, if_pos rfl]
    obtain ⟨x, was, f, same⟩ := asked_eq_true.mp (asked_of_stored empty run stored)
    have asked' : asked c'.trace auth_req_id = true := asked_eq_true.mpr ⟨x, trace ▸ List.mem_cons_of_mem _ was, f, same⟩
    exact ⟨by rw [phase_stored stored, approved]; rfl, by rw [phase_absent absent, if_pos asked']⟩

omit run in
/-- An acknowledged operation on a request moved it on. -/
theorem turned {auth_req_id : String} {e : Occurrence Fs ℕ} {φ ψ : Phase} (turns : Turns auth_req_id e φ ψ)
    {c' : Pool Fs Db ℕ Response} (before : Run (pool p ent jwks requests db) c) (step : Pool.Step sem (Elsewhere CibaCol) c c')
    (trace : c'.trace = e :: c.trace) (does : sem e.op c.state e.answer c'.state) :
    phase c auth_req_id = φ ∧ phase c' auth_req_id = ψ ∧ φ.Next ψ := by
  cases turns with
  | decided k f ut =>
    obtain ⟨pending, settled, final⟩ := decided_at empty before step trace does
    refine ⟨pending, settled, ?_⟩
    cases status : (BackchannelAuthRequest.from_fields auth_req_id f).status with
    | Pending => exact absurd status final
    | Approved => exact .approved
    | Denied => exact .denied
  | redeemed i ut =>
    obtain ⟨approved, gone⟩ := consumed_at empty before step trace does
    exact ⟨approved, gone, .dropped _⟩

/-- From then on, the request is as the operation left it, or further. -/
theorem turned_leads {auth_req_id : String} {e : Occurrence Fs ℕ} {φ ψ : Phase} (turns : Turns auth_req_id e φ ψ)
    (listed : e ∈ c.trace) : φ.Next ψ ∧ ψ.Leads (phase c auth_req_id) := by
  obtain ⟨b, b', before, step, trace, does, after⟩ := (Pool.performed run listed).resolve_left List.not_mem_nil
  obtain ⟨-, rfl, next⟩ := turned empty turns before step trace does
  exact ⟨next, run_leads empty (before.tail step) after auth_req_id⟩

/-- A request that was decided on stays so until it is gone. -/
theorem moved_phase {k : ℕ} {auth_req_id : String} {status : CibaStatus} (moved : Moved c.trace k auth_req_id status) :
    phase c auth_req_id = .of_status status ∨ phase c auth_req_id = .gone := by
  obtain ⟨f, ut, listed⟩ := moved
  obtain ⟨next, leads⟩ := turned_leads empty run (.decided k _ ut) listed
  have written := (decoded_request { BackchannelAuthRequest.from_fields auth_req_id f with status }).2
  rw [show (BackchannelAuthRequest.from_fields auth_req_id _).status = status from written] at next leads
  exact Phase.decided_leads (Phase.decided_of_next next) leads

/-- The acknowledged operations on a request follow each other along its life. -/
theorem turns_in_order (auth_req_id : String) : c.trace.Pairwise fun later earlier => ∀ φ ψ φ' ψ',
    Turns auth_req_id earlier φ ψ → Turns auth_req_id later φ' ψ' → φ.Next ψ ∧ ψ.Leads φ' ∧ φ'.Next ψ' := by
  induction run with
  | refl => exact .nil
  | tail before step ih =>
    obtain ⟨-, did⟩ := (Service.run_honest before).step step
    cases did with
    | env changes trace threads => exact trace ▸ ih
    | act e k next allowed does trace threads =>
      rw [trace, List.pairwise_cons]
      refine ⟨fun earlier listed φ ψ φ' ψ' first last => ?_, ih⟩
      obtain ⟨next, leads⟩ := turned_leads empty before first listed
      obtain ⟨here, -, next'⟩ := turned empty last before step trace does
      exact ⟨next, here ▸ leads, next'⟩

/-- Of two acknowledged operations, the first is the approval and the second the
    redemption. -/
theorem approved_then_redeemed (auth_req_id : String) : c.trace.Pairwise fun later earlier => ∀ φ ψ φ' ψ',
    Turns auth_req_id earlier φ ψ → Turns auth_req_id later φ' ψ' →
      φ = .pending ∧ ψ = .approved ∧ φ' = .approved ∧ ψ' = .gone := by
  refine (turns_in_order empty run auth_req_id).imp fun order φ ψ φ' ψ' first last => ?_
  obtain ⟨next, leads, next'⟩ := order φ ψ φ' ψ' first last
  cases first with
  | decided k f ut =>
    have further := Phase.decided_leads (Phase.decided_of_next next) leads
    cases last with
    | decided k' f' ut' =>
      rcases further with same | wrong
      · rw [← same] at next
        cases next
      · cases wrong
    | redeemed i ut' => exact ⟨rfl, (further.resolve_right (by simp)).symm, rfl, rfl⟩
  | redeemed i ut =>
    have gone := Phase.gone_leads leads
    cases last <;> cases gone

/-- A decision against a request and its redemption do not go together. -/
theorem denied_or_redeemed {i j : ℕ} {auth_req_id : String} {f : Fields} {ut ut' : Nat}
    (denied : (BackchannelAuthRequest.from_fields auth_req_id f).status = .Denied)
    (decided : ⟨j, .set_doc_if_unchanged .cibaRequests auth_req_id f ut, .ok true⟩ ∈ c.trace)
    (redeemed : ⟨i, .delete_doc_if_unchanged .cibaRequests auth_req_id ut', .ok true⟩ ∈ c.trace) : False := by
  have decision : Turns auth_req_id _ .pending _ := .decided j f ut
  have redemption : Turns auth_req_id _ .approved .gone := .redeemed i ut'
  rw [denied] at decision
  have order := approved_then_redeemed empty run auth_req_id
  obtain ⟨above, below, cut⟩ := List.append_of_mem decided
  rw [cut, List.pairwise_append, List.pairwise_cons] at order
  obtain ⟨-, ⟨after, -⟩, between⟩ := order
  rw [cut] at redeemed
  rcases List.mem_append.mp redeemed with late | early
  · obtain ⟨-, wrong, -⟩ := between _ late _ List.mem_cons_self _ _ _ _ decision redemption
    cases wrong
  · have early := List.mem_of_ne_of_mem (by simp) early
    obtain ⟨wrong, -⟩ := after _ early _ _ _ _ redemption decision
    cases wrong

omit run in
/-- However clients and users interleave, a request moves along its life, and at
    most two operations on it are ever acknowledged: one decision, and a redemption
    if it was approved. -/
theorem settled_once {b : Pool Fs Db ℕ Response} (earlier : Run (pool p ent jwks requests db) b) (later : Run b c)
    (auth_req_id : String) : (phase b auth_req_id).Leads (phase c auth_req_id) ∧
      c.trace.Pairwise fun later earlier => ∀ φ ψ φ' ψ', Turns auth_req_id earlier φ ψ → Turns auth_req_id later φ' ψ' →
        φ = .pending ∧ ψ = .approved ∧ φ' = .approved ∧ ψ' = .gone :=
  ⟨run_leads empty earlier later auth_req_id, approved_then_redeemed empty (earlier.trans later) auth_req_id⟩

omit empty run in
theorem settled_once_consented : (phase consentPool approvedId).Leads (phase consentEnd approvedId) ∧
    consentEnd.trace.Pairwise fun later earlier => ∀ φ ψ φ' ψ', Turns approvedId earlier φ ψ → Turns approvedId later φ' ψ' →
      φ = .pending ∧ ψ = .approved ∧ φ' = .approved ∧ ψ' = .gone :=
  settled_once consentDb_empty .refl consentEnd_run approvedId

end runs

end RustOp.Web.CibaFlow
