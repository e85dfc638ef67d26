import RustOp.Firestore.CibaAnswers
import RustOp.Web.Backchannel
import RustOp.Web.SignedIn

/-!
What the requests of the backchannel flow have seen: who asked and for whom when a
request is stored, who signed when it is approved, and what was consumed when its
tokens are answered.
-/
namespace RustOp.Web
open RustOp.Effects RustOp.Text RustOp.Firestore registration

/-! ### Evidence -/

/-- Where the parameters of a backchannel request come from: the form, or a request
    object that a registered key of the client signed. -/
inductive ParametersOf (p : Server) (past : Past Host) (client : Client) (form : Form) : Form → Prop where
  | form (absent : form.get "request" = none) (unsigned : client.token_endpoint_auth_method ≠ "private_key_jwt") :
      ParametersOf p past client form form
  | request_object (jwt : String) (params : Form) (sent : form.get "request" = some jwt)
      (verified : (request_object.verify p client jwt).Gave (.ok params) past) : ParametersOf p past client form params

/-- An authenticated client has asked for an account with a passkey that is not
    frozen. -/
structure Requested (p : Site) (headers : Headers) (form : Form) (past : Past Host) (client : Client) (account_id : String)
    (terms : backchannel.Terms) : Prop where
  authenticated : (authenticate_client p.toServer headers form).Gave (.ok client) past
  allowed : client.allows_grant CIBA_GRANT = true
  parameters : ∃ params, ParametersOf p.toServer past client form params ∧ backchannel.terms p params = .ok terms
  known : ∃ cred, (firestore (get_credential terms.login_hint)).Gave (.ok (some cred)) past ∧ cred.account_id = account_id ∧
    account_id ≠ "" ∧ cred.disabled = false

/-- The passkey of the account that a request is for has signed a challenge which
    was issued for this request and is consumed now; the user was verified. -/
structure Approves (p : Site) (auth_req_id : String) (shown : AuthVerifyReq) (past : Past Host) (r : BackchannelAuthRequest)
    (challenge : String) (t : Ceremony) (cred : registration.Credential) : Prop where
  named : webauthn.extract_challenge p shown.client_data_json = some challenge
  consumed : (firestore (consume_webauthn_challenge challenge)).Gave (.ok (some t)) past
  issued : t.kind = .CibaApprove ∧ t.uid = auth_req_id
  credential : (firestore (get_credential t.email)).Gave (.ok (some cred)) past
  request : ⟨.backend (.ciba (.get auth_req_id)), .ok (some r)⟩ ∈ past
  account : r.account = cred.account_id ∧ cred.account_id ≠ ""
  in_time : ∃ time, ⟨.backend .now, time⟩ ∈ past ∧ r.expired time = false
  signed : cred.credential_id = shown.id ∧
    ∃ n, webauthn.verify_authentication p shown challenge cred.pub_x cred.pub_y cred.sign_count true = .ok n
  enabled : cred.disabled = false

/-- A request was read before it was rejected, and had not expired. -/
def Rejects (auth_req_id : String) (past : Past Host) (req : Option BackchannelAuthRequest) : Prop :=
  ∀ r, req = some r → ⟨.backend (.ciba (.get auth_req_id)), .ok (some r)⟩ ∈ past ∧
    ∃ time, ⟨.backend .now, time⟩ ∈ past ∧ r.expired time = false

/-- A client that authenticated has polled in time and consumed an approved request. -/
structure Consumed (p : Server) (headers : Headers) (form : Form) (past : Past Host) (client : Client) (jkt : Option String)
    (auth_req_id : String) (r : BackchannelAuthRequest) : Prop where
  authenticated : (authenticate_client p headers form).Gave (.ok client) past
  key : (token_jkt p client headers).Gave (.ok jkt) past
  sent : form.get "auth_req_id" = some auth_req_id
  polled : ∃ was time, ⟨.backend (.ciba (.get auth_req_id)), .ok (some was)⟩ ∈ past ∧ was.client_id = client.client_id ∧
    ⟨.backend .now, time⟩ ∈ past ∧ was.expired time = false
  consumed : ⟨.backend (.ciba (.consume_if_approved auth_req_id)), .ok (some r)⟩ ∈ past

/-- The tokens that an approved request stands for. -/
structure ConsentTokens (p : Provider) (uuid : Draw → String) (past : Past Host) (client : Client) (r : BackchannelAuthRequest)
    (jkt : Option String) (resp : TokenResponse) : Prop where
  access_token : ∃ u, ⟨.backend (.store (.save_access_token
    { token := resp.access_token, client_id := client.client_id, account_id := r.account, scope := r.scope, jkt,
      aud := none, acr := none, auth_time := none, authorization_details := r.authorization_details,
      mandate_consumed := false })), u⟩ ∈ past
  drawn : resp.access_token = uuid .access_token
  scope : resp.scope = r.scope
  details : resp.authorization_details = r.authorization_details.bind p.from_str
  id_token : ∃ t, resp.id_token = some t ∧ t.sub = r.account ∧ t.aud = client.client_id
  no_refresh : resp.refresh_token = none

section grows
variable {p : Site} {past now : Past Host} (extends_ : past <:+ now)
include extends_

theorem ParametersOf.later {client : Client} {form params : Form} (of : ParametersOf p.toServer past client form params) :
    ParametersOf p.toServer now client form params := by
  cases of with
  | form absent unsigned => exact .form absent unsigned
  | request_object jwt params sent verified => exact .request_object jwt params sent (verified.later extends_)

theorem Approves.later {auth_req_id challenge : String} {shown : AuthVerifyReq} {r : BackchannelAuthRequest} {t : Ceremony}
    {cred : registration.Credential} (approves : Approves p auth_req_id shown past r challenge t cred) :
    Approves p auth_req_id shown now r challenge t cred := by
  obtain ⟨named, consumed, issued, credential, request, account, ⟨time, clock, fresh⟩, signed, enabled⟩ := approves
  exact ⟨named, consumed.later extends_, issued, credential.later extends_, extends_.subset request, account,
    ⟨time, extends_.subset clock, fresh⟩, signed, enabled⟩

end grows

/-! ### What the requests may do -/

/-- Operations that leave requests and outcomes as they are. -/
def CibaFree : HostOp → Prop
  | .backend (.ciba (.get _)) => True
  | .backend (.ciba (.list_pending _)) => True
  | .backend (.ciba (.list_history ..)) => True
  | .backend (.store (.get_access_token _)) => True
  | .backend .now => True
  | .firestore o => ∀ key, o.writes = some key → ¬CibaCol key.1
  | .claim .. => True
  | .resolve_jwk .. => True
  | _ => False

/-- Asking may store the request that was asked for. -/
def BackchannelSaves (uuid : Draw → String) (p : Site) (headers : Headers) (form : Form) (past : Past Host) (o : HostOp) : Prop :=
  CibaFree o ∨ ∃ client account_id terms, o = .backend (.ciba (.create (uuid .auth_req_id) client.client_id account_id
      terms.scope terms.binding_message terms.authorization_details)) ∧ Requested p headers form past client account_id terms

/-- A handler that settles a request may move it once it is justified, and note the
    outcome after it has. -/
def Settles (auth_req_id : String) (status : CibaStatus) (outcome : String)
    (justified : Past Host → Option BackchannelAuthRequest → Prop) (past : Past Host) (o : HostOp) : Prop :=
  CibaFree o ∨ (o = .backend (.ciba (.transition_if_pending auth_req_id status)) ∧ ∃ req, justified past req) ∨
    ∃ r time, o = .backend (.ciba (.record_history (.from_request r outcome time))) ∧ justified past (some r) ∧
      ⟨.backend (.ciba (.transition_if_pending auth_req_id status)), .ok true⟩ ∈ past

/-- Somebody has approved the request. -/
def Approved (p : Site) (auth_req_id : String) (shown : AuthVerifyReq) (past : Past Host) (req : Option BackchannelAuthRequest) :
    Prop :=
  ∃ r challenge t cred, req = some r ∧ Approves p auth_req_id shown past r challenge t cred

/-- Showing requests or outcomes may sweep. -/
def ListSaves (o : HostOp) : Prop := CibaFree o ∨ ∃ account, o = .backend (.ciba (.sweep_expired account))

/-! ### Asking -/

section asking
variable {p : Site} {past : Past Host} {J : Past Host → HostOp → Prop} (free : ∀ past o, CibaFree o → J past o)
include free

theorem parameters_justified (client : Client) (form : Form) :
    (backchannel.parameters p.toServer client form).Justified J
      (fun later r => ∀ params, r = .ok params → ParametersOf p.toServer later client form params) past := by
  unfold backchannel.parameters
  split
  · rename_i jwt sent
    have verify := Prog.Justified.of_uses (J := J) free (request_object_verify_uses (p := p.toServer) trivial (fun _ _ => trivial) client jwt) past
    refine verify.gave.mono ?_
    rintro later r - ⟨-, verified⟩ params rfl
    exact .request_object jwt params sent verified
  · rename_i absent
    split
    · exact .ret fun params same => by cases same
    · rename_i unsigned
      refine .ret fun params same => ?_
      cases same
      exact .form absent (by simpa using unsigned)

theorem backchannel_account_justified (login_hint : String) :
    (backchannel_account login_hint).Justified J
      (fun later r => ∀ account_id, r = .ok account_id → ∃ cred,
        (firestore (get_credential login_hint)).Gave (.ok (some cred)) later ∧ cred.account_id = account_id ∧
        account_id ≠ "" ∧ cred.disabled = false) past := by
  have reads : ∀ o : FsOp, o.writes = none → CibaFree (.firestore o) := fun o none key some_ => by rw [none] at some_; cases some_
  unfold backchannel_account
  refine ((Prog.Justified.of_uses free (firestore_uses (get_credential_uses reads login_hint)) past).gave).bind
    fun later r _ read => ?_
  rcases r with e | _ | cred
  · exact .ret fun _ same => by cases same
  · exact .ret fun _ same => by cases same
  · dsimp only
    split
    · rename_i usable
      refine .ret fun account_id same => ?_
      cases same
      simp only [Bool.and_eq_true, Bool.not_eq_true', String.isEmpty_eq_false_iff] at usable
      exact ⟨cred, read.2, rfl, usable.1, usable.2⟩
    · exact .ret fun _ same => by cases same

end asking

section handlers
variable {p : Site} (uuid : Draw → String)

private theorem reads_requests (o : FsOp) (none : o.writes = none) : CibaFree (.firestore o) := fun key some_ => by
  rw [none] at some_
  cases some_

/-- What is stored was asked for. -/
theorem backchannel_auth_justified (admitted : Bool) (headers : Headers) (form : Form) :
    (backchannel_auth p uuid admitted headers form).Justified (BackchannelSaves uuid p headers form) (fun _ _ => True) [] := by
  have free : ∀ past o, CibaFree o → BackchannelSaves uuid p headers form past o := fun _ _ => .inl
  have reads : ∀ col id, CibaFree (.firestore (.get_doc col id)) := fun _ _ => reads_requests _ rfl
  unfold backchannel_auth
  split
  · exact .ret trivial
  · refine ((Prog.Justified.of_uses free (authenticate_client_uses reads (fun _ _ => trivial) trivial (fun _ _ => trivial)
      p.toServer headers form) []).gave).bind fun past₁ client _ authenticated => ?_
    cases client with
    | error e => exact .ret trivial
    | ok client =>
      dsimp only
      split
      · exact .ret trivial
      · rename_i allowed
        refine (parameters_justified free client form).bind fun past₂ params grown₂ of => ?_
        cases params with
        | error e => exact .ret trivial
        | ok params =>
          dsimp only
          split
          · exact .ret trivial
          · rename_i terms read
            refine (backchannel_account_justified free terms.login_hint).bind fun past₃ account grown₃ known => ?_
            cases account with
            | error r => exact .ret trivial
            | ok account_id =>
              have requested : ∀ now, past₃ <:+ now → Requested p headers form now client account_id terms := fun now grown => by
                obtain ⟨cred, read_, account, named, enabled⟩ := known account_id rfl
                exact ⟨authenticated.2.later (grown₂.trans (grown₃.trans grown)), by simpa using allowed,
                  ⟨params, (of params rfl).later (grown₃.trans grown), read⟩, cred, read_.later grown, account, named, enabled⟩
              unfold backchannel.create
              refine .call (free _ _ trivial) fun pending => ?_
              cases pending with
              | error e => exact .ret trivial
              | ok pending =>
                dsimp only [Prog.bind]
                split
                · exact .call (free _ _ trivial) fun _ => .ret trivial
                · split
                  · exact .ret trivial
                  · refine .call (.inr ⟨client, account_id, terms, rfl, requested _ (List.suffix_cons _ _)⟩) fun r => ?_
                    cases r with
                    | error e => exact .ret trivial
                    | ok id => exact .call (free _ _ (reads _ _)) fun _ => .ret trivial

theorem ciba_approve_options_uses (auth_req_id : String) : (ciba_approve_options p uuid auth_req_id).Uses CibaFree := by
  unfold ciba_approve_options
  split
  · trivial
  · refine ⟨trivial, fun r => ?_⟩
    rcases r with e | _ | r
    · trivial
    · trivial
    · refine ⟨trivial, fun t => ?_⟩
      dsimp only [Prog.bind]
      split
      · trivial
      · refine (firestore_uses (find_email_by_account_id_uses reads_requests _)).bind fun r => ?_
        rcases r with e | _ | email
        · trivial
        · trivial
        · refine (firestore_uses (get_credential_uses reads_requests _)).bind fun r => ?_
          rcases r with e | _ | cred
          · trivial
          · trivial
          · have writes : ∀ f, CibaFree (.firestore (.set_doc .webauthnChallenges (uuid .challenge) f)) := by
              rintro f key same
              cases same
              exact id
            refine (firestore_uses (create_webauthn_challenge_uses reads_requests writes _)).bind fun r => ?_
            cases r <;> trivial

/-! ### Settling -/

/-- The outcome is noted by whoever moved the request. -/
theorem resolve_pending_justified {auth_req_id : String} {status : CibaStatus} {outcome : String} {done : Response}
    {justified : Past Host → Option BackchannelAuthRequest → Prop} {past : Past Host} {req : Option BackchannelAuthRequest}
    (holds : ∀ now, past <:+ now → justified now req) (other : ∀ code text, 400 ≤ code → done ≠ .text code text) :
    (resolve_pending auth_req_id status outcome req done).Justified (Settles auth_req_id status outcome justified)
      (fun later r => r = done → justified later req ∧
        ⟨.backend (.ciba (.transition_if_pending auth_req_id status)), .ok true⟩ ∈ later) past := by
  unfold resolve_pending
  refine .call (.inr (.inl ⟨rfl, req, holds _ (List.suffix_refl _)⟩)) fun moved => ?_
  have asked := List.suffix_cons (⟨.backend (.ciba (.transition_if_pending auth_req_id status)), moved⟩ : (o : HostOp) × o.Res) past
  rcases moved with e | _ | _
  · exact .ret fun same => absurd same.symm (other 500 _ (by decide))
  · exact .ret fun same => absurd same.symm (other 409 _ (by decide))
  · cases req with
    | none => exact .ret fun _ => ⟨holds _ asked, List.mem_cons_self⟩
    | some r =>
      refine .call (.inl trivial) fun time => ?_
      have read := List.suffix_cons (⟨.backend .now, time⟩ : (o : HostOp) × o.Res)
        (⟨.backend (.ciba (.transition_if_pending auth_req_id status)), .ok true⟩ :: past)
      refine .call (.inr (.inr ⟨r, time, rfl, holds _ (asked.trans read), List.mem_cons_of_mem _ List.mem_cons_self⟩)) fun _ => ?_
      exact .ret fun _ => ⟨holds _ ((asked.trans read).trans (List.suffix_cons _ _)), by simp⟩

private theorem approver_justified {J : Past Host → HostOp → Prop} (free : ∀ past o, CibaFree o → J past o) {past : Past Host}
    (email : String) : (approver email).Justified J (fun later r => ∀ cred, r = some cred →
      (firestore (get_credential email)).Gave (.ok (some cred)) later ∧ cred.account_id ≠ "") past := by
  unfold approver
  refine ((Prog.Justified.of_uses free (firestore_uses (get_credential_uses reads_requests email)) past).gave).bind
    fun later r _ read => ?_
  rcases r with e | _ | cred
  · exact .ret fun _ same => by cases same
  · exact .ret fun _ same => by cases same
  · refine .ret fun cred' same => ?_
    split at same
    · cases same
    · rename_i account
      cases same
      exact ⟨read.2, by simpa using account⟩

private theorem approvable_justified {J : Past Host → HostOp → Prop} (free : ∀ past o, CibaFree o → J past o) {past : Past Host}
    (auth_req_id account : String) : (approvable auth_req_id account).Justified J (fun later req => ∀ r, req = some r →
      ⟨.backend (.ciba (.get auth_req_id)), .ok (some r)⟩ ∈ later ∧ r.account = account ∧
      ∃ time, ⟨.backend .now, time⟩ ∈ later ∧ r.expired time = false) past := by
  unfold approvable
  refine .call (free _ _ trivial) fun answer => ?_
  rcases answer with e | _ | r
  · exact .ret fun _ same => by cases same
  · exact .ret fun _ same => by cases same
  · dsimp only [Prog.bind]
    split
    · exact .ret fun _ same => by cases same
    · rename_i own
      refine .call (free _ _ trivial) fun time => ?_
      dsimp only [Prog.bind]
      split
      · exact .ret fun _ same => by cases same
      · rename_i fresh
        refine .ret fun r' same => ?_
        cases same
        exact ⟨by simp, not_not.mp own, time, by simp, by simpa using fresh⟩

theorem ciba_approve_justified (auth_req_id : String) (shown : AuthVerifyReq) :
    (ciba_approve p auth_req_id shown).Justified (Settles auth_req_id .Approved "approved" (Approved p auth_req_id shown))
      (fun later r => r = .json 200 (.obj [("ok", .bool true)]) →
        (∃ req, Approved p auth_req_id shown later req) ∧
          ⟨.backend (.ciba (.transition_if_pending auth_req_id .Approved)), .ok true⟩ ∈ later) [] := by
  have free : ∀ past o, CibaFree o → Settles auth_req_id .Approved "approved" (Approved p auth_req_id shown) past o :=
    fun _ _ => .inl
  unfold ciba_approve
  split
  · exact .ret fun same => by cases same
  · split
    · rename_i challenge named
      have deletes : CibaFree (.firestore (.delete_doc .webauthnChallenges challenge)) := by
        rintro key same
        cases same
        exact id
      refine ((Prog.Justified.of_uses free (firestore_uses (consume_webauthn_challenge_uses reads_requests deletes)) []).gave).bind
        fun past₁ r _ consumed => ?_
      rcases r with e | _ | t
      · exact .ret fun same => by cases same
      · exact .ret fun same => by cases same
      · dsimp only
        split
        · exact .ret fun same => by cases same
        · rename_i issued
          unfold approve_as
          refine (approver_justified free t.email).bind fun past₂ r grown₂ found => ?_
          cases r with
          | none => exact .ret fun same => by cases same
          | some cred =>
            refine (approvable_justified free auth_req_id cred.account_id).bind fun past₃ req grown₃ got => ?_
            cases req with
            | none => exact .ret fun same => by cases same
            | some r =>
              dsimp only
              split
              · exact .ret fun same => by cases same
              · rename_i signer
                split
                · exact .ret fun same => by cases same
                · rename_i n verified
                  have writes : (update_sign_count t.email n).Uses fun o => CibaFree (.firestore o) := by
                    refine ⟨?_, fun _ => trivial⟩
                    rintro key same
                    cases same
                    exact id
                  refine (Prog.Justified.of_uses free (firestore_uses writes) past₃).bind fun past₄ _ grown₄ _ => ?_
                  split
                  · exact .ret fun same => by cases same
                  · rename_i enabled
                    obtain ⟨credential, account⟩ := found cred rfl
                    obtain ⟨read, own, time, clock, fresh⟩ := got r rfl
                    have approves : Approves p auth_req_id shown past₄ r challenge t cred :=
                      ⟨named, consumed.2.later (grown₂.trans (grown₃.trans grown₄)), by simpa only [not_or, not_not] using issued,
                        credential.later (grown₃.trans grown₄), grown₄.subset read, ⟨own, account⟩,
                        ⟨time, grown₄.subset clock, fresh⟩, ⟨not_not.mp signer, n, verified⟩, by simpa using enabled⟩
                    refine (resolve_pending_justified (fun now grown => ⟨r, challenge, t, cred, rfl, approves.later grown⟩)
                      fun code text _ same => by cases same).mono ?_
                    intro later answer _ settled done
                    exact ⟨⟨_, (settled done).1⟩, (settled done).2⟩
    · exact .ret fun same => by cases same

theorem Rejects.later {auth_req_id : String} {past now : Past Host} {req : Option BackchannelAuthRequest}
    (rejects : Rejects auth_req_id past req) (extends_ : past <:+ now) : Rejects auth_req_id now req := by
  intro r same
  obtain ⟨read, time, clock, fresh⟩ := rejects r same
  exact ⟨extends_.subset read, time, extends_.subset clock, fresh⟩

theorem ciba_reject_justified (auth_req_id : String) :
    (ciba_reject auth_req_id).Justified (Settles auth_req_id .Denied "denied" (Rejects auth_req_id))
      (fun later r => r = .text 204 "" → ⟨.backend (.ciba (.transition_if_pending auth_req_id .Denied)), .ok true⟩ ∈ later) [] := by
  have final : ∀ {past : Past Host} {req : Option BackchannelAuthRequest}, Rejects auth_req_id past req →
      (resolve_pending auth_req_id .Denied "denied" req (.text 204 "")).Justified
        (Settles auth_req_id .Denied "denied" (Rejects auth_req_id))
        (fun later r => r = .text 204 "" → ⟨.backend (.ciba (.transition_if_pending auth_req_id .Denied)), .ok true⟩ ∈ later) past := by
    intro past req rejects
    refine (resolve_pending_justified (fun now grown => rejects.later grown) ?_).mono fun _ _ _ settled done => (settled done).2
    rintro code text failed same
    cases same
    exact absurd failed (by decide)
  have none_ : ∀ past : Past Host, Rejects auth_req_id past none := fun _ _ same => by cases same
  unfold ciba_reject
  refine .call (.inl trivial) fun answer => ?_
  rcases answer with e | _ | r
  · exact final (none_ _)
  · exact final (none_ _)
  · refine .call (.inl trivial) fun time => ?_
    dsimp only [Prog.bind]
    split
    · exact .ret fun same => by cases same
    · rename_i fresh
      refine final fun r' same => ?_
      cases same
      exact ⟨by simp, time, by simp, by simpa using fresh⟩

/-! ### Showing -/

/-- What is shown waits for the owner of the access token. -/
theorem ciba_pending_list_justified (headers : Headers) :
    (ciba_pending_list p.toServer headers).Justified (fun _ => ListSaves) (fun later r => ∀ entries, r = .json 200 (.arr entries) →
      ∃ at_ rs, (authenticate_token p.toServer headers "GET" "/ciba/pending" none).Gave (.ok at_) later ∧
        entries = rs.map (shown_request p.toProvider) ∧
        (rs ≠ [] → ⟨.backend (.ciba (.list_pending at_.account_id)), .ok rs⟩ ∈ later)) [] := by
  have token : (authenticate_token p.toServer headers "GET" "/ciba/pending" none).Justified (fun _ => ListSaves) _ [] :=
    authenticate_token_justified (fun _ _ => .inl) (fun _ => trivial) trivial (fun _ _ => trivial) _ _ _ _
  refine token.gave.bind fun past r _ got => ?_
  cases r with
  | error answer =>
    refine .ret fun entries same => ?_
    obtain ⟨text, rfl⟩ := got.1 answer rfl
    cases same
  | ok at_ =>
    refine .call (.inr ⟨_, rfl⟩) fun swept => .call (.inl trivial) fun listed => .ret fun entries same => ?_
    cases same
    refine ⟨at_, listed.toOption.getD [], got.2.later ⟨[_, _], rfl⟩, rfl, fun some_ => ?_⟩
    cases listed with
    | error e => exact absurd rfl some_
    | ok rs => exact List.mem_cons_self

/-- What is shown was listed for the owner of the access token. -/
theorem ciba_history_justified (headers : Headers) :
    (ciba_history p.toServer headers).Justified (fun _ => ListSaves) (fun later r => ∀ entries, r = .json 200 (.arr entries) →
      ∃ at_ es, (authenticate_token p.toServer headers "GET" "/ciba/history" none).Gave (.ok at_) later ∧
        entries = es.map (shown_entry p.toProvider) ∧
        (es ≠ [] → ⟨.backend (.ciba (.list_history at_.account_id 50)), .ok es⟩ ∈ later)) [] := by
  have token : (authenticate_token p.toServer headers "GET" "/ciba/history" none).Justified (fun _ => ListSaves) _ [] :=
    authenticate_token_justified (fun _ _ => .inl) (fun _ => trivial) trivial (fun _ _ => trivial) _ _ _ _
  refine token.gave.bind fun past r _ got => ?_
  cases r with
  | error answer =>
    refine .ret fun entries same => ?_
    obtain ⟨text, rfl⟩ := got.1 answer rfl
    cases same
  | ok at_ =>
    refine .call (.inr ⟨_, rfl⟩) fun swept => .call (.inl trivial) fun listed => .ret fun entries same => ?_
    cases same
    refine ⟨at_, listed.toOption.getD [], got.2.later ⟨[_, _], rfl⟩, rfl, fun some_ => ?_⟩
    cases listed with
    | error e => exact absurd rfl some_
    | ok es => exact List.mem_cons_self

/-! ### Polling -/

private theorem ciba_grant_justified {headers : Headers} {form : Form} {client : Client} {jkt : Option String} {past : Past Host}
    (authenticated : (authenticate_client p.toServer headers form).Gave (.ok client) past)
    (key : (token_jkt p.toServer client headers).Gave (.ok jkt) past) :
    (backend (CibaGrant.handle p.toProvider uuid client form jkt)).Justified (fun _ o => TokenFree o)
      (fun later r => ∀ resp, r = .ok resp → ∃ auth_req_id r, Consumed p.toServer headers form later client jkt auth_req_id r ∧
        ConsentTokens p.toProvider uuid later client r jkt resp) past := by
  have refused : ∀ (later : Past Host) (e : OAuthError) (resp : TokenResponse),
      (Except.error e : Except OAuthError TokenResponse) = .ok resp →
        ∃ auth_req_id r, Consumed p.toServer headers form later client jkt auth_req_id r ∧
          ConsentTokens p.toProvider uuid later client r jkt resp :=
    fun _ _ _ same => by cases same
  unfold backend CibaGrant.handle
  cases sent : form.get "auth_req_id" with
  | none => exact .ret (refused _ _)
  | some auth_req_id =>
    refine .call trivial fun answer => ?_
    rcases answer with e | _ | was
    · exact .ret (refused _ _)
    · exact .ret (refused _ _)
    · dsimp only [Prog.bind]
      split
      · exact .ret (refused _ _)
      · rename_i own
        refine .call trivial fun time => ?_
        dsimp only [Prog.bind]
        split
        · exact .call trivial fun _ => .ret (refused _ _)
        · rename_i fresh
          split
          · exact .ret (refused _ _)
          · exact .call trivial fun _ => .ret (refused _ _)
          · refine .call trivial fun answer => ?_
            rcases answer with e | _ | r
            · exact .ret (refused _ _)
            · exact .ret (refused _ _)
            · refine .call trivial fun u => .call trivial fun iat => ?_
              dsimp only [Prog.bind]
              cases alg : p.signer_for client.id_token_signed_response_alg with
              | error e => exact .ret (refused _ _)
              | ok signer =>
                refine .ret fun resp same => ?_
                cases same
                have grown : past <:+ ⟨HostOp.backend .now, iat⟩ :: ⟨.backend (.store (.save_access_token
                    { token := uuid .access_token, client_id := client.client_id, account_id := r.account, scope := r.scope,
                      jkt, aud := none, acr := none, auth_time := none, authorization_details := r.authorization_details,
                      mandate_consumed := false })), u⟩ ::
                    ⟨.backend (.ciba (.consume_if_approved auth_req_id)), .ok (some r)⟩ :: ⟨.backend .now, time⟩ ::
                    ⟨.backend (.ciba (.get auth_req_id)), .ok (some was)⟩ :: past :=
                  ⟨[_, _, _, _, _], rfl⟩
                refine ⟨auth_req_id, r, ⟨authenticated.later grown, key.later grown, sent,
                  ⟨was, time, by simp, not_not.mp own, by simp, by simpa using fresh⟩, by simp⟩,
                  ⟨u, by simp⟩, rfl, rfl, rfl, ⟨_, rfl, rfl, rfl⟩, rfl⟩

/-- Tokens for a backchannel request are the tokens of a request that was consumed. -/
theorem ciba_token_justified (headers : Headers) (form : Form) (grant : form.get "grant_type" = some CIBA_GRANT) :
    (token p.toServer uuid headers form).Justified (fun _ o => TokenFree o)
      (fun later r => ∀ resp, r = .token resp → ∃ client jkt auth_req_id r,
        Consumed p.toServer headers form later client jkt auth_req_id r ∧
        ConsentTokens p.toProvider uuid later client r jkt resp) [] := by
  have found : (form.get "grant_type").bind find_grant = some .ciba := by
    rw [grant]
    decide
  refine token_grant_justified uuid found fun past client jkt authenticated key => ?_
  refine (ciba_grant_justified uuid authenticated key).mono fun later r _ issued resp same => ?_
  obtain ⟨auth_req_id, r, consumed, tokens⟩ := issued resp same
  exact ⟨client, jkt, auth_req_id, r, consumed, tokens⟩

end handlers

end RustOp.Web
