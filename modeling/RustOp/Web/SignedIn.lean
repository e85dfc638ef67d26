import RustOp.Web.Login
import RustOp.Web.Token
import RustOp.Web.Vetted

/-!
What a login has seen when it completes a waiting request and opens a session, and
what a token request has seen when it answers with the tokens of a code.
-/
namespace RustOp.Web
open RustOp.Effects RustOp.Text registration

/-! ### Logins -/

/-- The passkey of an account that is not frozen has signed a challenge which was
    issued for this request and is consumed now. -/
structure SignedIn (p : Site) (uid : String) (shown : AuthVerifyReq) (past : Past Host) (account_id challenge email : String)
    (t : Ceremony) (cred : registration.Credential) : Prop where
  named : webauthn.extract_challenge p shown.client_data_json = some challenge
  consumed : (firestore (consume_webauthn_challenge challenge)).Gave (.ok (some t)) past
  issued : t.kind = .Auth ∧ t.uid = uid
  credential : (firestore (get_credential email)).Gave (.ok (some cred)) past
  signed : cred.credential_id = shown.id ∧
    ∃ n, webauthn.verify_authentication p shown challenge cred.pub_x cred.pub_y cred.sign_count false = .ok n
  enabled : cred.disabled = false
  account : cred.account_id = account_id ∧ account_id ≠ ""

/-- Somebody has signed in to a request, at a time that was read then. -/
structure Login (p : Site) (uid : String) (shown : AuthVerifyReq) (past : Past Host) (i : Interaction) (account_id : String)
    (auth_time : Nat) : Prop where
  signed_in : ∃ challenge email t cred, SignedIn p uid shown past account_id challenge email t cred
  interaction : ⟨.backend (.store (.get_interaction uid)), some i⟩ ∈ past
  clock : ⟨.backend .now, auth_time⟩ ∈ past

theorem SignedIn.later {p : Site} {uid account_id challenge email : String} {shown : AuthVerifyReq} {past now : Past Host}
    {t : Ceremony} {cred : registration.Credential} (signed_in : SignedIn p uid shown past account_id challenge email t cred)
    (extends_ : past <:+ now) : SignedIn p uid shown now account_id challenge email t cred :=
  ⟨signed_in.named, signed_in.consumed.later extends_, signed_in.issued, signed_in.credential.later extends_,
    signed_in.signed, signed_in.enabled, signed_in.account⟩

theorem Login.later {p : Site} {uid account_id : String} {shown : AuthVerifyReq} {past now : Past Host} {i : Interaction}
    {auth_time : Nat} (login : Login p uid shown past i account_id auth_time) (extends_ : past <:+ now) :
    Login p uid shown now i account_id auth_time := by
  obtain ⟨⟨challenge, email, t, cred, signed_in⟩, interaction, clock⟩ := login
  exact ⟨⟨challenge, email, t, cred, signed_in.later extends_⟩, extends_.subset interaction, extends_.subset clock⟩

/-- The other operations of a login. -/
def LoginFree : HostOp → Prop
  | .backend (.store (.get_interaction _)) => True
  | .backend .now => True
  | .firestore o => o.writes = none ∨ (∃ id, o = .delete_doc .webauthnChallenges id) ∨
      ∃ id field value, o = .update_field .accounts id field value
  | _ => False

/-- What a login may save: the waiting request with the account of whoever signed
    in, and then a session of this account. -/
def LoginSaves (p : Site) (uid : String) (shown : AuthVerifyReq) (past : Past Host) (o : HostOp) : Prop :=
  LoginFree o ∨
    (∃ i account_id auth_time, o = .backend (.store (.save_interaction
        { i with account_id := some account_id, auth_time := some auth_time })) ∧
      Login p uid shown past i account_id auth_time) ∨
    ∃ i s, o = .backend (.store (.save_session s)) ∧ Login p uid shown past i s.account_id s.auth_time

/-- A program over Firestore, as part of a request. -/
theorem firestore_uses {α : Type} {allowed : HostOp → Prop} {q : Prog Firestore.Fs α}
    (uses : q.Uses fun o => allowed (.firestore o)) : (firestore q).Uses allowed := by
  have each : ∀ o : Firestore.FsOp, allowed (.firestore o) → (Prog.call (HostOp.firestore o) Prog.ret : Prog Host o.Res).Uses allowed :=
    fun _ allows => ⟨allows, fun _ => trivial⟩
  exact Prog.Uses.lower each uses

section logins
variable {p : Site} {past : Past Host}

private theorem reads_free (o : Firestore.FsOp) (reads : o.writes = none) : LoginFree (.firestore o) := .inl reads

/-- An account is found under the subject that was asked for. -/
private theorem find_account_justified {J : Past Host → HostOp → Prop} (free : ∀ past o, LoginFree o → J past o) (sub : String) :
    (firestore (FirestoreStore.find_account sub)).Justified J (fun _ account => account.sub = sub) past := by
  unfold firestore FirestoreStore.find_account
  rw [Prog.lower_bind]
  refine (Prog.Justified.of_uses free (firestore_uses (get_profile_uses reads_free sub)) _).bind fun _ saved _ _ => ?_
  rw [Prog.lower_bind]
  refine (Prog.Justified.of_uses free (firestore_uses (find_email_by_account_id_uses reads_free sub)) _).bind fun _ r _ _ => ?_
  rcases r with e | _ | e <;> exact .ret rfl

private theorem finalize_login_justified (uuid : Draw → String) {uid : String} {shown : AuthVerifyReq} {i : Interaction}
    {account_id : String} (signed_in : ∃ challenge email t cred, SignedIn p uid shown past account_id challenge email t cred)
    (interaction : ⟨.backend (.store (.get_interaction uid)), some i⟩ ∈ past) :
    (finalize_login p.toServer uuid i account_id).Justified (LoginSaves p uid shown) (fun _ _ => True) past := by
  refine .call (.inl trivial) fun auth_time => ?_
  have login : Login p uid shown (⟨.backend .now, auth_time⟩ :: past) i account_id auth_time := by
    obtain ⟨challenge, email, t, cred, signed_in⟩ := signed_in
    exact ⟨⟨challenge, email, t, cred, signed_in.later (List.suffix_cons _ _)⟩, List.mem_cons_of_mem _ interaction,
      List.mem_cons_self⟩
  refine .call (.inr (.inl ⟨i, account_id, auth_time, rfl, login⟩)) fun _ => ?_
  exact .call (.inr (.inr ⟨i, _, rfl, login.later (List.suffix_cons _ _)⟩)) fun _ => .ret trivial

theorem login_as_justified (uuid : Draw → String) {uid challenge email : String} {shown : AuthVerifyReq} {t : Ceremony}
    (named : webauthn.extract_challenge p shown.client_data_json = some challenge)
    (consumed : (firestore (consume_webauthn_challenge challenge)).Gave (.ok (some t)) past) (issued : t.kind = .Auth ∧ t.uid = uid) :
    (login_as p uuid uid challenge email shown).Justified (LoginSaves p uid shown) (fun _ _ => True) past := by
  have free : ∀ past o, LoginFree o → LoginSaves p uid shown past o := fun _ _ => .inl
  unfold login_as
  refine ((Prog.Justified.of_uses free (firestore_uses (get_credential_uses reads_free email)) past).gave).bind
    fun past₁ r grown₁ read => ?_
  rcases r with e | _ | cred
  · exact .ret trivial
  · exact .ret trivial
  · dsimp only
    split
    · exact .ret trivial
    · rename_i same
      split
      · exact .ret trivial
      · rename_i n verified
        have writes : (update_sign_count email n).Uses fun o => LoginFree (.firestore o) :=
          ⟨.inr (.inr ⟨_, _, _, rfl⟩), fun _ => trivial⟩
        refine (Prog.Justified.of_uses free (firestore_uses writes) past₁).bind fun past₂ _ grown₂ _ => ?_
        split
        · exact .ret trivial
        · rename_i enabled
          split
          · exact .ret trivial
          · rename_i account
            refine .call (free _ _ trivial) fun i => ?_
            cases i with
            | none => exact .ret trivial
            | some i =>
              have signed_in : SignedIn p uid shown past₂ cred.account_id challenge email t cred :=
                ⟨named, consumed.later (grown₁.trans grown₂), issued, read.2.later grown₂, ⟨not_not.mp same, n, verified⟩,
                  by simpa using enabled, rfl, by simpa using account⟩
              refine (find_account_justified free cred.account_id).bind fun past₃ account grown₃ sub => ?_
              have grown : past₂ <:+ past₃ := (List.suffix_cons _ _).trans grown₃
              rw [sub]
              exact (finalize_login_justified uuid ⟨challenge, email, t, cred, signed_in.later grown⟩
                (grown₃.subset List.mem_cons_self)).bind fun _ _ _ _ => .ret trivial

/-- A login saves what somebody has signed in to. -/
theorem login_passkey_verify_justified (uuid : Draw → String) (uid : String) (shown : AuthVerifyReq) :
    (login_passkey_verify p uuid uid shown).Justified (LoginSaves p uid shown) (fun _ _ => True) [] := by
  have free : ∀ past o, LoginFree o → LoginSaves p uid shown past o := fun _ _ => .inl
  unfold login_passkey_verify
  split
  · exact .ret trivial
  · split
    · rename_i challenge named
      have deletes : (consume_webauthn_challenge challenge).Uses fun o => LoginFree (.firestore o) :=
        consume_webauthn_challenge_uses reads_free (.inr (.inl ⟨_, rfl⟩))
      refine ((Prog.Justified.of_uses free (firestore_uses deletes) []).gave).bind fun past₁ r _ consumed => ?_
      rcases r with e | _ | t
      · exact .ret trivial
      · exact .ret trivial
      · dsimp only
        split
        · exact .ret trivial
        · rename_i issued
          have asks : (login_email p shown t.email).Uses fun o => LoginFree (.firestore o) := by
            unfold login_email
            split
            · refine (find_email_by_account_id_uses reads_free _).bind fun r => ?_
              rcases r with e | _ | e <;> trivial
            · trivial
          refine (Prog.Justified.of_uses free (firestore_uses asks) past₁).bind fun past₂ email grown _ => ?_
          cases email with
          | none => exact .ret trivial
          | some email =>
            dsimp only
            split
            · exact .ret trivial
            · exact login_as_justified uuid named (consumed.2.later grown)
                (by simpa only [not_or, not_not] using issued)
    · exact .ret trivial

end logins

/-! ### Redemptions -/

/-- A code that was taken for an authenticated client, in time, by a request that
    shows what the code was bound to. -/
structure Redeemed (p : Server) (headers : Headers) (form : Form) (past : Past Host) (client : Client) (jkt : Option String)
    (code : String) (c : AuthorizationCode) : Prop where
  authenticated : (authenticate_client p headers form).Gave (.ok client) past
  key : (token_jkt p client headers).Gave (.ok jkt) past
  sent : form.get "code" = some code
  taken : ⟨.backend (.store (.take_code code)), some c⟩ ∈ past
  own : c.client_id = client.client_id
  in_time : ∃ t, ⟨.backend .now, t⟩ ∈ past ∧ t ≤ c.expires_at
  shown : check_redemption p.toProvider form jkt c = .ok ()

/-- The tokens that a code stands for. -/
structure TokensOf (uuid : Draw → String) (past : Past Host) (c : AuthorizationCode) (jkt : Option String) (resp : TokenResponse) :
    Prop where
  access_token : ∃ u, ⟨.backend (.store (.save_access_token
    { token := resp.access_token, client_id := c.client_id, account_id := c.account_id, scope := c.scope, jkt,
      aud := c.resource, acr := c.acr, auth_time := some c.auth_time, authorization_details := none,
      mandate_consumed := false })), u⟩ ∈ past
  drawn : resp.access_token = uuid .access_token
  scope : resp.scope = c.scope
  id_token : ∃ t, resp.id_token = some t ∧ t.sub = c.account_id ∧ t.aud = c.client_id ∧ t.nonce = c.nonce ∧
    t.auth_time = some c.auth_time ∧ t.acr = c.acr

/-- What a token request may do; what it saves are tokens. -/
def TokenFree : HostOp → Prop
  | .backend (.store (.take_code _)) => True
  | .backend (.store (.link_issued_tokens ..)) => True
  | .backend (.store (.save_access_token _)) => True
  | .backend (.store (.save_refresh_token _)) => True
  | .backend (.store (.get_refresh_token _)) => True
  | .backend (.store (.mark_refresh_used ..)) => True
  | .backend (.store (.revoke_refresh_family _)) => True
  | .backend (.ciba (.get _)) => True
  | .backend (.ciba (.delete _)) => True
  | .backend (.ciba (.consume_if_approved _)) => True
  | .backend .now => True
  | .firestore (.get_doc ..) => True
  | .claim .. => True
  | .resolve_jwk .. => True
  | _ => False

section tokens
variable {p : Server} {past : Past Host}

theorem dpop_verify_uses {allowed : HostOp → Prop} (clock : allowed (.backend .now)) (claims : ∀ key ttl, allowed (.claim .dpop key ttl))
    (proof htm htu : String) (expected_ath : Option String) : (Es256Dpop.verify p proof htm htu expected_ath).Uses allowed := by
  unfold Es256Dpop.verify
  split
  · trivial
  · split
    · trivial
    · refine ⟨clock, fun t => ?_⟩
      dsimp only [Prog.bind]
      split
      · trivial
      · refine ⟨claims _ _, fun won => ?_⟩
        cases won <;> trivial

theorem token_jkt_uses {allowed : HostOp → Prop} (clock : allowed (.backend .now)) (claims : ∀ key ttl, allowed (.claim .dpop key ttl))
    (client : Client) (headers : Headers) : (token_jkt p client headers).Uses allowed := by
  unfold token_jkt
  split
  · refine (dpop_verify_uses clock claims _ _ _ _).bind fun r => ?_
    cases r <;> trivial
  · split <;> trivial

/-- An access token that is presented is read, and its proof is verified; whoever
    has none is told so in text. -/
theorem authenticate_token_justified {J : Past Host → HostOp → Prop} {allowed : HostOp → Prop} (free : ∀ past o, allowed o → J past o)
    (reads : ∀ token, allowed (.backend (.store (.get_access_token token)))) (clock : allowed (.backend .now))
    (claims : ∀ key ttl, allowed (.claim .dpop key ttl)) (headers : Headers) (method path_suffix : String)
    (body_token : Option String) :
    (authenticate_token p headers method path_suffix body_token).Justified J
      (fun _ r => ∀ answer, r = .error answer → ∃ text, answer = .text 401 text) past := by
  have text : ∀ (text : String) (answer : Response), (Except.error (.text 401 text) : Except Response AccessToken) =
      .error answer → ∃ text, answer = .text 401 text := fun text answer same => by
    cases same
    exact ⟨text, rfl⟩
  unfold authenticate_token
  split
  · refine .call (free _ _ (reads _)) fun at_ => ?_
    cases at_ with
    | none => exact .ret (text _)
    | some at_ =>
      dsimp only [Prog.bind]
      split
      · exact .ret fun _ same => by cases same
      · have checked : ∀ (scheme token jkt : String) (now : Past Host), (check_proof p headers method path_suffix scheme token jkt).Justified J
            (fun _ r => ∀ answer, r = .error answer → ∃ text, answer = .text 401 text) now := by
          intro scheme token jkt now
          have refused : ∀ (text : String) (answer : Response), (Except.error (.text 401 text) : Except Response Unit) =
              .error answer → ∃ text, answer = .text 401 text := fun text answer same => by
            cases same
            exact ⟨text, rfl⟩
          unfold check_proof
          split
          · exact .ret (refused _)
          · split
            · exact .ret (refused _)
            · refine (Prog.Justified.of_uses free (dpop_verify_uses clock claims _ _ _ _) _).bind fun _ r _ _ => ?_
              cases r with
              | error e => exact .ret (refused _)
              | ok got =>
                dsimp only
                split
                · exact .ret fun _ same => by cases same
                · exact .ret (refused _)
        refine (checked _ _ _ _).bind fun _ r _ refused => ?_
        cases r with
        | error answer =>
          refine .ret fun answer' same => ?_
          cases same
          exact refused answer rfl
        | ok _ => exact .ret fun _ same => by cases same
  · exact .ret (text _)

/-- Operations of the stores, as part of a request. -/
theorem backend_uses {α : Type} {allowed : HostOp → Prop} {q : Prog Backend α} (uses : q.Uses fun o => allowed (.backend o)) :
    (backend q).Uses allowed := by
  have each : ∀ o : BackendOp, allowed (.backend o) → (Prog.call (HostOp.backend o) Prog.ret : Prog Host o.Res).Uses allowed :=
    fun _ allows => ⟨allows, fun _ => trivial⟩
  exact Prog.Uses.lower each uses

theorem grant_uses (g : Grant) (uuid : Draw → String) (client : Client) (form : Form) (jkt : Option String) :
    (backend (g.handle p.toProvider uuid client form jkt)).Uses TokenFree := by
  refine backend_uses ((Grant.handle_calls p.toProvider uuid client form jkt g).mono fun o calls => ?_)
  unfold Grant.Calls at calls
  split at calls <;> trivial

/-- The tokens of a code are saved, and then returned. -/
private theorem redeem_justified (uuid : Draw → String) (client : Client) (code : String) (jkt : Option String)
    (c : AuthorizationCode) (own : c.client_id = client.client_id) :
    (backend (redeem p.toProvider uuid client code jkt c)).Justified (fun _ o => TokenFree o)
      (fun later r => ∀ resp, r = .ok resp → TokensOf uuid later c jkt resp) past := by
  unfold backend redeem issue_access_and_id
  refine .call trivial fun u => .call trivial fun iat => ?_
  dsimp only [Prog.bind]
  cases alg : p.signer_for client.id_token_signed_response_alg with
  | error e => exact .ret fun resp same => by cases same
  | ok signer =>
    have refresh : (maybe_issue_refresh uuid client.client_id c.account_id c.scope c.resource c.acr (some c.auth_time) jkt
        client.is_public).Uses fun o => TokenFree (.backend o) := by
      unfold maybe_issue_refresh
      split
      · trivial
      · split
        · trivial
        · exact ⟨trivial, fun _ => trivial⟩
    have issued := Prog.Justified.of_uses (J := fun _ o => TokenFree o) (fun _ _ free => free) (backend_uses refresh)
      (⟨.backend .now, iat⟩ :: ⟨.backend (.store (.save_access_token
          { token := uuid .access_token, client_id := client.client_id, account_id := c.account_id, scope := c.scope,
            jkt, aud := c.resource, acr := c.acr, auth_time := some c.auth_time, authorization_details := none,
            mandate_consumed := false })), u⟩ :: past)
    show Prog.Justified _ _ (Prog.lower _ (maybe_issue_refresh _ _ _ _ _ _ _ _ _ >>= fun refresh_token => _)) _
    rw [Prog.lower_bind]
    refine issued.bind fun later refresh_token grown _ => .call trivial fun _ => .ret fun resp same => ?_
    cases same
    refine ⟨⟨u, List.mem_cons_of_mem _ ?_⟩, rfl, rfl, _, rfl, rfl, own.symm, rfl, rfl, rfl⟩
    rw [own]
    exact grown.subset (List.mem_cons_of_mem _ List.mem_cons_self)

private theorem code_grant_justified (uuid : Draw → String) {headers : Headers} {form : Form} {client : Client}
    {jkt : Option String} (authenticated : (authenticate_client p headers form).Gave (.ok client) past)
    (key : (token_jkt p client headers).Gave (.ok jkt) past) :
    (backend (AuthorizationCodeGrant.handle p.toProvider uuid client form jkt)).Justified (fun _ o => TokenFree o)
      (fun later r => ∀ resp, r = .ok resp →
        ∃ code c, Redeemed p headers form later client jkt code c ∧ TokensOf uuid later c jkt resp) past := by
  have refused : ∀ (later : Past Host) (e : OAuthError) (resp : TokenResponse),
      (Except.error e : Except OAuthError TokenResponse) = .ok resp →
        ∃ code c, Redeemed p headers form later client jkt code c ∧ TokensOf uuid later c jkt resp :=
    fun _ _ _ same => by cases same
  unfold backend AuthorizationCodeGrant.handle
  cases sent : form.get "code" with
  | none => exact .ret (refused _ _)
  | some code =>
    refine .call trivial fun c => ?_
    cases c with
    | none => exact .ret (refused _ _)
    | some c =>
      dsimp only [Prog.bind]
      split
      · exact .ret (refused _ _)
      · rename_i own
        refine .call trivial fun t => ?_
        dsimp only [Prog.bind]
        split
        · exact .ret (refused _ _)
        · rename_i late
          split
          · exact .ret (refused _ _)
          · rename_i shown
            refine (redeem_justified uuid client code jkt c (not_not.mp own)).mono fun later r grown issued resp same => ?_
            have taken : past <:+ ⟨.backend (.store (.take_code code)), some c⟩ :: past := List.suffix_cons _ _
            have read := (List.suffix_cons ⟨HostOp.backend .now, t⟩ (⟨.backend (.store (.take_code code)), some c⟩ :: past)).trans grown
            refine ⟨code, c, ⟨authenticated.later (taken.trans read), key.later (taken.trans read), sent,
              read.subset List.mem_cons_self, not_not.mp own, ⟨t, grown.subset List.mem_cons_self, not_lt.mp late⟩, shown⟩,
              issued resp same⟩

/-- What the tokens of a grant say, the answer to a request for it says. -/
theorem token_grant_justified (uuid : Draw → String) {headers : Headers} {form : Form} {g : Grant}
    (found : (form.get "grant_type").bind find_grant = some g) {Q : Past Host → TokenResponse → Prop}
    (handles : ∀ past client jkt, (authenticate_client p headers form).Gave (.ok client) past →
      (token_jkt p client headers).Gave (.ok jkt) past →
      (backend (g.handle p.toProvider uuid client form jkt)).Justified (fun _ o => TokenFree o)
        (fun later r => ∀ resp, r = .ok resp → Q later resp) past) :
    (token p uuid headers form).Justified (fun _ o => TokenFree o) (fun later r => ∀ resp, r = .token resp → Q later resp) [] := by
  have refused : ∀ (later : Past Host) (e : OAuthError) (resp : TokenResponse), Response.oauth_error e = .token resp → Q later resp :=
    fun _ _ _ same => by cases same
  have free : ∀ (past : Past Host) o, TokenFree o → TokenFree o := fun _ _ h => h
  obtain ⟨grant_type, sent, found⟩ := Option.bind_eq_some_iff.mp found
  unfold token
  rw [sent]
  dsimp only
  rw [found]
  refine ((Prog.Justified.of_uses free (authenticate_client_uses (fun _ _ => trivial) (fun _ _ => trivial) trivial
    (fun _ _ => trivial) p headers form) []).gave).bind fun past₁ client _ authenticated => ?_
  cases client with
  | error e => exact .ret (refused _ _)
  | ok client =>
    dsimp only
    split
    · exact .ret (refused _ _)
    · refine ((Prog.Justified.of_uses free (token_jkt_uses trivial (fun _ _ => trivial) client headers) past₁).gave).bind
        fun past₂ jkt grown key => ?_
      cases jkt with
      | error e => exact .ret (refused _ _)
      | ok jkt =>
        refine (handles past₂ client jkt (authenticated.2.later grown) key.2).bind fun later r _ issued => ?_
        cases r with
        | error e => exact .ret (refused _ _)
        | ok resp =>
          refine .ret fun resp' same => ?_
          cases same
          exact issued resp rfl

/-- Tokens for a code are the tokens of a code that was redeemed. -/
theorem token_justified (uuid : Draw → String) (headers : Headers) (form : Form)
    (grant : form.get "grant_type" = some "authorization_code") :
    (token p uuid headers form).Justified (fun _ o => TokenFree o)
      (fun later r => ∀ resp, r = .token resp →
        ∃ client jkt code c, Redeemed p headers form later client jkt code c ∧ TokensOf uuid later c jkt resp) [] := by
  have found : (form.get "grant_type").bind find_grant = some .authorization_code := by
    rw [grant]
    decide
  refine token_grant_justified uuid found fun past client jkt authenticated key => ?_
  refine (code_grant_justified uuid authenticated key).mono fun later r _ issued resp same => ?_
  obtain ⟨code, c, redeemed, tokens⟩ := issued resp same
  exact ⟨client, jkt, code, c, redeemed, tokens⟩

/-- Every token request, whatever it is for. -/
theorem token_uses (uuid : Draw → String) (headers : Headers) (form : Form) : (token p uuid headers form).Uses TokenFree := by
  unfold token
  split
  · split
    · refine (authenticate_client_uses (fun _ _ => trivial) (fun _ _ => trivial) trivial (fun _ _ => trivial) p headers form).bind
        fun client => ?_
      cases client with
      | error e => trivial
      | ok client =>
        dsimp only
        split
        · trivial
        · refine (token_jkt_uses trivial (fun _ _ => trivial) client headers).bind fun jkt => ?_
          cases jkt with
          | error e => trivial
          | ok jkt =>
            refine (grant_uses _ uuid client form jkt).bind fun r => ?_
            cases r <;> trivial
    · trivial
  · trivial

end tokens
end RustOp.Web
