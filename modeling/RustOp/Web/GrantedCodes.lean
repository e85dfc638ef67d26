import RustOp.Web.CodeOrigins
import RustOp.Web.FlowReference

/-!
What a code stands for: parameters that the authorization endpoint accepted, and
somebody who signed in. Whatever is stored or redeemed as a code is one, and the
answers of the endpoint leave through registered addresses.
-/
namespace RustOp.Web.CodeFlow
open RustOp.Effects RustOp.Text RustOp.Firestore

variable {p : Site} {ent : Entropy} {jwks : ℕ → String → String → Option JwkPub} {requests : ℕ → Request}

/-! ### What a code stands for -/

variable (p ent jwks requests) in
/-- A query that the authorization endpoint accepted. -/
structure AcceptedAt (trace : List (Occurrence Fs ℕ)) (q : Query) (j : ℕ) (sid raw : Option String) (above : Past Host)
    (req : AddressedRequest) : Prop where
  request : requests j = .authorize sid raw
  seen : Seen jwks trace j above
  accepted : Accepted p.toServer above (raw.getD "") q req
  known : Known p ent jwks requests trace q

variable (p jwks requests) in
/-- Somebody signed in with a passkey of the account, at this time. -/
structure SignedInAt (trace : List (Occurrence Fs ℕ)) (account_id : String) (auth_time : Nat) (k : ℕ) (uid : String)
    (shown : AuthVerifyReq) (above : Past Host) (w : Interaction) : Prop where
  request : requests k = .login uid shown
  seen : Seen jwks trace k above
  login : Login p uid shown above w account_id auth_time

variable (p ent jwks requests) in
/-- What a code stands for: the parameters of an accepted query, checked against a
    registration of the client they name, and somebody who signed in. -/
structure Granted (trace : List (Occurrence Fs ℕ)) (c : AuthorizationCode) : Prop where
  asked : ∃ q j sid raw above first req, AcceptedAt p ent jwks requests trace q j sid raw above first ∧
    AuthParams.from_form (p.form q.raw) = .ok req.params ∧ req.params.redirect_uri = some req.redirect_uri ∧
    Checked req.params req.client ∧ c = code_of req c.code c.account_id c.auth_time c.expires_at
  signed_in : ∃ k uid shown above w, SignedInAt p jwks requests trace c.account_id c.auth_time k uid shown above w

variable {trace : List (Occurrence Fs ℕ)}

/-- A waiting request keeps the query that was accepted. -/
theorem Waiting.accepted {i : Interaction} (waiting : Waiting p ent jwks requests trace i) :
    ∃ q j sid raw above req, AcceptedAt p ent jwks requests trace q j sid raw above req ∧ i.raw_query = q.raw ∧
      i.request_uri = q.pushed.map Prod.snd ∧ Prompt.None ∉ Prompt.parse_set req.params.prompt := by
  induction waiting with
  | asked j sid raw above i q req request seen own waits known =>
    obtain ⟨s, t, -, decided⟩ := waits.decided
    refine ⟨q, j, sid, raw, above, req, ⟨request, seen, waits.accepted, known⟩, ?_⟩
    rw [waits.interaction]
    exact ⟨rfl, rfl, interaction_policy.decide_login decided⟩
  | signed_in j uid shown above i account_id auth_time request seen login _ ih => exact ih

/-- An account in a waiting request is one that somebody signed in to. -/
theorem Waiting.signed_in_at {i : Interaction} (waiting : Waiting p ent jwks requests trace i) {account_id : String}
    (named : i.account_id = some account_id) : ∃ auth_time, i.auth_time = some auth_time ∧
      ∃ k uid shown above w, SignedInAt p jwks requests trace account_id auth_time k uid shown above w := by
  cases waiting with
  | asked j sid raw above i q req request seen own waits known =>
    rw [waits.interaction] at named
    cases named
  | signed_in k uid shown above w account auth_time request seen login _ =>
    obtain rfl := Option.some.inj named
    exact ⟨auth_time, rfl, k, uid, shown, above, w, request, seen, login⟩

theorem Authorised.granted {c : AuthorizationCode} (authorised : Authorised p ent jwks requests trace c) :
    Granted p ent jwks requests trace c := by
  cases authorised with
  | session j sid raw above c q req s t request seen own code known opened =>
    obtain ⟨k, uid, shown, above', w, opened⟩ := opened
    obtain ⟨t', -, same⟩ := code.code
    have accepted := code.accepted
    refine ⟨⟨q, j, sid, raw, above, req, req, ⟨request, seen, accepted, known⟩, accepted.addressed.parsed,
      accepted.addressed.redirect_uri, accepted.checked, ?_⟩, k, uid, shown, above', w, opened.request, opened.seen, ?_⟩
    · rw [same]
      rfl
    · rw [same]
      exact opened.login
  | login j form above c w req account_id auth_time request seen own code waiting =>
    obtain ⟨q, j', sid, raw, above', first, accepted, raw_query, -, -⟩ := waiting.accepted
    obtain ⟨time, timed, k, uid, shown, above'', w', signed_in⟩ := waiting.signed_in_at code.completed
    obtain ⟨t', -, same⟩ := code.code
    obtain rfl : time = auth_time := by simpa [Timed, timed] using code.time
    have addressed := code.addressed
    rw [raw_query] at addressed
    refine ⟨⟨q, j', sid, raw, above', first, req, accepted, addressed.parsed, addressed.redirect_uri, code.checked, ?_⟩,
      k, uid, shown, above'', w', ?_⟩
    · rw [same]
      rfl
    · rw [same]
      exact signed_in

variable (p ent jwks requests) in
/-- How the account of a code was chosen: by a session that is fresh enough for a
    request that does not ask for a login, or by a login that the request does not
    forbid. -/
inductive Chosen (trace : List (Occurrence Fs ℕ)) (c : AuthorizationCode) : Prop where
  | session (q : Query) (j : ℕ) (sid raw : Option String) (above : Past Host) (req : AddressedRequest) (t : Nat)
      (accepted : AcceptedAt p ent jwks requests trace q j sid raw above req) (clock : ⟨.backend .now, t⟩ ∈ above)
      (issued : c.code = ent.uuid j .code) (quiet : Prompt.Login ∉ Prompt.parse_set req.params.prompt)
      (fresh : ∀ max_age, req.params.max_age.bind parse_u64 = some max_age → t - c.auth_time ≤ max_age)
  | login (q : Query) (j k : ℕ) (sid raw : Option String) (above : Past Host) (req : AddressedRequest) (form : Form)
      (accepted : AcceptedAt p ent jwks requests trace q j sid raw above req) (resumed : requests k = .resume form)
      (issued : c.code = ent.uuid k .code) (allowed : Prompt.None ∉ Prompt.parse_set req.params.prompt)

theorem Authorised.chosen {c : AuthorizationCode} (authorised : Authorised p ent jwks requests trace c) :
    Chosen p ent jwks requests trace c := by
  cases authorised with
  | session j sid raw above c q req s t request seen own code known opened =>
    obtain ⟨t', -, same⟩ := code.code
    obtain ⟨s', stored, -, auth_time, fresh, quiet⟩ := interaction_policy.decide_uses code.decided
    cases stored
    refine .session q j sid raw above req t ⟨request, seen, code.accepted, known⟩ code.clock own quiet fun max_age asked => ?_
    rw [same]
    show t - s.auth_time ≤ max_age
    simpa [interaction_policy.fresh_enough, asked] using fresh
  | login k form above c w req account_id auth_time request seen own code waiting =>
    obtain ⟨q, j, sid, raw, above', first, accepted, -, -, allowed⟩ := waiting.accepted
    exact .login q j k sid raw above' first form accepted request own allowed

/-! ### A run -/

section example_run
open Reference

/-- Identifiers long enough to be accepted. -/
def longEntropy : Entropy where
  uuid := fun i a => "00000000000000000000" ++ Entropy.unary.uuid i a
  distinct := by
    intro i j a b same
    refine Entropy.unary.distinct ?_
    have lists := congrArg String.toList same
    rw [String.toList_append, String.toList_append] at lists
    exact String.toList_inj.mp (List.append_cancel_left lists)

/-- A request is pushed, accepted, signed in to, resumed and redeemed. -/
def flowRequests : ℕ → Request
  | 0 => .par [("authorization", "Basic cnA6c2VjcmV0")]
      "client_id=rp&redirect_uri=https://rp/cb&response_type=code&scope=openid"
  | 1 => .authorize none (some ("client_id=rp&request_uri=" ++ par.URN_PREFIX ++ longEntropy.uuid 0 .request_uri))
  | 2 => .login (longEntropy.uuid 1 .interaction_uid) signIn
  | 3 => .resume [("uid", longEntropy.uuid 1 .interaction_uid)]
  | _ => .token [("authorization", "Basic cnA6c2VjcmV0")] [("grant_type", "authorization_code"),
      ("code", longEntropy.uuid 3 .code), ("redirect_uri", "https://rp/cb")]

/-- An account with its passkey, and a challenge for the request that waits. -/
def flowDb : Db where
  clock := 1000
  docs := .ofEntries
    [((.accounts, "a@x"), some ⟨registration.account_fields "a@x" "acct" ⟨signIn.id, base64 signerX, base64 signerY, 3⟩ 0 false, 0⟩),
      ((.accountsByUuid, "acct"), some ⟨.ofEntries [("email", some (.string "a@x"))], 0⟩),
      ((.webauthnChallenges, signInChallenge), some ⟨registration.Ceremony.to_fields
        ⟨"a@x", .Auth, longEntropy.uuid 1 .interaction_uid, ""⟩ 1300, 0⟩)]

def flowPool : Pool Fs Db ℕ (Option String × Response) :=
  pool flowSite longEntropy (fun _ _ _ => none) flowRequests flowDb

/-- The requests take turns, one after the other. -/
def flowOrder : List ℕ :=
  List.replicate 2 0 ++ List.replicate 5 1 ++ List.replicate 14 2 ++ List.replicate 7 3 ++ List.replicate 7 4

def flowEnd : Pool Fs Db ℕ (Option String × Response) := Pool.schedule exec flowPool flowOrder

/-- The third request saves its code. -/
def flowSaves (e : Occurrence Fs ℕ) : Bool :=
  e.thread == 3 && match e.op with
  | .set_doc .authCodes id _ => id == longEntropy.uuid 3 .code
  | _ => false

/-- Whether the browser was sent back, the tokens were issued, and the code was
    saved and is still stored. -/
def flowIssued (c : Pool Fs Db ℕ (Option String × Response)) : Bool :=
  (match (c.threads 3).result with
    | some (none, .redirect _) => true
    | _ => false) &&
  (match (c.threads 4).result with
    | some (none, .token _) => true
    | _ => false) &&
  c.trace.any flowSaves &&
  (c.state.docs.get (.authCodes, longEntropy.uuid 3 .code)).any fun doc => (field_ts_secs doc.fields "expiresAt").isSome

private theorem flowIssued_flowEnd : flowIssued flowEnd = true := by
  have threads : (fun i => ((flowRequests i).run flowSite (longEntropy.uuid i)).lower (Web.production fun _ _ => none)) =
      fun i => if i = 2 then
        (login_passkey_verify flowSite (longEntropy.uuid 2) (longEntropy.uuid 1 .interaction_uid) signIn).lower
          (Web.production fun _ _ => none)
      else ((flowRequests i).run flowSite (longEntropy.uuid i)).lower (Web.production fun _ _ => none) := by
    funext i
    split
    · rename_i same
      subst same
      rfl
    · rfl
  unfold flowEnd flowPool
  dsimp only [pool, Service.pool, service]
  rw [threads]
  simp only [login_passkey_verify, signIn_named, login_as, signIn_checked]
  decide +kernel

theorem flowEnd_run : Run (pool flowSite longEntropy (fun _ _ _ => none) flowRequests flowDb) flowEnd :=
  Relation.ReflTransGen.mono (fun _ _ step => step.mono (fun _ _ _ _ => .inl) fun _ _ => id) _ _
    (Pool.schedule_steps exec (Elsewhere FlowCol) flowPool flowOrder)

theorem flowDb_empty : ∀ key, FlowCol key.1 → flowDb.docs.get key = none := by
  rintro ⟨col, id⟩ flow
  cases col <;> first | exact flow.elim | simp [flowDb, Table.ofEntries, Table.get_put]

theorem flowEnd_sent : ∃ location, flowEnd.threads 3 = .ret (none, .redirect location) := by
  have issued := flowIssued_flowEnd
  simp only [flowIssued, Bool.and_eq_true] at issued
  obtain ⟨⟨⟨sent, -⟩, -⟩, -⟩ := issued
  split at sent
  · rename_i location done
    exact ⟨location, Prog.result_eq_some.mp done⟩
  · cases sent

theorem flowEnd_issued : ∃ resp, flowEnd.threads 4 = .ret (none, .token resp) := by
  have issued := flowIssued_flowEnd
  simp only [flowIssued, Bool.and_eq_true] at issued
  obtain ⟨⟨⟨-, tokens⟩, -⟩, -⟩ := issued
  split at tokens
  · rename_i resp done
    exact ⟨resp, Prog.result_eq_some.mp done⟩
  · cases tokens

theorem flowEnd_saved : ∃ f r, ⟨3, .set_doc .authCodes (longEntropy.uuid 3 .code) f, r⟩ ∈ flowEnd.trace := by
  have issued := flowIssued_flowEnd
  simp only [flowIssued, Bool.and_eq_true] at issued
  obtain ⟨⟨-, saved⟩, -⟩ := issued
  obtain ⟨⟨i, o, r⟩, listed, saves⟩ := List.any_eq_true.mp saved
  simp only [flowSaves, Bool.and_eq_true, beq_iff_eq] at saves
  obtain ⟨rfl, saves⟩ := saves
  split at saves
  · rename_i id f
    obtain rfl : id = longEntropy.uuid 3 .code := by simpa using saves
    exact ⟨f, r, listed⟩
  · cases saves

theorem flowEnd_stored : ∃ doc, flowEnd.state.docs.get (.authCodes, longEntropy.uuid 3 .code) = some doc ∧
    (field_ts_secs doc.fields "expiresAt").isSome := by
  have issued := flowIssued_flowEnd
  simp only [flowIssued, Bool.and_eq_true] at issued
  exact (Option.any_eq_true ..).mp issued.2

end example_run

/-! ### Runs -/

section runs
variable {db : Db} {c : Pool Fs Db ℕ (Option String × Response)} (empty : ∀ key, FlowCol key.1 → db.docs.get key = none)
  (run : Run (pool p ent jwks requests db) c)
include run

/-- An answer of the authorization endpoint leaves through an address that a
    registered client listed, or is the login page of the request. -/
theorem answers_leave_registered {i : ℕ} {cookie : Option String} {location : String}
    (done : c.threads i = .ret (cookie, .redirect location))
    (endpoint : (∃ sid raw, requests i = .authorize sid raw) ∨ (∃ q, requests i = .resume q) ∨ ∃ uid, requests i = .cancel uid) :
    ((∃ sid raw, requests i = .authorize sid raw) ∧ location = p.path ("/login/" ++ ent.uuid i .interaction_uid)) ∨
      ∃ above, Seen jwks c.trace i above ∧ Leaves p.toServer above location := by
  obtain ⟨above, implements, ends⟩ := Service.run_ended run done
  change (requests i).Ends p (ent.uuid i) above _ at ends
  have seen : Seen jwks c.trace i above := ⟨_, implements, List.suffix_refl _⟩
  rcases endpoint with ⟨sid, raw, request⟩ | ⟨q, request⟩ | ⟨uid, request⟩
  · rw [request] at ends
    rcases ends with login | leaves
    · exact .inl ⟨⟨sid, raw, request⟩, login⟩
    · exact .inr ⟨above, seen, leaves⟩
  · rw [request] at ends
    exact .inr ⟨above, seen, ends.resolve_left id⟩
  · rw [request] at ends
    exact .inr ⟨above, seen, ends.resolve_left id⟩

omit run in
theorem answers_leave_registered_resumed : ∃ location above, flowEnd.threads 3 = .ret (none, .redirect location) ∧
    Seen (fun _ _ _ => none) flowEnd.trace 3 above ∧ Leaves Reference.flowSite.toServer above location := by
  obtain ⟨location, sent⟩ := flowEnd_sent
  rcases answers_leave_registered flowEnd_run sent (.inr (.inl ⟨_, rfl⟩)) with ⟨⟨_, _, wrong⟩, -⟩ | ⟨above, seen, leaves⟩
  · cases wrong
  · exact ⟨location, above, sent, seen, leaves⟩

include empty

/-- What a stored code was saved as. -/
theorem stored_codes_authorised {code : String} {doc : Doc} (stored : c.state.docs.get (.authCodes, code) = some doc)
    (dated : (field_ts_secs doc.fields "expiresAt").isSome) :
    ∃ c' e, AuthorizationCode.from_fields code doc.fields = { c' with expires_at := e } ∧
      (c'.expires_at < YEAR_10000 → e = c'.expires_at) ∧ c'.code = code ∧ Authorised p ent jwks requests c.trace c' := by
  have told := (run_ordered empty run).stored (.authCodes, code) doc trivial stored
  generalize fields : doc.fields = f at told dated
  cases told with
  | code c' f authorised decoded =>
    obtain ⟨e, same, early⟩ := decoded
    exact ⟨c', e, same, early, rfl, authorised⟩
  | ghost code f undated =>
    rw [undated] at dated
    cases dated

/-- What a redeemed code was saved as. -/
theorem redeemed_authorised (begun : 0 < db.clock) {i : ℕ} {headers : Headers} {form : Form} {cookie : Option String} {resp : TokenResponse}
    (request : requests i = .token headers form) (grant : form.get "grant_type" = some "authorization_code")
    (done : c.threads i = .ret (cookie, .token resp)) :
    ∃ above client jkt c' e, Seen jwks c.trace i above ∧
      Redeemed p.toServer headers form above client jkt c'.code { c' with expires_at := e } ∧
      (c'.expires_at < YEAR_10000 → e = c'.expires_at) ∧ Authorised p ent jwks requests c.trace c' ∧
      TokensOf (ent.uuid i) above c' jkt resp := by
  obtain ⟨above, implements, ends⟩ := Service.run_ended run done
  change (requests i).Ends p (ent.uuid i) above _ at ends
  rw [request] at ends
  obtain ⟨client, jkt, code, c', redeemed, tokens⟩ := ends grant resp rfl
  obtain ⟨f, ut, read, -, -, decoded⟩ := took_code (implements.ran redeemed.taken)
  have told := (run_ordered empty run).past lineage _ read (.authCodes, code) f trivial (.get_doc_with_update_time ..)
  have seen : Seen jwks c.trace i above := ⟨_, implements, List.suffix_refl _⟩
  cases told with
  | code c₀ f authorised same =>
    obtain ⟨e, same, early⟩ := same
    rw [same] at decoded
    subst decoded
    exact ⟨above, client, jkt, c₀, e, seen, redeemed, early, authorised, tokens.access_token, tokens.drawn,
      tokens.scope, tokens.id_token⟩
  | ghost code f undated =>
    obtain ⟨t, clock, in_time⟩ := redeemed.in_time
    have positive : 0 < t := begun.trans_le ((clock_reads rfl run).2 i t (Pool.mem_past.mp (read_now (implements.ran clock)))).1
    have expired : c'.expires_at = 0 := by
      rw [← decoded]
      simp [AuthorizationCode.from_fields, undated]
    omega

end runs

end RustOp.Web.CodeFlow
