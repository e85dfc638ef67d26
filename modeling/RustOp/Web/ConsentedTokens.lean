import RustOp.Web.RequestLife

/-!
Tokens of the backchannel flow were consented to: by the user whom the client asked
about, on the terms the client asked for, and not after a rejection. What users are
shown is what they consent to, and the history says what became of it.
-/
namespace RustOp.Web.CibaFlow
open RustOp.Effects RustOp.Text RustOp.Firestore

section runs
variable {p : Site} {ent : Entropy} {jwks : ℕ → String → String → Option JwkPub} {requests : ℕ → Request} {db : Db}
  {c : Pool Fs Db ℕ Response} (empty : ∀ key, CibaCol key.1 → db.docs.get key = none)
  (run : Run (pool p ent jwks requests db) c)
include run

/-! ### One request for each identifier -/

/-- Stores a request for the first time. -/
private def asks (e : Occurrence Fs ℕ) : Bool :=
  match e.op with
  | .set_doc .cibaRequests _ _ => true
  | _ => false

/-- What was asked under an identifier was asked by one thread, and once. -/
theorem asked_once {j j' : ℕ} {r r' : BackchannelAuthRequest} (asked : AskedFor p ent jwks requests c.trace j r)
    (asked' : AskedFor p ent jwks requests c.trace j' r') (same : r.auth_req_id = r'.auth_req_id) :
    j = j' ∧ BackchannelAuthRequest.fields r = BackchannelAuthRequest.fields r' := by
  obtain ⟨rfl, -⟩ := ent.distinct ((asked.own.symm.trans same).trans asked'.own)
  obtain ⟨a, stored⟩ := asked.stored
  obtain ⟨a', stored'⟩ := asked'.stored
  have kind : ∀ e, asks e = true → Asks e.op := by
    intro e counted
    unfold asks at counted
    split at counted
    · rename_i op
      rw [op]
      trivial
    · cases counted
  have distinct := (run_asks_once run kind).2
  have one := List.inj_on_of_nodup_map distinct (List.mem_filter.mpr ⟨stored, rfl⟩) (List.mem_filter.mpr ⟨stored', rfl⟩) rfl
  have op := congrArg Occurrence.op one
  injection op with _ _ fields
  exact ⟨rfl, fields⟩

/-- What was read of a request, whenever it was, is what was asked for. -/
theorem known_as_asked {j : ℕ} {r r₀ : BackchannelAuthRequest} (known : Known p ent jwks requests c.trace r)
    (asked : AskedFor p ent jwks requests c.trace j r₀) (same : r.auth_req_id = r₀.auth_req_id) :
    r.client_id = r₀.client_id ∧ r.account = r₀.account ∧ r.scope = r₀.scope ∧ r.binding_message = r₀.binding_message ∧
      r.authorization_details = r₀.authorization_details.filter (!·.isEmpty) := by
  obtain ⟨k, r₁, asked', keeps⟩ := known
  have ids := keeps.auth_req_id.symm.trans same
  exact keeps_of_fields_eq ids (asked_once run asked' asked ids).2 keeps

/-! ### Tokens -/

include empty

variable (p ent jwks requests) in
/-- The terms that a client asked for, and the passkey that approved them. -/
structure Consented (trace : List (Occurrence Fs ℕ)) (auth_req_id : String) (client : Client) (above : Past Host)
    (r : BackchannelAuthRequest) : Prop where
  asked : ∃ j admitted headers form above' asker account_id terms t,
    AskedAt p jwks requests trace j admitted headers form above' asker account_id terms t ∧
    auth_req_id = ent.uuid j .auth_req_id ∧ asker.client_id = client.client_id ∧ r.account = account_id ∧
    r.scope = terms.scope ∧ r.binding_message = terms.binding_message ∧
    r.authorization_details = terms.authorization_details.filter (!·.isEmpty) ∧
    (t + CIBA_TTL_SECS < YEAR_10000 → ∃ time, ⟨.backend .now, time⟩ ∈ above ∧ time ≤ t + CIBA_TTL_SECS)
  approved : ∃ k shown above' r' challenge t cred,
    ApprovedAt p ent jwks requests trace k auth_req_id shown above' r' challenge t cred ∧ cred.account_id = r.account

omit empty run in
theorem told_request {trace : List (Occurrence Fs ℕ)} {auth_req_id : String} {f : Fields}
    (told : Told p ent jwks requests trace (.cibaRequests, auth_req_id) f) :
    Known p ent jwks requests trace (BackchannelAuthRequest.from_fields auth_req_id f) ∧
      Decided p ent jwks requests trace auth_req_id (BackchannelAuthRequest.from_fields auth_req_id f).status := by
  cases told with
  | request _ _ known decided => exact ⟨known, decided⟩

/-- What is consumed had been asked for, and decided on. -/
private theorem consumed_known {i : ℕ} {headers : Headers} {form : Form} {above : Past Host} {client : Client} {jkt : Option String}
    {auth_req_id : String} {r : BackchannelAuthRequest} (implements : Prog.Implements (production (jwks i)) above (Pool.past c.trace i))
    (consumed : Consumed p.toServer headers form above client jkt auth_req_id r) :
    Known p ent jwks requests c.trace r ∧ r.auth_req_id = auth_req_id ∧ Decided p ent jwks requests c.trace auth_req_id .Approved := by
  have shown := (run_ordered empty run).past (lineage p ent jwks requests) (i := i)
  obtain ⟨f, ut, read, -, rfl, approved⟩ := consumed_request (implements.ran consumed.consumed)
  obtain ⟨known, decided⟩ := told_request (shown _ read (.cibaRequests, auth_req_id) f trivial (.get_doc_with_update_time ..))
  exact ⟨known, rfl, approved ▸ decided⟩

/-- Tokens for a backchannel request are for the account that the polling client
    asked about, on the terms it asked for, and the passkey of the account has
    approved the request. -/
theorem tokens_consented {i : ℕ} {headers : Headers} {form : Form} {resp : TokenResponse} (request : requests i = .token headers form)
    (grant : form.get "grant_type" = some CIBA_GRANT) (done : c.threads i = .ret (.token resp)) :
    ∃ above client jkt auth_req_id r, Seen jwks c.trace i above ∧
      Consumed p.toServer headers form above client jkt auth_req_id r ∧
      Consented p ent jwks requests c.trace auth_req_id client above r ∧
      ConsentTokens p.toProvider (ent.uuid i) above client r jkt resp := by
  obtain ⟨above, implements, ends⟩ := Service.run_ended run done
  change (requests i).Ends p (ent.uuid i) above _ at ends
  rw [request] at ends
  obtain ⟨client, jkt, auth_req_id, r, consumed, tokens⟩ := ends grant resp rfl
  have shown := (run_ordered empty run).past (lineage p ent jwks requests) (i := i)
  refine ⟨above, client, jkt, auth_req_id, r, ⟨_, implements, List.suffix_refl _⟩, consumed, ?_, tokens⟩
  obtain ⟨was, time, polled, own, clock, fresh⟩ := consumed.polled
  obtain ⟨known, id⟩ := found_request implements shown polled
  obtain ⟨j, r₀, asked, keeps⟩ := known
  obtain ⟨known', id', decided⟩ := consumed_known empty run implements consumed
  have named : auth_req_id = r₀.auth_req_id := id.symm.trans keeps.auth_req_id
  have same := known_as_asked run known' asked (id'.trans named)
  obtain ⟨k, shown_, above', r', challenge, t', cred, approval⟩ := decided
  obtain ⟨admitted, headers', form', above'', asker, account_id, terms, t, at_, origin⟩ := asked.asked
  have account : r₀.account = account_id := by rw [origin]; rfl
  refine ⟨⟨j, admitted, headers', form', above'', asker, account_id, terms, t, at_, named.trans asked.own, ?_,
    same.2.1.trans account, ?_, ?_, ?_, fun early => ⟨time, clock, ?_⟩⟩,
    k, shown_, above', r', challenge, t', cred, approval, ?_⟩
  · rw [← own, keeps.client_id, origin]
    rfl
  · rw [same.2.2.1, origin]
    rfl
  · rw [same.2.2.2.1, origin]
    rfl
  · rw [same.2.2.2.2, origin]
    rfl
  · have expires : r₀.expires_at = t + CIBA_TTL_SECS := by rw [origin]; rfl
    have kept := keeps.expires_at (expires ▸ early)
    rw [← expires, ← kept]
    simpa [BackchannelAuthRequest.expired] using fresh
  · rw [← (approval.approves.account).1, same.2.1]
    exact (known_as_asked run approval.known asked ((approval.own).trans named)).2.1

omit empty run in
theorem tokens_consented_in_turn : ∃ resp above client jkt r, consentEnd.threads 3 = .ret (.token resp) ∧
    Consented Reference.flowSite .unary (fun _ _ _ => none) consentRequests consentEnd.trace approvedId client above r ∧
    ConsentTokens Reference.flowSite.toProvider (Entropy.unary.uuid 3) above client r jkt resp := by
  obtain ⟨resp, issued⟩ := consentEnd_issued
  obtain ⟨above, client, jkt, auth_req_id, r, -, consumed, consented, tokens⟩ :=
    tokens_consented consentDb_empty consentEnd_run (i := 3) rfl (by decide) issued
  obtain rfl : auth_req_id = approvedId := Option.some.inj (consumed.sent.symm.trans (by decide +kernel))
  exact ⟨resp, above, client, jkt, r, issued, consented, tokens⟩

/-- Whoever has rejected a request and was told so has prevented its tokens. -/
theorem rejected_never_redeemed {i j : ℕ} {auth_req_id : String} {headers : Headers} {form : Form} {resp : TokenResponse}
    (rejection : requests j = .reject auth_req_id) (acknowledged : c.threads j = .ret (.text 204 ""))
    (request : requests i = .token headers form) (grant : form.get "grant_type" = some CIBA_GRANT)
    (sent : form.get "auth_req_id" = some auth_req_id) : c.threads i ≠ .ret (.token resp) := by
  intro done
  obtain ⟨above, implements, ends⟩ := Service.run_ended run acknowledged
  change (requests j).Ends p (ent.uuid j) above _ at ends
  rw [rejection] at ends
  obtain ⟨g, ut, -, -, moved⟩ := moved_request (implements.ran (ends rfl))
  have denied := (decoded_request { BackchannelAuthRequest.from_fields auth_req_id g with status := .Denied }).2
  obtain ⟨above', implements', ends'⟩ := Service.run_ended run done
  change (requests i).Ends p (ent.uuid i) above' _ at ends'
  rw [request] at ends'
  obtain ⟨client, jkt, id, r, consumed, -⟩ := ends' grant resp rfl
  obtain rfl : id = auth_req_id := Option.some.inj (consumed.sent.symm.trans sent)
  obtain ⟨f, ut', -, deleted, -, -⟩ := consumed_request (implements'.ran consumed.consumed)
  exact denied_or_redeemed empty run denied (Pool.mem_past.mp moved) (Pool.mem_past.mp deleted)

omit empty run in
theorem rejected_never_redeemed_in_turn : ¬∃ resp, consentEnd.threads 6 = .ret (.token resp) := by
  rintro ⟨resp, done⟩
  exact rejected_never_redeemed consentDb_empty consentEnd_run (j := 5) rfl consentEnd_rejected (i := 6) rfl (by decide)
    (by decide +kernel) done

/-! ### What users are shown -/

omit empty in
/-- What is listed for an account is for this account. -/
private theorem listed_own {i : ℕ} {above : Past Host} {account : String} {rs : List BackchannelAuthRequest}
    (implements : Prog.Implements (production (jwks i)) above (Pool.past c.trace i))
    (listed : ⟨.backend (.ciba (.list_pending account)), .ok rs⟩ ∈ above) : ∀ r ∈ rs, ∃ rows id f,
      ⟨.query_eq .cibaRequests "account" account, .ok rows⟩ ∈ Pool.past c.trace i ∧ (id, f) ∈ rows ∧
      BackchannelAuthRequest.from_fields id f = r ∧ r.status = .Pending ∧ r.account = account := by
  intro r there
  obtain ⟨rows, id, f, queried, found, rfl, pending⟩ := listed_pending (implements.ran listed) r there
  obtain ⟨b, b', -, -, -, does, -⟩ := (Pool.performed run (Pool.mem_past.mp queried)).resolve_left List.not_mem_nil
  have own : field_str f "account" = some account := sem_query does (id, f) found
  exact ⟨rows, id, f, queried, found, rfl, pending, by simp [BackchannelAuthRequest.from_fields, own]⟩

/-- Whoever is shown requests owns the access token, and the requests are for the
    owner and as a client asked for them. -/
private theorem shown_known {i : ℕ} {headers : Headers} {entries : List Json} (request : requests i = .pending_list headers)
    (done : c.threads i = .ret (.json 200 (.arr entries))) :
    ∃ (above : Past Host) (at_ : AccessToken) (rs : List BackchannelAuthRequest), Seen jwks c.trace i above ∧
      (authenticate_token p.toServer headers "GET" "/ciba/pending" none).Gave (.ok at_) above ∧
      entries = rs.map (shown_request p.toProvider) ∧
      ∀ r ∈ rs, r.status = .Pending ∧ r.account = at_.account_id ∧ Known p ent jwks requests c.trace r := by
  obtain ⟨above, implements, ends⟩ := Service.run_ended run done
  change (requests i).Ends p (ent.uuid i) above _ at ends
  rw [request] at ends
  obtain ⟨at_, rs, token, same, listed⟩ := ends entries rfl
  refine ⟨above, at_, rs, ⟨_, implements, List.suffix_refl _⟩, token, same, fun r there => ?_⟩
  obtain ⟨rows, id, f, queried, found, rfl, pending, own⟩ :=
    listed_own run implements (listed (List.ne_nil_of_mem there)) r there
  have shown := (run_ordered empty run).past (lineage p ent jwks requests) (i := i)
  exact ⟨pending, own, (told_request (shown _ queried (.cibaRequests, id) f trivial (.query_eq found))).1⟩

/-- What the owner of an access token is shown waits for the owner, whom a client
    asked about, on the terms that it asked for. -/
theorem shown_to_their_owner {i : ℕ} {headers : Headers} {entries : List Json} (request : requests i = .pending_list headers)
    (done : c.threads i = .ret (.json 200 (.arr entries))) :
    ∃ (above : Past Host) (at_ : AccessToken) (rs : List BackchannelAuthRequest), Seen jwks c.trace i above ∧
      (authenticate_token p.toServer headers "GET" "/ciba/pending" none).Gave (.ok at_) above ∧
      entries = rs.map (shown_request p.toProvider) ∧ ∀ r ∈ rs, r.status = .Pending ∧ r.account = at_.account_id ∧
        ∃ j admitted headers' form above' asker terms t,
          AskedAt p jwks requests c.trace j admitted headers' form above' asker at_.account_id terms t ∧
          r.auth_req_id = ent.uuid j .auth_req_id ∧ r.client_id = asker.client_id ∧ r.scope = terms.scope ∧
          r.binding_message = terms.binding_message ∧
          r.authorization_details = terms.authorization_details.filter (!·.isEmpty) := by
  obtain ⟨above, at_, rs, seen, token, same, listed⟩ := shown_known empty run request done
  refine ⟨above, at_, rs, seen, token, same, fun r there => ?_⟩
  obtain ⟨pending, own, j, r₀, asked, keeps⟩ := listed r there
  obtain ⟨admitted, headers', form, above', asker, account_id, terms, t, at_', origin⟩ := asked.asked
  obtain ⟨client_id, account, scope, message, details⟩ : r₀.client_id = asker.client_id ∧ r₀.account = account_id ∧
      r₀.scope = terms.scope ∧ r₀.binding_message = terms.binding_message ∧
      r₀.authorization_details = terms.authorization_details := by
    rw [origin]
    exact ⟨rfl, rfl, rfl, rfl, rfl⟩
  obtain rfl : account_id = at_.account_id := account.symm.trans (keeps.account.symm.trans own)
  exact ⟨pending, own, j, admitted, headers', form, above', asker, terms, t, at_', keeps.auth_req_id.trans asked.own,
    keeps.client_id.trans client_id, keeps.scope.trans scope, keeps.binding_message.trans message,
    keeps.authorization_details.trans (by rw [details])⟩

omit empty run in
theorem shown_to_their_owner_in_turn : ∃ (above : Past Host) (at_ : AccessToken) (r : BackchannelAuthRequest),
    (authenticate_token Reference.flowSite.toServer [("authorization", "Bearer t")] "GET" "/ciba/pending" none).Gave (.ok at_) above ∧
    consentEnd.threads 1 = .ret (.json 200 (.arr [shown_request Reference.flowSite.toProvider r])) ∧ r.status = .Pending ∧
    r.account = at_.account_id := by
  obtain ⟨entry, done, -⟩ := consentEnd_shown
  obtain ⟨above, at_, rs, -, token, same, listed⟩ := shown_to_their_owner consentDb_empty consentEnd_run (i := 1) rfl done
  obtain ⟨r, rfl, rfl⟩ := List.map_eq_singleton_iff.mp same.symm
  exact ⟨above, at_, r, token, done, (listed r List.mem_cons_self).1, (listed r List.mem_cons_self).2.1⟩

/-- Tokens for a request that a user was shown are for this user, and for the scope
    and the details that were shown. -/
theorem granted_as_shown {i k : ℕ} {headers headers' : Headers} {form : Form} {entries : List Json} {resp : TokenResponse}
    (look : requests k = .pending_list headers') (shown : c.threads k = .ret (.json 200 (.arr entries)))
    (request : requests i = .token headers form) (grant : form.get "grant_type" = some CIBA_GRANT)
    (done : c.threads i = .ret (.token resp)) :
    ∃ (above : Past Host) (at_ : AccessToken) (rs : List BackchannelAuthRequest), Seen jwks c.trace k above ∧
      (authenticate_token p.toServer headers' "GET" "/ciba/pending" none).Gave (.ok at_) above ∧
      entries = rs.map (shown_request p.toProvider) ∧ ∀ r ∈ rs, form.get "auth_req_id" = some r.auth_req_id →
        (∃ t, resp.id_token = some t ∧ t.sub = at_.account_id ∧ t.aud = r.client_id) ∧ resp.scope = r.scope ∧
        (resp.authorization_details.getD .null) = shown_details p.toProvider r.authorization_details := by
  obtain ⟨above, at_, rs, seen, token, same, listed⟩ := shown_known empty run look shown
  refine ⟨above, at_, rs, seen, token, same, fun r there sent => ?_⟩
  obtain ⟨-, own, j, r₀, asked, keeps⟩ := listed r there
  obtain ⟨above', implements, ends⟩ := Service.run_ended run done
  change (requests i).Ends p (ent.uuid i) above' _ at ends
  rw [request] at ends
  obtain ⟨client, jkt, id, r', consumed, tokens⟩ := ends grant resp rfl
  obtain rfl : id = r.auth_req_id := Option.some.inj (consumed.sent.symm.trans sent)
  obtain ⟨known, id, -⟩ := consumed_known empty run implements consumed
  obtain ⟨-, account, scope, -, details⟩ := known_as_asked run known asked (id.trans keeps.auth_req_id)
  obtain ⟨was, -, polled, asker, -⟩ := consumed.polled
  have shown := (run_ordered empty run).past (lineage p ent jwks requests) (i := i)
  obtain ⟨known, id⟩ := found_request implements shown polled
  have asker' := (known_as_asked run known asked (id.trans keeps.auth_req_id)).1
  obtain ⟨t, issued, sub, aud⟩ := tokens.id_token
  refine ⟨⟨t, issued, ?_, ?_⟩, ?_, ?_⟩
  · rw [sub, account, ← keeps.account, own]
  · rw [aud, ← asker, asker', keeps.client_id]
  · rw [tokens.scope, scope, keeps.scope]
  · rw [tokens.details, details, ← keeps.authorization_details]
    rfl

omit empty run in
theorem granted_as_shown_in_turn : ∃ (at_ : AccessToken) (r : BackchannelAuthRequest) (resp : TokenResponse) (t : IdToken),
    consentEnd.threads 1 = .ret (.json 200 (.arr [shown_request Reference.flowSite.toProvider r])) ∧
    consentEnd.threads 3 = .ret (.token resp) ∧ resp.id_token = some t ∧ t.sub = at_.account_id ∧ resp.scope = r.scope := by
  obtain ⟨entry, done, named⟩ := consentEnd_shown
  obtain ⟨resp, issued⟩ := consentEnd_issued
  obtain ⟨above, at_, rs, -, -, same, granted⟩ :=
    granted_as_shown consentDb_empty consentEnd_run (k := 1) rfl done (i := 3) rfl (by decide) issued
  obtain ⟨r, rfl, rfl⟩ := List.map_eq_singleton_iff.mp same.symm
  have own : r.auth_req_id = approvedId := by simpa [shown_request, Json.get] using named
  obtain ⟨⟨t, token, sub, -⟩, scope, -⟩ := granted r List.mem_cons_self (by rw [own]; decide +kernel)
  exact ⟨at_, r, resp, t, done, issued, token, sub, scope⟩

/-! ### The history -/

variable (p ent jwks requests) in
/-- The entry is of a request that was asked for, and what it says became of the
    request was so. -/
structure OutcomeOf (c : Pool Fs Db ℕ Response) (e : CibaHistoryEntry) : Prop where
  asked : ∃ j r₀, AskedFor p ent jwks requests c.trace j r₀ ∧ r₀.auth_req_id = e.auth_req_id ∧ e.client_id = r₀.client_id ∧
    e.account = r₀.account ∧ e.scope = r₀.scope ∧ e.binding_message = r₀.binding_message
  noted : Noted p ent jwks requests c.trace e.auth_req_id e.outcome
  settled : (e.outcome = "approved" → phase c e.auth_req_id = .approved ∨ phase c e.auth_req_id = .gone) ∧
    (e.outcome = "denied" → phase c e.auth_req_id = .denied ∨ phase c e.auth_req_id = .gone)

private theorem noted_phase {auth_req_id outcome : String} (noted : Noted p ent jwks requests c.trace auth_req_id outcome) :
    (outcome = "approved" → phase c auth_req_id = .approved ∨ phase c auth_req_id = .gone) ∧
      (outcome = "denied" → phase c auth_req_id = .denied ∨ phase c auth_req_id = .gone) := by
  cases noted with
  | approved k shown above r challenge t cred approved moved =>
    exact ⟨fun _ => moved_phase empty run moved, fun same => absurd same (by decide)⟩
  | denied k request moved => exact ⟨fun same => absurd same (by decide), fun _ => moved_phase empty run moved⟩
  | expired k t r known own pending clock late => exact ⟨fun same => absurd same (by decide), fun same => absurd same (by decide)⟩

/-- A document of the history names what was asked for, and an outcome that was
    come to. -/
private theorem told_outcome {auth_req_id : String} {f : Fields}
    (told : Told p ent jwks requests c.trace (.cibaHistory, auth_req_id) f) :
    OutcomeOf p ent jwks requests c (CibaHistoryEntry.from_fields auth_req_id f) := by
  cases told with
  | outcome _ _ r known own time same =>
    subst own
    obtain ⟨outcome, rfl, noted⟩ := same
    obtain ⟨j, r₀, asked, keeps⟩ := known
    have decoded := decoded_outcome (.from_request r outcome time)
    have settled := noted_phase empty run noted
    have kept : (CibaHistoryEntry.from_fields r.auth_req_id
        (CibaHistoryEntry.fields (.from_request r outcome time))).outcome = outcome := decoded.1
    refine ⟨⟨j, r₀, asked, keeps.auth_req_id.symm, decoded.2.2.1.trans keeps.client_id, decoded.2.1.trans keeps.account,
      decoded.2.2.2.1.trans keeps.scope, decoded.2.2.2.2.trans keeps.binding_message⟩, ?_, ?_⟩
    · exact kept.symm ▸ noted
    · exact kept.symm ▸ settled

/-- What the history shows the owner of an access token was so: of the fifty latest
    outcomes of requests to the owner, each was asked for and was come to. -/
theorem history_true {i : ℕ} {headers : Headers} {entries : List Json} (request : requests i = .history headers)
    (done : c.threads i = .ret (.json 200 (.arr entries))) :
    ∃ (above : Past Host) (at_ : AccessToken) (es : List CibaHistoryEntry), Seen jwks c.trace i above ∧
      (authenticate_token p.toServer headers "GET" "/ciba/history" none).Gave (.ok at_) above ∧
      entries = es.map (shown_entry p.toProvider) ∧ es.length ≤ 50 ∧ es.Pairwise (fun a b => b.resolved_at ≤ a.resolved_at) ∧
      ∀ e ∈ es, e.account = at_.account_id ∧ OutcomeOf p ent jwks requests c e := by
  obtain ⟨above, implements, ends⟩ := Service.run_ended run done
  change (requests i).Ends p (ent.uuid i) above _ at ends
  rw [request] at ends
  obtain ⟨at_, es, token, same, listed⟩ := ends entries rfl
  have seen : Seen jwks c.trace i above := ⟨_, implements, List.suffix_refl _⟩
  by_cases nothing : es = []
  · subst nothing
    exact ⟨above, at_, [], seen, token, same, by simp, .nil, by simp⟩
  · obtain ⟨short, latest, found⟩ := listed_history (implements.ran (listed nothing))
    refine ⟨above, at_, es, seen, token, same, short, latest, fun e there => ?_⟩
    obtain ⟨rows, id, f, queried, row, rfl⟩ := found e there
    obtain ⟨b, b', -, -, -, does, -⟩ := (Pool.performed run (Pool.mem_past.mp queried)).resolve_left List.not_mem_nil
    have own : field_str f "account" = some at_.account_id := sem_query does (id, f) row
    have shown := (run_ordered empty run).past (lineage p ent jwks requests) (i := i)
    exact ⟨by simp [CibaHistoryEntry.from_fields, own],
      told_outcome empty run (shown _ queried (.cibaHistory, id) f trivial (.query_eq row))⟩

omit empty run in
theorem history_true_in_turn : ∃ (above : Past Host) (at_ : AccessToken) (es : List CibaHistoryEntry),
    consentEnd.threads 7 = .ret (.json 200 (.arr (es.map (shown_entry Reference.flowSite.toProvider)))) ∧
    (authenticate_token Reference.flowSite.toServer [("authorization", "Bearer t")] "GET" "/ciba/history" none).Gave (.ok at_) above ∧
    ∀ e ∈ es, e.account = at_.account_id ∧
      OutcomeOf Reference.flowSite .unary (fun _ _ _ => none) consentRequests consentEnd e := by
  obtain ⟨entries, done⟩ := consentEnd_noted
  obtain ⟨above, at_, es, -, token, rfl, -, -, outcomes⟩ := history_true consentDb_empty consentEnd_run (i := 7) rfl done
  exact ⟨above, at_, es, done, token, outcomes⟩

end runs

end RustOp.Web.CibaFlow
