import RustOp.Web.CrossClient
import RustOp.Web.Par
import RustOp.Web.Token

/-!
Requests with several DPoP headers. They count as requests without a proof, so
they are refused only where a proof is required, or where something else is
wrong with the request.
-/
namespace RustOp.Web.SeveralProofs
open RustOp.Effects RustOp.Text

/-! ### Requests -/

/-- The requests whose DPoP header is read. -/
inductive Request where
  | token (headers : Headers) (form : Form)
  | par (headers : Headers) (body : String)
  | protected_by_token (endpoint : Protected) (headers : Headers) (body : String)

namespace Request

def headers : Request → Headers
  | .token headers _ | .par headers _ | .protected_by_token _ headers _ => headers

/-- Tokens, or a `request_uri`. -/
def granted : Response → Bool
  | .token _ | .pushed .. => true
  | _ => false

/-- Whether the request gets what it asks for: tokens, a `request_uri`, or what
    the access token protects. -/
def served (p : Server) (uuid : Draw → String) : Request → Prog Host Bool
  | .token headers form => do return granted (← Web.token p uuid headers form)
  | .par headers body => do return granted (← Web.par p uuid headers body)
  | .protected_by_token endpoint headers body => do return (← endpoint.authenticate p headers body).toBool

end Request

/-- What the stores answer to an operation. -/
abbrev Answers := (o : BackendOp) → o.Res

/-- A grant has tokens for a client that shows no key. -/
def Grantable (p : Provider) (client : Client) (form : Form) (stores : Answers) : Grant → Prop
  | .authorization_code => ∃ c code, form.get "code" = some c ∧ stores (.store (.take_code c)) = some code ∧
      Redeemable p client form none (stores .now) code
  | .refresh_token => ∃ t pre scope, form.get "refresh_token" = some t ∧ stores (.store (.get_refresh_token t)) = some pre ∧
      RefreshTokenGrant.Presentable client none pre ∧ pre.used = false ∧ RefreshTokenGrant.requested_scope form pre = .ok scope
  | .ciba => ∃ q req, form.get "auth_req_id" = some q ∧ stores (.ciba (.get q)) = .ok (some req) ∧
      req.client_id = client.client_id ∧ req.expired (stores .now) = false ∧ req.status = .Approved

end RustOp.Web.SeveralProofs

namespace RustOp.Deployment
open RustOp.Effects RustOp.Web RustOp.Web.CrossClient RustOp.Web.SeveralProofs

/-- The stores of a process. -/
def stores : (d : Deployment) → d.ProcessState → d.State
  | .memory, m => m.mem
  | .firestore, m => m.db

/-- What they answer in a state. -/
def asks (d : Deployment) (s : d.ProcessState) : Answers := fun o => (d.handler o (d.stores s)).1

theorem run_backend (d : Deployment) {α : Type} (published : Published) (q : Prog Backend α) (s : d.ProcessState) :
    (Prog.run (d.process.exec published) (backend q) s).1 = (Prog.run d.handler q (d.stores s)).1 := by
  rw [backend, Prog.run_lower]
  refine (Prog.run_view d.stores (fun o s => ?_) q s).1
  cases d with
  | memory => exact ⟨rfl, rfl⟩
  | firestore => exact ⟨rfl, rfl⟩

/-- A refresh token that was read unused is marked. -/
theorem marks_unused (d : Deployment) {s : d.State} {t : String} {pre : RefreshToken}
    (held : (d.handler (.store (.get_refresh_token t)) s).1 = some pre) (unused : pre.used = false) (next : Option String) :
    (d.handler (.store (.mark_refresh_used t next)) (d.handler (.store (.get_refresh_token t)) s).2).1 = true := by
  cases d with
  | memory =>
    obtain ⟨answer, same⟩ := Memory.tokenStore.get_refresh (s := s) trivial t
    refine ((Memory.tokenStore.mark_refresh (Memory.tokenStore.ok_exec trivial _) t next pre ?_).2 unused).1
    rw [same, ← answer]
    exact held
  | firestore =>
    have read : Firestore.storage (.store (.get_refresh_token t)) s = ((Firestore.view s).refresh t, s) := by
      simp [Firestore.storage, Firestore.production, Firestore.FirestoreStore.run,
        Firestore.FirestoreStore.get_refresh_token, Firestore.run_get_unexpired, Firestore.view]
    simp only [handler, read] at held ⊢
    exact ((Firestore.mark_refresh_spec next held).2 unused).1

/-- A request that was read approved is consumed. -/
theorem consumes_approved (d : Deployment) {s : d.State} {q : String} {req : BackchannelAuthRequest}
    (held : (d.handler (.ciba (.get q)) s).1 = .ok (some req)) (approved : req.status = .Approved) :
    (d.handler (.ciba (.consume_if_approved q)) (d.handler (.ciba (.get q)) s).2).1 = .ok (some req) := by
  cases d with
  | memory =>
    have stored : s.ciba.map.get q = some req := Except.ok.inj held
    simp [handler, Memory.exec, Memory.MemoryCibaStore.exec, stored, approved]
  | firestore =>
    have read : ((s.docs.get (.cibaRequests, q)).bind Firestore.Db.readable).map
        (Firestore.BackchannelAuthRequest.from_fields q) = some req := Except.ok.inj held
    obtain ⟨f, readable, rfl⟩ := Option.map_eq_some_iff.mp read
    obtain ⟨doc, stored, kept⟩ := Option.bind_eq_some_iff.mp readable
    obtain rfl : doc.fields = f := by
      unfold Firestore.Db.readable at kept
      split at kept
      · cases kept
      · exact Option.some.inj kept
    have same : (Firestore.storage (.ciba (.get q)) s).2 = s := rfl
    simp only [handler]
    rw [same]
    simp [Firestore.storage, Firestore.production, Firestore.FirestoreCibaStore.run,
      Firestore.FirestoreCibaStore.consume_if_approved, Firestore.exec, stored, approved, Firestore.Db.unchanged]

end RustOp.Deployment

namespace RustOp.Web.SeveralProofs
open RustOp.Effects RustOp.Text RustOp.Web.CrossClient

/-! ### Grants without a key -/

section grants
variable {σ : Type} (h : Prog.Handler Backend σ) (p : Provider) (uuid : Draw → String) (client : Client)

/-- An access token is issued whenever there is a key to sign with. -/
private theorem issue_accepts (account_id scope : String) (nonce acr jkt resource details : Option String)
    (auth_time : Option Nat) (s : σ) :
    (Prog.run h (issue_access_and_id p uuid client.client_id account_id scope nonce auth_time acr jkt
      client.id_token_signed_response_alg resource details) s).1.toBool =
      (p.signer_for client.id_token_signed_response_alg).toBool := by
  simp only [issue_access_and_id, RustOp.store, RustOp.now, Prog.call_bind, Prog.ret_bind, Prog.run_call]
  cases p.signer_for client.id_token_signed_response_alg <;> rfl

private theorem redeem_accepts (c : String) (jkt : Option String) (code : AuthorizationCode) (s : σ) :
    (Prog.run h (redeem p uuid client c jkt code) s).1.toBool = (p.signer_for client.id_token_signed_response_alg).toBool := by
  rw [redeem, Prog.run_bind, ← issue_accepts h p uuid client]
  generalize Prog.run h (issue_access_and_id ..) s = issued
  obtain ⟨e | pair, after⟩ := issued
  · rfl
  · dsimp only
    rw [Prog.run_bind]
    rfl

private theorem reissue_accepts (jkt : Option String) (pre : RefreshToken) (scope : String) (next : Option String) (s : σ) :
    (Prog.run h (RefreshTokenGrant.reissue p uuid client jkt pre scope next) s).1.toBool =
      (p.signer_for client.id_token_signed_response_alg).toBool := by
  rw [RefreshTokenGrant.reissue, Prog.run_bind, ← issue_accepts h p uuid client]
  generalize Prog.run h (issue_access_and_id ..) s = issued
  obtain ⟨e | pair, after⟩ := issued
  · rfl
  · cases next <;> rfl

end grants

section accepts
variable (d : Deployment) (p : Provider) (uuid : Draw → String) (client : Client) (form : Form) (s : d.State)

private theorem clock_kept (o : BackendOp) : (d.handler .now (d.handler o s).2).1 = (d.handler .now s).1 := by
  simp only [d.tokens.now_eq, d.tokens.clock_exec]

/-- A code is redeemed without a key. -/
private theorem code_accepts_iff :
    (Prog.run d.handler (Grant.handle p uuid client form none .authorization_code) s).1.toBool = true ↔
      Grantable p client form (fun o => (d.handler o s).1) .authorization_code ∧
        (p.signer_for client.id_token_signed_response_alg).toBool = true := by
  simp only [Grant.handle, AuthorizationCodeGrant.handle, Grantable]
  cases sent : form.get "code" with
  | none => simp [Except.toBool]
  | some c =>
    simp only [RustOp.store, RustOp.now, Prog.call_bind, Prog.ret_bind, Prog.run_call]
    cases taken : (d.handler (.store (.take_code c)) s).1 with
    | none => simp [Except.toBool, taken]
    | some code =>
      dsimp only
      have grantable : (∃ c' code', some c = some c' ∧ (d.handler (.store (.take_code c')) s).1 = some code' ∧
          Redeemable p client form none (d.handler .now s).1 code') ↔
          Redeemable p client form none (d.handler .now s).1 code := by
        simp [taken]
      rw [grantable]
      by_cases owner : code.client_id = client.client_id
      · rw [if_neg (not_not.mpr owner), Prog.run_call, clock_kept]
        by_cases expired : code.expires_at < (d.handler .now s).1
        · rw [if_pos expired]
          refine ⟨fun answer => (by cases answer), fun fits => ?_⟩
          have := fits.1.unexpired
          omega
        · rw [if_neg expired]
          cases checks : check_redemption p form none code with
          | error e =>
            refine ⟨fun answer => (by cases answer), fun fits => ?_⟩
            rw [fits.1.checks] at checks
            cases checks
          | ok u =>
            simp only [redeem_accepts]
            exact ⟨fun signs => ⟨⟨owner, by omega, checks⟩, signs⟩, fun fits => fits.2⟩
      · rw [if_pos owner]
        exact ⟨fun answer => (by cases answer), fun fits => absurd fits.1.client_id owner⟩

/-- A refresh token is rotated without a key. -/
private theorem refresh_accepts_iff :
    (Prog.run d.handler (Grant.handle p uuid client form none .refresh_token) s).1.toBool = true ↔
      Grantable p client form (fun o => (d.handler o s).1) .refresh_token ∧
        (p.signer_for client.id_token_signed_response_alg).toBool = true := by
  simp only [Grant.handle, RefreshTokenGrant.handle, Grantable]
  cases sent : form.get "refresh_token" with
  | none => simp [Except.toBool]
  | some t =>
    simp only [RustOp.store, Prog.call_bind, Prog.ret_bind, Prog.run_call]
    cases held : (d.handler (.store (.get_refresh_token t)) s).1 with
    | none => simp [Except.toBool, held]
    | some pre =>
      dsimp only
      have grantable : (∃ t' pre' scope, some t = some t' ∧ (d.handler (.store (.get_refresh_token t')) s).1 = some pre' ∧
          RefreshTokenGrant.Presentable client none pre' ∧ pre'.used = false ∧
          RefreshTokenGrant.requested_scope form pre' = .ok scope) ↔
          RefreshTokenGrant.Presentable client none pre ∧ pre.used = false ∧
          ∃ scope, RefreshTokenGrant.requested_scope form pre = .ok scope := by
        simp [held]
      rw [grantable]
      by_cases owner : pre.client_id = client.client_id
      · rw [if_neg (not_not.mpr owner)]
        cases binding : RefreshTokenGrant.check_binding client pre none with
        | error e =>
          refine ⟨fun answer => (by cases answer), fun fits => ?_⟩
          have bound := fits.1.1.binding
          rw [binding] at bound
          cases bound
        | ok u =>
          dsimp only
          cases used : pre.used with
          | true => exact ⟨fun answer => (by cases answer), fun fits => (by cases fits.1.2.1)⟩
          | false =>
            rw [if_neg (by decide)]
            cases granted : RefreshTokenGrant.requested_scope form pre with
            | error e =>
              refine ⟨fun answer => (by cases answer), fun fits => ?_⟩
              obtain ⟨scope, asked⟩ := fits.1.2.2
              cases asked
            | ok scope =>
              have marks := d.marks_unused held used (RefreshTokenGrant.new_refresh uuid scope)
              simp only [Prog.run_call, marks, Bool.not_true, Bool.false_eq_true, if_false, reissue_accepts]
              exact ⟨fun signs => ⟨⟨⟨owner, binding⟩, trivial, scope, rfl⟩, signs⟩, fun fits => fits.2⟩
      · rw [if_pos owner]
        exact ⟨fun answer => (by cases answer), fun fits => absurd fits.1.1.client_id owner⟩

/-- A backchannel request is consumed without a key. -/
private theorem ciba_accepts_iff :
    (Prog.run d.handler (Grant.handle p uuid client form none .ciba) s).1.toBool = true ↔
      Grantable p client form (fun o => (d.handler o s).1) .ciba ∧
        (p.signer_for client.id_token_signed_response_alg).toBool = true := by
  simp only [Grant.handle, CibaGrant.handle, Grantable]
  cases sent : form.get "auth_req_id" with
  | none => simp [Except.toBool]
  | some q =>
    simp only [RustOp.ciba, RustOp.now, Prog.call_bind, Prog.ret_bind, Prog.run_call]
    cases held : (d.handler (.ciba (.get q)) s).1 with
    | error e => simp [Except.toBool, held]
    | ok found =>
      cases found with
      | none => simp [Except.toBool, held]
      | some req =>
        dsimp only
        have grantable : (∃ q' req', some q = some q' ∧ (d.handler (.ciba (.get q')) s).1 = .ok (some req') ∧
            req'.client_id = client.client_id ∧ req'.expired (d.handler .now s).1 = false ∧ req'.status = .Approved) ↔
            req.client_id = client.client_id ∧ req.expired (d.handler .now s).1 = false ∧ req.status = .Approved := by
          simp [held]
        rw [grantable]
        by_cases owner : req.client_id = client.client_id
        · rw [if_neg (not_not.mpr owner), Prog.run_call, clock_kept]
          cases expired : req.expired (d.handler .now s).1 with
          | true => exact ⟨fun answer => (by cases answer), fun fits => (by cases fits.1.2.1)⟩
          | false =>
            rw [if_neg (by decide)]
            cases status : req.status with
            | Pending => exact ⟨fun answer => (by cases answer), fun fits => (by cases fits.1.2.2)⟩
            | Denied => exact ⟨fun answer => (by cases answer), fun fits => (by cases fits.1.2.2)⟩
            | Approved =>
              have same : (d.handler .now (d.handler (.ciba (.get q)) s).2).2 = (d.handler (.ciba (.get q)) s).2 := by
                rw [d.tokens.now_eq]
              simp only [Prog.run_call, same, d.consumes_approved held status]
              refine Iff.trans ?_ (⟨fun signs => ⟨⟨owner, trivial, trivial⟩, signs⟩, fun fits => fits.2⟩)
              rw [Prog.run_bind, ← issue_accepts d.handler p uuid client]
              generalize Prog.run d.handler (issue_access_and_id ..) _ = issued
              obtain ⟨e | pair, after⟩ := issued <;> exact Iff.rfl
        · rw [if_pos owner]
          exact ⟨fun answer => (by cases answer), fun fits => absurd fits.1.1 owner⟩

/-- When a grant has tokens for a request without a key. -/
private theorem handle_accepts_iff (g : Grant) :
    (Prog.run d.handler (g.handle p uuid client form none) s).1.toBool = true ↔
      Grantable p client form (fun o => (d.handler o s).1) g ∧
        (p.signer_for client.id_token_signed_response_alg).toBool = true := by
  cases g with
  | authorization_code => exact code_accepts_iff d p uuid client form s
  | refresh_token => exact refresh_accepts_iff d p uuid client form s
  | ciba => exact ciba_accepts_iff d p uuid client form s

end accepts

/-! ### What refuses a request with several proofs -/

/-- Something other than its proofs refuses the request in a state: at the token
    endpoint the grant, the client or its binding to DPoP; at the PAR endpoint the
    parameters, the client or the store; elsewhere the access token, which is not
    live or bound to a key. -/
def Caught (d : Deployment) (published : Published) (p : Server) (s : d.ProcessState) : Request → Prop
  | .token headers form => ∀ grant_type grant client s', form.get "grant_type" = some grant_type →
      find_grant grant_type = some grant →
      Prog.run (d.process.exec published) (authenticate_client p headers form) s = (.ok client, s') →
      client.allows_grant grant_type = true → client.dpop_bound = false →
      (p.signer_for client.id_token_signed_response_alg).toBool = true →
      ¬ Grantable p.toProvider client form (d.asks s') grant
  | .par headers body => d = .firestore → p.has_firestore = true → (p.form body).get "request_uri" = none →
      ∀ client s' params s'',
      Prog.run (d.process.exec published) (authenticate_client p headers (p.form body)) s = (.ok client, s') →
      Prog.run (d.process.exec published) (par_params p client body) s' = (.ok params, s'') →
      ∃ other, (p.form params).get "client_id" = some other ∧ other ≠ client.client_id
  | .protected_by_token endpoint headers body => ∀ scheme token at_,
      presented_token headers (endpoint.body_token p body) = some (scheme, token) →
      d.asks s (.store (.get_access_token token)) = some at_ → at_.jkt ≠ none

section caught
variable {d : Deployment} {published : Published} {p : Server} {uuid : Draw → String} {s : d.ProcessState}

/-- Several proofs count as none. -/
private theorem no_proof {headers : Headers} (several : 2 ≤ (headers.get_all "dpop").length) : dpop_header headers = none := by
  unfold dpop_header
  split
  · rename_i first one
    rw [one] at several
    simp at several
  · rfl

private theorem token_caught_iff {headers : Headers} {form : Form} (several : 2 ≤ (headers.get_all "dpop").length) :
    (Prog.run (d.process.exec published) ((Request.token headers form).served p uuid) s).1 = false ↔
      Caught d published p s (.token headers form) := by
  simp only [Request.served, Web.token, Caught]
  cases sent : form.get "grant_type" with
  | none => exact iff_of_true rfl fun _ _ _ _ sent => by cases sent
  | some grant_type =>
    dsimp only
    cases found : find_grant grant_type with
    | none =>
      refine iff_of_true rfl ?_
      rintro _ grant client s' ⟨⟩ served
      cases found.symm.trans served
    | some grant =>
      dsimp only
      rw [Prog.run_bind, Prog.run_bind]
      cases authenticated : Prog.run (d.process.exec published) (authenticate_client p headers form) s with
      | mk answer s₁ =>
        cases answer with
        | error e =>
          refine iff_of_true rfl ?_
          rintro _ _ _ _ - - ⟨⟩
        | ok client =>
          dsimp only
          cases allowed : client.allows_grant grant_type with
          | false =>
            refine iff_of_true rfl ?_
            rintro _ _ _ _ ⟨⟩ - ⟨⟩ may
            cases allowed.symm.trans may
          | true =>
            cases bound : client.dpop_bound with
            | true =>
              simp only [token_jkt, no_proof several, bound]
              refine iff_of_true rfl ?_
              rintro _ _ _ _ ⟨⟩ - ⟨⟩ - free
              cases bound.symm.trans free
            | false =>
              have accepts := handle_accepts_iff d p.toProvider uuid client form (d.stores s₁) grant
              rw [← d.run_backend published] at accepts
              simp only [token_jkt, no_proof several, bound]
              simp only [Bool.not_true, Bool.false_eq_true, if_false, Prog.pure_eq, Prog.ret_bind, Prog.run_bind, Prog.run_ret]
              generalize Prog.run (d.process.exec published) (backend _) s₁ = ran at accepts ⊢
              obtain ⟨e | resp, s₂⟩ := ran
              · refine iff_of_true rfl ?_
                rintro _ _ _ _ ⟨⟩ served ⟨⟩ - - signs grantable
                cases found.symm.trans served
                cases accepts.mpr ⟨grantable, signs⟩
              · obtain ⟨grantable, signs⟩ := accepts.mp rfl
                refine iff_of_false (fun refused => by cases refused) fun caught => ?_
                exact caught grant_type grant client s₁ rfl found rfl allowed bound signs grantable

private theorem par_caught_iff {headers : Headers} {body : String} (several : 2 ≤ (headers.get_all "dpop").length) :
    (Prog.run (d.process.exec published) ((Request.par headers body).served p uuid) s).1 = false ↔
      Caught d published p s (.par headers body) := by
  simp only [Request.served, Web.par, Caught]
  cases reachable : p.has_firestore with
  | false =>
    refine iff_of_true rfl ?_
    rintro - ⟨⟩
  | true =>
    simp only [Bool.not_true, Bool.false_eq_true, if_false]
    cases named : (p.form body).get "request_uri" with
    | some uri =>
      refine iff_of_true rfl ?_
      rintro - - ⟨⟩
    | none =>
      simp only [Option.isSome_none, Bool.false_eq_true, if_false]
      rw [Prog.run_bind, Prog.run_bind]
      cases authenticated : Prog.run (d.process.exec published) (authenticate_client p headers (p.form body)) s with
      | mk answer s₁ =>
        cases answer with
        | error e =>
          refine iff_of_true rfl ?_
          rintro - - - _ _ _ _ ⟨⟩
        | ok client =>
          dsimp only
          rw [Prog.run_bind]
          cases read : Prog.run (d.process.exec published) (par_params p client body) s₁ with
          | mk answer s₂ =>
            cases answer with
            | error e =>
              refine iff_of_true rfl ?_
              rintro - - - _ _ _ _ ⟨⟩ asked
              cases read.symm.trans asked
            | ok params =>
              dsimp only
              have bound : par_bound p headers params = .ret (.ok params) := by
                simp only [par_bound, no_proof several]
                rfl
              rw [bound]
              cases mismatch : ((p.form params).get "client_id").any (· ≠ client.client_id) with
              | true =>
                refine iff_of_true rfl ?_
                rintro - - - _ _ _ _ ⟨⟩ asked
                cases read.symm.trans asked
                simpa [Option.any_eq_true] using mismatch
              | false =>
                cases d with
                | memory => exact iff_of_true rfl (by rintro ⟨⟩)
                | firestore =>
                  refine iff_of_false (fun refused => by cases refused) fun caught => ?_
                  obtain ⟨other, sent, differs⟩ := caught rfl trivial trivial client s₁ params s₂ rfl read
                  simp [sent, differs] at mismatch

private theorem protected_caught_iff {endpoint : Protected} {headers : Headers} {body : String}
    (several : 2 ≤ (headers.get_all "dpop").length) :
    (Prog.run (d.process.exec published) ((Request.protected_by_token endpoint headers body).served p uuid) s).1 = false ↔
      Caught d published p s (.protected_by_token endpoint headers body) := by
  simp only [Request.served, Protected.authenticate, authenticate_token, Caught]
  cases shown : presented_token headers (endpoint.body_token p body) with
  | none => exact iff_of_true rfl fun _ _ _ shown => by cases shown
  | some pair =>
    obtain ⟨scheme, token⟩ := pair
    have stored : (d.process.exec published (.backend (.store (.get_access_token token))) s).1 =
        d.asks s (.store (.get_access_token token)) := by
      cases d <;> rfl
    simp only [store, Prog.call_bind, Prog.ret_bind, Prog.run_call, stored]
    cases held : d.asks s (.store (.get_access_token token)) with
    | none =>
      refine iff_of_true rfl ?_
      rintro _ _ _ ⟨⟩ known
      cases held.symm.trans known
    | some at_ =>
      dsimp only
      cases bound : at_.jkt with
      | none =>
        refine iff_of_false (fun refused => by cases refused) fun caught => ?_
        exact caught scheme token at_ rfl held bound
      | some jkt =>
        have refused : check_proof p headers endpoint.method endpoint.path_suffix scheme token jkt =
            .ret (.error (if scheme ≠ "DPoP" then .text 401 "DPoP scheme required" else .text 401 "DPoP proof required")) := by
          simp only [check_proof, no_proof several]
          split <;> rfl
        simp only [refused]
        refine iff_of_true rfl ?_
        rintro _ _ _ ⟨⟩ known
        cases held.symm.trans known
        simp [bound]

end caught

/-- A request with several DPoP headers is rejected if and only if something other
    than its proofs catches it. -/
theorem several_proofs_rejected_iff (d : Deployment) (published : Published) (p : Server) (uuid : Draw → String)
    (s : d.ProcessState) (r : Request) (several : 2 ≤ (r.headers.get_all "dpop").length) :
    (Prog.run (d.process.exec published) (r.served p uuid) s).1 = false ↔ Caught d published p s r := by
  cases r with
  | token headers form => exact token_caught_iff several
  | par headers body => exact par_caught_iff several
  | protected_by_token endpoint headers body => exact protected_caught_iff several

/-! ### A code redeemed with two proofs -/

/-- A public client, not bound to DPoP. -/
def spa : Client := { Reference.rp with client_id := "spa", token_endpoint_auth_method := "none" }

def spaServer : Server := { Reference.server with clients := [spa] }

/-- A process that has issued a code to the client. -/
def codeIssued : MemoryHost where
  mem := { clock := 0, store := Memory.MemoryStore.save_code { Reference.offlineCode with client_id := "spa" } {} }

def twoProofs : Request :=
  .token [("dpop", "a"), ("dpop", "b")]
    [("grant_type", "authorization_code"), ("client_id", "spa"), ("code", "c"), ("redirect_uri", "https://rp/cb")]

/-- Several DPoP headers do not always lead to a refusal. -/
theorem several_proofs_served : ¬ ∀ (d : Deployment) (published : Published) (p : Server) (uuid : Draw → String)
    (s : d.ProcessState) (r : Request), 2 ≤ (r.headers.get_all "dpop").length →
      (Prog.run (d.process.exec published) (r.served p uuid) s).1 = false := by
  intro all
  have refused := all .memory silent spaServer (Entropy.unary.uuid 0) codeIssued twoProofs (by decide)
  have served : (Prog.run (Deployment.memory.process.exec silent) (twoProofs.served spaServer (Entropy.unary.uuid 0))
      codeIssued).1 = true := by
    decide +kernel
  rw [served] at refused
  cases refused

/-- Nothing catches this one. -/
theorem several_proofs_rejected_iff_twoProofs :
    (Prog.run (Deployment.memory.process.exec silent) (twoProofs.served spaServer (Entropy.unary.uuid 0)) codeIssued).1 = false ↔
      Caught .memory silent spaServer codeIssued twoProofs :=
  several_proofs_rejected_iff .memory silent spaServer (Entropy.unary.uuid 0) codeIssued twoProofs (by decide)

end RustOp.Web.SeveralProofs
