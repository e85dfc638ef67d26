import RustOp.Grants
import RustOp.TokenStore

/-!
What each grant handler does to a store that keeps the contract, when nothing
comes between its operations. The outcomes are listed once, with the conditions
that lead to them; every later argument goes by cases on them.
-/
namespace RustOp
open RustOp.Effects RustOp.Text RustOp.Memory

/-- The access token a code pays for. -/
def codeAccess (client : Client) (code : AuthorizationCode) (jkt : Option String) (token : String) : AccessToken :=
  { token, client_id := client.client_id, account_id := code.account_id, scope := code.scope, jkt,
    aud := code.resource, acr := code.acr, auth_time := some code.auth_time,
    authorization_details := none, mandate_consumed := false }

/-- The root refresh token of a code. -/
def codeRefresh (client : Client) (code : AuthorizationCode) (jkt : Option String) (token family_id : String) :
    RefreshToken :=
  { token, client_id := client.client_id, account_id := code.account_id, scope := code.scope,
    resource := code.resource, jkt, acr := code.acr, auth_time := some code.auth_time, family_id,
    used := false, replaced_by := none }

/-- The access token a rotation mints. -/
def rotatedAccess (client : Client) (pre : RefreshToken) (scope : String) (jkt : Option String) (token : String) :
    AccessToken :=
  { token, client_id := client.client_id, account_id := pre.account_id, scope, jkt, aud := pre.resource,
    acr := pre.acr, auth_time := pre.auth_time, authorization_details := none, mandate_consumed := false }

/-- A refresh token is issued: the scope asks for it, and a public client has a key. -/
def wantsRefresh (scope : String) (jkt : Option String) (is_public : Bool) : Bool :=
  has_scope scope "offline_access" && !(jkt.isNone && is_public)

/-- Every condition a redemption has to meet once the code was taken. -/
structure Redeemable (p : Provider) (client : Client) (form : Form) (jkt : Option String) (now : Nat)
    (code : AuthorizationCode) : Prop where
  client_id : code.client_id = client.client_id
  unexpired : now ≤ code.expires_at
  checks : check_redemption p form jkt code = .ok ()

/-- A sequence of checks passes when each of them does. -/
theorem check_then_ok {ε : Type} {a b : Except ε Unit} : (do a; b) = .ok () ↔ a = .ok () ∧ b = .ok () := by
  cases a <;> simp [bind, Except.bind]

theorem check_redemption_ok {p : Provider} {form : Form} {jkt : Option String} {code : AuthorizationCode} :
    check_redemption p form jkt code = .ok () ↔
      form.get "redirect_uri" = some code.redirect_uri ∧
      (∀ challenge, code.code_challenge = some challenge →
        ∃ verifier, form.get "code_verifier" = some verifier ∧ p.b64url (p.sha256 verifier) = challenge) ∧
      (∀ want, code.dpop_jkt = some want → jkt = some want) := by
  rw [check_redemption, check_then_ok, check_then_ok]
  refine and_congr ?_ (and_congr ?_ ?_)
  · unfold check_redirect_uri
    cases form.get "redirect_uri" <;> simp
  · unfold check_code_verifier
    cases code.code_challenge with
    | none => simp
    | some challenge => cases form.get "code_verifier" <;> simp
  · unfold check_dpop_jkt
    cases code.dpop_jkt <;> simp

namespace RefreshTokenGrant

theorem check_binding_ok {client : Client} {pre : RefreshToken} {jkt : Option String} :
    check_binding client pre jkt = .ok () ↔
      (∀ bound, pre.jkt = some bound → jkt = some bound) ∧ (pre.jkt = none → client.is_public = false) := by
  unfold check_binding
  cases pre.jkt with
  | none => simp
  | some bound =>
    cases jkt with
    | none => simp
    | some got =>
      by_cases same : bound = got
      · simp [same]
      · simp [same, Ne.symm same]

theorem requested_scope_subset {form : Form} {pre : RefreshToken} {scope : String}
    (accepted : requested_scope form pre = .ok scope) : scopeValues scope ⊆ scopeValues pre.scope := by
  unfold requested_scope at accepted
  cases asked : form.get "scope" with
  | none =>
    rw [asked] at accepted
    cases accepted
    exact subset_rfl
  | some req =>
    simp only [asked] at accepted
    split at accepted
    · rename_i within
      cases accepted
      intro value listed
      have contained := List.all_eq_true.1 within value listed
      simpa [scopeValues] using contained
    · cases accepted

end RefreshTokenGrant

section
variable {σ : Type} {h : Prog.Handler Backend σ} (S : TokenStore σ h)

theorem run_issue_access_and_id (p : Provider) (uuid : Draw → String) (client_id account_id scope : String)
    (nonce : Option String) (auth_time : Option Nat) (acr jkt alg resource : Option String) {s : σ} (ok : S.Ok s) :
    ∃ s', Prog.run h (issue_access_and_id p uuid client_id account_id scope nonce auth_time acr jkt alg
        resource none) s =
      ((p.signer_for alg).map fun a => (uuid .access_token,
        ⟨a, p.issuer, account_id, client_id, S.clock s, S.clock s + 900, at_hash p (uuid .access_token), nonce,
          auth_time, acr⟩), s') ∧
      S.Ok s' ∧ S.clock s' = S.clock s ∧
      S.view s' = (S.view s).setAccess (uuid .access_token)
        (some ⟨uuid .access_token, client_id, account_id, scope, jkt, resource, acr, auth_time, none, false⟩) := by
  refine ⟨(h (.store (.save_access_token ⟨uuid .access_token, client_id, account_id, scope, jkt, resource, acr,
    auth_time, none, false⟩)) s).2, ?_, S.ok_exec ok _, S.clock_exec _ _, S.save_access ok _ rfl⟩
  simp only [issue_access_and_id, store, now, Prog.call_bind, Prog.ret_bind, Prog.run_call, S.now_eq, S.clock_exec]
  cases p.signer_for alg <;> rfl

theorem run_maybe_issue_refresh (uuid : Draw → String) (client_id account_id scope : String)
    (resource acr : Option String) (auth_time : Option Nat) (jkt : Option String) (is_public : Bool) {s : σ}
    (ok : S.Ok s) :
    ∃ s', Prog.run h (maybe_issue_refresh uuid client_id account_id scope resource acr auth_time jkt is_public) s =
        (if wantsRefresh scope jkt is_public then some (uuid .refresh_token) else none, s') ∧
      S.Ok s' ∧ S.clock s' = S.clock s ∧
      S.view s' = if wantsRefresh scope jkt is_public then
        (S.view s).setRefresh (uuid .refresh_token) (some ⟨uuid .refresh_token, client_id, account_id, scope,
          resource, jkt, acr, auth_time, uuid .family_id, false, none⟩) else S.view s := by
  unfold maybe_issue_refresh wantsRefresh
  cases has_scope scope "offline_access" with
  | false => exact ⟨s, rfl, ok, rfl, rfl⟩
  | true =>
    cases jkt.isNone && is_public with
    | true => exact ⟨s, rfl, ok, rfl, rfl⟩
    | false => exact ⟨_, rfl, S.ok_exec ok _, S.clock_exec _ _, S.save_refresh ok _⟩

end

namespace AuthorizationCodeGrant

/-- The refresh token a redemption returns. -/
def issuedRefresh (uuid : Draw → String) (client : Client) (jkt : Option String) (code : AuthorizationCode) :
    Option String :=
  if wantsRefresh code.scope jkt client.is_public then some (uuid .refresh_token) else none

/-- The response to a redemption. -/
def response (p : Provider) (uuid : Draw → String) (client : Client) (jkt : Option String) (now : Nat)
    (alg : String) (code : AuthorizationCode) : TokenResponse where
  access_token := uuid .access_token
  token_type := token_type jkt
  expires_in := 900
  scope := code.scope
  id_token := some ⟨alg, p.issuer, code.account_id, client.client_id, now, now + 900, at_hash p (uuid .access_token),
    code.nonce, some code.auth_time, code.acr⟩
  refresh_token := issuedRefresh uuid client jkt code
  authorization_details := none

/-- The store after the access token of a code was saved. -/
def accessView (uuid : Draw → String) (client : Client) (jkt : Option String) (v : View) (c : String)
    (r : CodeRecord) : View :=
  (v.setCode c (some { r with used := true })).setAccess (uuid .access_token)
    (some (codeAccess client r.code jkt (uuid .access_token)))

/-- The store after a redemption: both tokens saved and linked to the code. -/
def redeemedView (uuid : Draw → String) (client : Client) (jkt : Option String) (v : View) (c : String)
    (r : CodeRecord) : View :=
  (if wantsRefresh r.code.scope jkt client.is_public then
      (accessView uuid client jkt v c r).setRefresh (uuid .refresh_token)
        (some (codeRefresh client r.code jkt (uuid .refresh_token) (uuid .family_id)))
    else accessView uuid client jkt v c r).setCode c
      (some { r with used := true, issued_access := some (uuid .access_token),
                     issued_refresh := issuedRefresh uuid client jkt r.code })

/-- Everything that presenting a code can do. -/
inductive Outcome (p : Provider) (uuid : Draw → String) (client : Client) (form : Form) (jkt : Option String)
    (now : Nat) (v : View) : Except OAuthError TokenResponse → View → Prop where
  | missing (e : OAuthError) (sent : form.get "code" = none) : Outcome p uuid client form jkt now v (.error e) v
  | unknown (c : String) (e : OAuthError) (sent : form.get "code" = some c) (absent : v.code c = none) :
      Outcome p uuid client form jkt now v (.error e) v
  | replayed (c : String) (r r' : CodeRecord) (e : OAuthError) (sent : form.get "code" = some c)
      (known : v.code c = some r) (used : r.used = true) (same : r'.code = r.code) (still : r'.used = true)
      (access : r'.issued_access = r.issued_access ∨ r'.issued_access = none)
      (refresh : r'.issued_refresh = r.issued_refresh ∨ r'.issued_refresh = none) :
      Outcome p uuid client form jkt now v (.error e)
        (((v.dropAccess r.issued_access).dropRefresh r.issued_refresh).setCode c (some r'))
  | refused (c : String) (r : CodeRecord) (e : OAuthError) (sent : form.get "code" = some c)
      (known : v.code c = some r) (fresh : r.used = false) (refusal : ¬ Redeemable p client form jkt now r.code) :
      Outcome p uuid client form jkt now v (.error e) (v.setCode c (some { r with used := true }))
  | unsigned (c : String) (r : CodeRecord) (e : OAuthError) (sent : form.get "code" = some c)
      (known : v.code c = some r) (fresh : r.used = false) (accepted : Redeemable p client form jkt now r.code)
      (keyless : p.signer_for client.id_token_signed_response_alg = .error e) :
      Outcome p uuid client form jkt now v (.error e) (accessView uuid client jkt v c r)
  | redeemed (c : String) (r : CodeRecord) (alg : String) (sent : form.get "code" = some c)
      (known : v.code c = some r) (fresh : r.used = false) (accepted : Redeemable p client form jkt now r.code)
      (signs : p.signer_for client.id_token_signed_response_alg = .ok alg) :
      Outcome p uuid client form jkt now v (.ok (response p uuid client jkt now alg r.code))
        (redeemedView uuid client jkt v c r)

section
variable {σ : Type} {h : Prog.Handler Backend σ} (S : TokenStore σ h)

private theorem run_redeem (p : Provider) (uuid : Draw → String) (client : Client) (jkt : Option String)
    (c : String) (r : CodeRecord) (v : View) {s : σ} (ok : S.Ok s)
    (taken : S.view s = v.setCode c (some { r with used := true })) (unlinked : r.issued_refresh = none) :
    ∃ s', Prog.run h (redeem p uuid client c jkt r.code) s =
        ((p.signer_for client.id_token_signed_response_alg).map fun alg =>
          response p uuid client jkt (S.clock s) alg r.code, s') ∧
      S.Ok s' ∧ S.clock s' = S.clock s ∧
      S.view s' = match p.signer_for client.id_token_signed_response_alg with
        | .error _ => accessView uuid client jkt v c r
        | .ok _ => redeemedView uuid client jkt v c r := by
  obtain ⟨issued, ran, okIssued, clockIssued, viewIssued⟩ :=
    run_issue_access_and_id S p uuid client.client_id r.code.account_id r.code.scope r.code.nonce
      (some r.code.auth_time) r.code.acr jkt client.id_token_signed_response_alg r.code.resource ok
  rw [redeem, Prog.run_bind, ran]
  cases p.signer_for client.id_token_signed_response_alg with
  | error e => exact ⟨issued, rfl, okIssued, clockIssued, by rw [viewIssued, taken]; rfl⟩
  | ok alg =>
    obtain ⟨saved, ran, okSaved, clockSaved, viewSaved⟩ :=
      run_maybe_issue_refresh S uuid client.client_id r.code.account_id r.code.scope r.code.resource r.code.acr
        (some r.code.auth_time) jkt client.is_public okIssued
    have linkable : (S.view saved).code c = some { r with used := true } := by
      rw [viewSaved]
      split <;> simp [viewIssued, taken]
    refine ⟨(h (.store (.link_issued_tokens c (uuid .access_token) (issuedRefresh uuid client jkt r.code))) saved).2,
      ?_, S.ok_exec okSaved _, ?_, ?_⟩
    · dsimp only [Except.map]
      rw [Prog.run_bind, ran]
      rfl
    · rw [S.clock_exec, clockSaved, clockIssued]
    · rw [S.link_issued okSaved c _ _ _ linkable unlinked, viewSaved, viewIssued, taken]
      unfold redeemedView accessView
      split <;> rfl

/-- The handler does one of the things listed, and the clock does not move. -/
theorem run_handle (p : Provider) (uuid : Draw → String) (client : Client) (form : Form) (jkt : Option String)
    {s : σ} (ok : S.Ok s)
    (unlinked : ∀ c r, (S.view s).code c = some r → r.used = false → r.issued_refresh = none) :
    ∃ answer s', Prog.run h (handle p uuid client form jkt) s = (answer, s') ∧ S.Ok s' ∧ S.clock s' = S.clock s ∧
      Outcome p uuid client form jkt (S.clock s) (S.view s) answer (S.view s') := by
  unfold handle
  cases sent : form.get "code" with
  | none => exact ⟨_, s, rfl, ok, rfl, .missing _ sent⟩
  | some c =>
    simp only [store, Prog.call_bind, Prog.ret_bind, Prog.run_call]
    have okTaken := S.ok_exec ok (.store (.take_code c))
    have clockTaken := S.clock_exec (.store (.take_code c)) s
    cases known : (S.view s).code c with
    | none =>
      obtain ⟨answer, after⟩ := S.take_unknown ok c known
      rw [answer]
      exact ⟨_, _, rfl, okTaken, clockTaken, by rw [after]; exact .unknown c _ sent known⟩
    | some r =>
      cases used : r.used with
      | true =>
        obtain ⟨answer, r', same, still, access, refresh, after⟩ := S.take_used ok c r known used
        rw [answer]
        exact ⟨_, _, rfl, okTaken, clockTaken, by
          rw [after]; exact .replayed c r r' _ sent known used same still access refresh⟩
      | false =>
        obtain ⟨answer, after⟩ := S.take_fresh ok c r known used
        have refusedBy : ∀ e, ¬ Redeemable p client form jkt (S.clock s) r.code →
            Outcome p uuid client form jkt (S.clock s) (S.view s) (.error e)
              (S.view (h (.store (.take_code c)) s).2) := by
          intro e refusal
          rw [after]
          exact .refused c r e sent known used refusal
        rw [answer]
        dsimp only
        by_cases owner : r.code.client_id = client.client_id
        · rw [if_neg (not_not.2 owner)]
          simp only [now, Prog.call_bind, Prog.ret_bind, Prog.run_call, S.now_eq, clockTaken]
          by_cases expired : r.code.expires_at < S.clock s
          · rw [if_pos expired]
            exact ⟨_, _, rfl, okTaken, clockTaken, refusedBy _ fun fits => by have := fits.unexpired; omega⟩
          · rw [if_neg expired]
            cases checks : check_redemption p form jkt r.code with
            | error e =>
              exact ⟨_, _, rfl, okTaken, clockTaken, refusedBy _ fun fits => by simp [fits.checks] at checks⟩
            | ok u =>
              have accepted : Redeemable p client form jkt (S.clock s) r.code := ⟨owner, by omega, checks⟩
              obtain ⟨s', ran, okDone, clockDone, viewDone⟩ := run_redeem S p uuid client jkt c r (S.view s) okTaken
                after (unlinked c r known used)
              refine ⟨_, s', ran, okDone, clockDone.trans clockTaken, ?_⟩
              cases signed : p.signer_for client.id_token_signed_response_alg with
              | error e =>
                rw [viewDone, signed]
                exact .unsigned c r e sent known used accepted signed
              | ok alg =>
                rw [viewDone, signed, clockTaken]
                exact .redeemed c r alg sent known used accepted signed
        · rw [if_pos owner]
          exact ⟨_, _, rfl, okTaken, clockTaken, refusedBy _ fun fits => owner fits.client_id⟩

end
end AuthorizationCodeGrant

namespace RefreshTokenGrant

/-- Every condition a rotation has to meet, apart from the token being unused. -/
structure Presentable (client : Client) (jkt : Option String) (pre : RefreshToken) : Prop where
  client_id : pre.client_id = client.client_id
  binding : check_binding client pre jkt = .ok ()

instance (client : Client) (jkt : Option String) (pre : RefreshToken) : Decidable (Presentable client jkt pre) :=
  decidable_of_iff
    (pre.client_id = client.client_id ∧ (∀ bound ∈ pre.jkt, jkt = some bound) ∧
      (pre.jkt = none → client.is_public = false))
    ⟨fun all => ⟨all.1, check_binding_ok.2 all.2⟩, fun fits => ⟨fits.client_id, check_binding_ok.1 fits.binding⟩⟩

def response (p : Provider) (uuid : Draw → String) (client : Client) (jkt : Option String) (now : Nat)
    (alg : String) (pre : RefreshToken) (scope : String) : TokenResponse where
  access_token := uuid .access_token
  token_type := token_type jkt
  expires_in := 900
  scope := scope
  id_token := some ⟨alg, p.issuer, pre.account_id, client.client_id, now, now + 900,
    at_hash p (uuid .access_token), none, pre.auth_time, pre.acr⟩
  refresh_token := new_refresh uuid scope
  authorization_details := none

/-- The store after the presented token was marked and the access token saved. -/
def markedView (uuid : Draw → String) (client : Client) (jkt : Option String) (v : View) (t : String)
    (pre : RefreshToken) (scope : String) (link : Option String) : View :=
  (v.setRefresh t (some { pre with used := true, replaced_by := link })).setAccess (uuid .access_token)
    (some (rotatedAccess client pre scope jkt (uuid .access_token)))

/-- The store after a rotation: the successor, if any, saved last. -/
def rotatedView (uuid : Draw → String) (client : Client) (jkt : Option String) (v : View) (t : String)
    (pre : RefreshToken) (scope : String) (link : Option String) : View :=
  match new_refresh uuid scope with
  | some n => (markedView uuid client jkt v t pre scope link).setRefresh n (some (successor client pre scope n))
  | none => markedView uuid client jkt v t pre scope link

/-- Everything that presenting a refresh token can do. -/
inductive Outcome (p : Provider) (uuid : Draw → String) (client : Client) (form : Form) (jkt : Option String)
    (now : Nat) (v : View) : Except OAuthError TokenResponse → View → Prop where
  | missing (e : OAuthError) (sent : form.get "refresh_token" = none) :
      Outcome p uuid client form jkt now v (.error e) v
  | unknown (t : String) (e : OAuthError) (sent : form.get "refresh_token" = some t) (absent : v.refresh t = none) :
      Outcome p uuid client form jkt now v (.error e) v
  | refused (t : String) (pre : RefreshToken) (e : OAuthError) (sent : form.get "refresh_token" = some t)
      (known : v.refresh t = some pre)
      (refusal : Presentable client jkt pre → pre.used = false ∧ requested_scope form pre = .error e) :
      Outcome p uuid client form jkt now v (.error e) v
  | reused (t : String) (pre : RefreshToken) (kept : String → Bool) (e : OAuthError)
      (sent : form.get "refresh_token" = some t) (known : v.refresh t = some pre) (used : pre.used = true)
      (fits : Presentable client jkt pre) (gone : kept t = false) :
      Outcome p uuid client form jkt now v (.error e)
        { v with refresh := fun x => if kept x then v.refresh x else none }
  | unsigned (t : String) (pre : RefreshToken) (scope : String) (link : Option String) (e : OAuthError)
      (sent : form.get "refresh_token" = some t) (known : v.refresh t = some pre) (unused : pre.used = false)
      (fits : Presentable client jkt pre) (granted : requested_scope form pre = .ok scope)
      (keyless : p.signer_for client.id_token_signed_response_alg = .error e) :
      Outcome p uuid client form jkt now v (.error e) (markedView uuid client jkt v t pre scope link)
  | rotated (t : String) (pre : RefreshToken) (scope : String) (link : Option String) (alg : String)
      (sent : form.get "refresh_token" = some t) (known : v.refresh t = some pre) (unused : pre.used = false)
      (fits : Presentable client jkt pre) (granted : requested_scope form pre = .ok scope)
      (signs : p.signer_for client.id_token_signed_response_alg = .ok alg) :
      Outcome p uuid client form jkt now v (.ok (response p uuid client jkt now alg pre scope))
        (rotatedView uuid client jkt v t pre scope link)

section
variable {σ : Type} {h : Prog.Handler Backend σ} (S : TokenStore σ h)

private theorem run_reissue (p : Provider) (uuid : Draw → String) (client : Client) (jkt : Option String)
    (t : String) (pre : RefreshToken) (scope : String) (link : Option String) (v : View) {s : σ} (ok : S.Ok s)
    (marked : S.view s = v.setRefresh t (some { pre with used := true, replaced_by := link })) :
    ∃ s', Prog.run h (reissue p uuid client jkt pre scope (new_refresh uuid scope)) s =
        ((p.signer_for client.id_token_signed_response_alg).map fun alg =>
          response p uuid client jkt (S.clock s) alg pre scope, s') ∧
      S.Ok s' ∧ S.clock s' = S.clock s ∧
      S.view s' = match p.signer_for client.id_token_signed_response_alg with
        | .error _ => markedView uuid client jkt v t pre scope link
        | .ok _ => rotatedView uuid client jkt v t pre scope link := by
  obtain ⟨issued, ran, okIssued, clockIssued, viewIssued⟩ :=
    run_issue_access_and_id S p uuid client.client_id pre.account_id scope none pre.auth_time pre.acr jkt
      client.id_token_signed_response_alg pre.resource ok
  rw [reissue, Prog.run_bind, ran]
  cases p.signer_for client.id_token_signed_response_alg with
  | error e => exact ⟨issued, rfl, okIssued, clockIssued, by rw [viewIssued, marked]; rfl⟩
  | ok alg =>
    have minted : S.view issued = markedView uuid client jkt v t pre scope link := by
      rw [viewIssued, marked]
      rfl
    cases next : new_refresh uuid scope with
    | none =>
      refine ⟨issued, ?_, okIssued, clockIssued, ?_⟩
      · simp [Except.map, response, next]
      · simp [rotatedView, next, minted]
    | some n =>
      refine ⟨(h (.store (.save_refresh_token (successor client pre scope n))) issued).2, ?_, S.ok_exec okIssued _,
        ?_, ?_⟩
      · simp [Except.map, response, next]
      · rw [S.clock_exec, clockIssued]
      · rw [S.save_refresh okIssued, minted]
        simp [rotatedView, next, successor]

/-- The handler does one of the things listed, and the clock does not move. -/
theorem run_handle (p : Provider) (uuid : Draw → String) (client : Client) (form : Form) (jkt : Option String)
    {s : σ} (ok : S.Ok s) :
    ∃ answer s', Prog.run h (handle p uuid client form jkt) s = (answer, s') ∧ S.Ok s' ∧ S.clock s' = S.clock s ∧
      Outcome p uuid client form jkt (S.clock s) (S.view s) answer (S.view s') := by
  unfold handle
  cases sent : form.get "refresh_token" with
  | none => exact ⟨_, s, rfl, ok, rfl, .missing _ sent⟩
  | some t =>
    simp only [store, Prog.call_bind, Prog.ret_bind, Prog.run_call]
    obtain ⟨answer, same⟩ := S.get_refresh ok t
    have okRead := S.ok_exec ok (.store (.get_refresh_token t))
    have clockRead := S.clock_exec (.store (.get_refresh_token t)) s
    rw [answer]
    generalize (h (.store (.get_refresh_token t)) s).2 = read at *
    cases known : (S.view s).refresh t with
    | none => exact ⟨_, read, rfl, okRead, clockRead, by rw [same]; exact .unknown t _ sent known⟩
    | some pre =>
      have refusedBy : ∀ e, (Presentable client jkt pre → pre.used = false ∧ requested_scope form pre = .error e) →
          Outcome p uuid client form jkt (S.clock s) (S.view s) (.error e) (S.view read) := by
        intro e refusal
        rw [same]
        exact .refused t pre e sent known refusal
      dsimp only
      by_cases owner : pre.client_id = client.client_id
      · rw [if_neg (not_not.2 owner)]
        cases binding : check_binding client pre jkt with
        | error e =>
          exact ⟨_, read, rfl, okRead, clockRead, refusedBy _ fun fits => by simp [fits.binding] at binding⟩
        | ok u =>
          have fits : Presentable client jkt pre := ⟨owner, binding⟩
          have knownRead : (S.view read).refresh t = some pre := by rw [same, known]
          dsimp only
          cases used : pre.used with
          | true =>
            obtain ⟨kept, gone, after⟩ := S.revoke_family okRead t
            refine ⟨_, _, rfl, S.ok_exec okRead _, (S.clock_exec _ _).trans clockRead, ?_⟩
            rw [after, same]
            exact .reused t pre kept _ sent known used fits gone
          | false =>
            cases granted : requested_scope form pre with
            | error e => exact ⟨_, read, rfl, okRead, clockRead, refusedBy e fun _ => ⟨used, granted⟩⟩
            | ok scope =>
              obtain ⟨marks, link, after⟩ := (S.mark_refresh okRead t (new_refresh uuid scope) pre knownRead).2 used
              have okMarked := S.ok_exec okRead (.store (.mark_refresh_used t (new_refresh uuid scope)))
              have clockMarked := S.clock_exec (.store (.mark_refresh_used t (new_refresh uuid scope))) read
              rw [same] at after
              obtain ⟨s', ran, okDone, clockDone, viewDone⟩ :=
                run_reissue S p uuid client jkt t pre scope link (S.view s) okMarked after
              refine ⟨_, s', Eq.trans ?_ ran, okDone, clockDone.trans (clockMarked.trans clockRead), ?_⟩
              · simp only [Bool.false_eq_true, ↓reduceIte, Prog.run_call, marks, Bool.not_true]
              · cases signed : p.signer_for client.id_token_signed_response_alg with
                | error e =>
                  rw [viewDone, signed]
                  exact .unsigned t pre scope link e sent known used fits granted signed
                | ok alg =>
                  rw [viewDone, signed, clockMarked, clockRead]
                  exact .rotated t pre scope link alg sent known used fits granted signed
      · rw [if_pos owner]
        exact ⟨_, read, rfl, okRead, clockRead, refusedBy _ fun fits => absurd fits.client_id owner⟩

end
end RefreshTokenGrant

section
variable {σ : Type} {h : Prog.Handler Backend σ} (S : TokenStore σ h)

/-- The token a revocation drops: the one named, if the client owns it. -/
def ownedAccess (client : Client) (v : View) (token : String) : Option String :=
  if (v.access token).any fun r => r.client_id = client.client_id then some token else none
def ownedRefresh (client : Client) (v : View) (token : String) : Option String :=
  if (v.refresh token).any fun r => r.client_id = client.client_id then some token else none

private theorem run_revoke_access_as (client : Client) (token : String) {s : σ} (ok : S.Ok s) :
    ∃ s', Prog.run h (revoke_access_as client token) s = ((), s') ∧ S.Ok s' ∧ S.clock s' = S.clock s ∧
      S.view s' = (S.view s).dropAccess (ownedAccess client (S.view s) token) := by
  obtain ⟨answer, same⟩ := S.get_access ok token
  have okRead := S.ok_exec ok (.store (.get_access_token token))
  have clockRead := S.clock_exec (.store (.get_access_token token)) s
  simp only [revoke_access_as, store, Prog.call_bind, Prog.ret_bind, Prog.run_call, answer]
  generalize (h (.store (.get_access_token token)) s).2 = read at *
  cases known : (S.view s).access token with
  | none => exact ⟨read, rfl, okRead, clockRead, by simp [ownedAccess, known, same, View.dropAccess]⟩
  | some r =>
    by_cases owner : r.client_id = client.client_id
    · refine ⟨(h (.store (.revoke_access_token token)) read).2, ?_, S.ok_exec okRead _,
        (S.clock_exec _ _).trans clockRead, ?_⟩
      · simp [owner]
      · rw [S.revoke_access okRead, same]
        simp [ownedAccess, known, owner, View.dropAccess]
    · refine ⟨read, ?_, okRead, clockRead, ?_⟩
      · simp [owner]
      · simp [ownedAccess, known, owner, same, View.dropAccess]

private theorem run_revoke_refresh_as (client : Client) (token : String) {s : σ} (ok : S.Ok s) :
    ∃ s', Prog.run h (revoke_refresh_as client token) s = ((), s') ∧ S.Ok s' ∧ S.clock s' = S.clock s ∧
      S.view s' = (S.view s).dropRefresh (ownedRefresh client (S.view s) token) := by
  obtain ⟨answer, same⟩ := S.get_refresh ok token
  have okRead := S.ok_exec ok (.store (.get_refresh_token token))
  have clockRead := S.clock_exec (.store (.get_refresh_token token)) s
  simp only [revoke_refresh_as, store, Prog.call_bind, Prog.ret_bind, Prog.run_call, answer]
  generalize (h (.store (.get_refresh_token token)) s).2 = read at *
  cases known : (S.view s).refresh token with
  | none => exact ⟨read, rfl, okRead, clockRead, by simp [ownedRefresh, known, same, View.dropRefresh]⟩
  | some r =>
    by_cases owner : r.client_id = client.client_id
    · refine ⟨(h (.store (.revoke_refresh_token token)) read).2, ?_, S.ok_exec okRead _,
        (S.clock_exec _ _).trans clockRead, ?_⟩
      · simp [owner]
      · rw [S.revoke_refresh okRead, same]
        simp [ownedRefresh, known, owner, View.dropRefresh]
    · refine ⟨read, ?_, okRead, clockRead, ?_⟩
      · simp [owner]
      · simp [ownedRefresh, known, owner, same, View.dropRefresh]

/-- A revocation drops at most the access token and the refresh token it names. -/
theorem run_revoke_as (client : Client) (form : Form) {s : σ} (ok : S.Ok s) :
    ∃ answer s', Prog.run h (revoke_as client form) s = (answer, s') ∧ S.Ok s' ∧ S.clock s' = S.clock s ∧
      (S.view s' = S.view s ∨ ∃ token, form.get "token" = some token ∧
        S.view s' = ((S.view s).dropAccess (ownedAccess client (S.view s) token)).dropRefresh
          (ownedRefresh client (S.view s) token)) := by
  unfold revoke_as
  cases sent : form.get "token" with
  | none => exact ⟨_, s, rfl, ok, rfl, .inl rfl⟩
  | some token =>
    obtain ⟨s1, ran1, ok1, clock1, view1⟩ := run_revoke_access_as S client token ok
    obtain ⟨s2, ran2, ok2, clock2, view2⟩ := run_revoke_refresh_as S client token ok1
    refine ⟨.ok (), s2, ?_, ok2, clock2.trans clock1, .inr ⟨token, rfl, ?_⟩⟩
    · dsimp only
      rw [Prog.run_bind, ran1, Prog.run_bind, ran2]
      rfl
    · rw [view2, view1]
      simp [ownedRefresh]

end
end RustOp
