import RustOp.RefreshRecords
import RustOp.Effects.History

/-!
Refresh requests that fail, among any number of other requests, interleaved at
single store operations. A request that is refused has changed nothing, and one
that reports reuse has removed tokens of the presented family only. The
exception are clients whose algorithm has no key: they are refused at the end.
-/
namespace RustOp.FailedRefresh
open RustOp.Effects RustOp.Text RustOp.Memory RefreshTokenGrant

/-- What can be asked of the token and revocation endpoints, once the client is
    known. The authorization endpoint saves codes. -/
inductive Request where
  | grant (g : Grant) (client : Client) (form : Form) (jkt : Option String)
  | revoke (client : Client) (form : Form)
  | issue (c : AuthorizationCode)

/-- A request with the identifiers it draws. -/
def Request.run (p : Provider) (uuid : Draw → String) : Request → Prog Backend (Option (Except OAuthError TokenResponse))
  | .grant g client form jkt => do return some (← g.handle p uuid client form jkt)
  | .revoke client form => do
    let _ ← revoke_as client form
    return none
  | .issue c => do
    store (.save_code { c with code := uuid .code })
    return none

abbrev Requests (d : Deployment) := Pool Backend d.State ℕ (Option (Except OAuthError TokenResponse))

/-- All requests about to begin, on blank storage. -/
def pool (d : Deployment) (p : Provider) (ent : Entropy) (requests : ℕ → Request) : Requests d :=
  ⟨d.blank, fun i => (requests i).run p (ent.uuid i), []⟩

/-! ### What is read and marked -/

/-- The record of a token was read. -/
@[reducible] def Got (t : String) (pre : RefreshToken) : (o : BackendOp) × o.Res := ⟨.store (.get_refresh_token t), some pre⟩

/-- A token was marked used. -/
@[reducible] def Marked (t : String) (n : Option String) : (o : BackendOp) × o.Res := ⟨.store (.mark_refresh_used t n), true⟩

/-- The family of a token was revoked. -/
@[reducible] def Walked (t : String) : (o : BackendOp) × o.Res := ⟨.store (.revoke_refresh_family t), ()⟩

/-- A token was read or could not be marked. -/
inductive Gentle : (o : BackendOp) × o.Res → Prop where
  | read (t : String) (found : Option RefreshToken) : Gentle ⟨.store (.get_refresh_token t), found⟩
  | lost (t : String) (n : Option String) : Gentle ⟨.store (.mark_refresh_used t n), false⟩

/-- The answer to a reused token. -/
def REUSED : OAuthError := .InvalidGrant "refresh token reuse detected; token family revoked"

/-- Whenever a refresh request marks its token used, its client's algorithm has a key. -/
def Signed {d : Deployment} (p : Provider) (requests : ℕ → Request) (c c' : Requests d) : Prop :=
  ∀ e t n client form jkt, c'.trace = e :: c.trace → (⟨e.op, e.answer⟩ : (o : BackendOp) × o.Res) = Marked t n →
    requests e.thread = .grant .refresh_token client form jkt →
    ∃ alg, p.signer_for client.id_token_signed_response_alg = .ok alg

/-- One operation of a request, or time passing. -/
def Next {d : Deployment} (p : Provider) (requests : ℕ → Request) (c c' : Requests d) : Prop :=
  Pool.Step (Sem.ofHandler d.handler) d.tokens.Env c c' ∧ Signed p requests c c'

/-! ### What a request does -/

/-- The writes of a request: the root of its family, or the successor of a token
    that it read and marked. -/
structure Lawful (uuid : Draw → String) (past : Past Backend) (o : BackendOp) : Prop where
  saves : ∀ r, o = .store (.save_refresh_token r) → r.replaced_by = none ∧
    (r.token = uuid .refresh_token ∧ r.family_id = uuid .family_id ∨
      r.token = uuid .rotated_token ∧ ∃ t pre, Got t pre ∈ past ∧ Marked t (some r.token) ∈ past ∧ r.family_id = pre.family_id)
  marks : ∀ t n, o = .store (.mark_refresh_used t n) → (∀ t n, Marked t n ∉ past) ∧ (n = none ∨ n = some (uuid .rotated_token))

/-- What is known of a refresh request that failed. -/
inductive Failed (p : Provider) (client : Client) (form : Form) (past : Past Backend) (err : OAuthError) : Prop where
  | refused (gentle : ∀ x ∈ past, Gentle x)
  | reused (t : String) (pre : RefreshToken) (is : err = REUSED) (sent : form.get "refresh_token" = some t)
      (own : past = [Walked t, Got t pre])
  | unsigned (t : String) (n : Option String) (marked : Marked t n ∈ past)
      (keyless : ∀ alg, p.signer_for client.id_token_signed_response_alg ≠ .ok alg)

section requests
variable (p : Provider) (uuid : Draw → String) (client : Client) (form : Form) (jkt : Option String)

private theorem quiet_lawful {past : Past Backend} {o : BackendOp} (saves : ∀ r, o ≠ .store (.save_refresh_token r))
    (marks : ∀ t n, o ≠ .store (.mark_refresh_used t n)) : Lawful uuid past o :=
  ⟨fun r is => absurd is (saves r), fun t n is => absurd is (marks t n)⟩

/-- After the mark the rest only fails for want of a key. -/
private theorem reissue_justified {past : Past Backend} {t : String} {pre : RefreshToken} (scope : String) (got : Got t pre ∈ past)
    (marked : Marked t (new_refresh uuid scope) ∈ past) :
    (reissue p uuid client jkt pre scope (new_refresh uuid scope)).Justified (Lawful uuid)
      (fun past a => ∀ err, a = .error err → Failed p client form past err) past := by
  unfold reissue issue_access_and_id
  refine .call (quiet_lawful uuid (by simp) (by simp)) fun _ => .call (quiet_lawful uuid (by simp) (by simp)) fun iat => ?_
  dsimp only [Prog.bind]
  cases signer : p.signer_for client.id_token_signed_response_alg with
  | error e =>
    refine .ret fun err is => .unsigned t _ (List.mem_cons_of_mem _ (List.mem_cons_of_mem _ marked)) fun alg signs => ?_
    rw [signer] at signs
    cases signs
  | ok alg =>
    cases next : new_refresh uuid scope with
    | none => exact .ret fun err is => by cases is
    | some n =>
      have drawn : n = uuid .rotated_token := by
        unfold new_refresh at next
        split at next
        · exact (Option.some.inj next).symm
        · cases next
      rw [next] at marked
      refine .call ⟨fun r is => ?_, by simp⟩ fun _ => .ret fun err is => by cases is
      cases is
      exact ⟨rfl, .inr ⟨drawn, t, pre, List.mem_cons_of_mem _ (List.mem_cons_of_mem _ got),
        List.mem_cons_of_mem _ (List.mem_cons_of_mem _ marked), rfl⟩⟩

/-- A refresh request is lawful, and how it fails. -/
private theorem refresh_justified : (RefreshTokenGrant.handle p uuid client form jkt).Justified (Lawful uuid)
    (fun past a => ∀ err, a = .error err → Failed p client form past err) [] := by
  unfold RefreshTokenGrant.handle
  cases sent : form.get "refresh_token" with
  | none => exact .ret fun _ _ => .refused (by simp)
  | some t =>
    refine .call (quiet_lawful uuid (by simp) (by simp)) fun found => ?_
    cases found with
    | none =>
      refine .ret fun _ _ => .refused fun x listed => ?_
      obtain rfl := List.mem_singleton.mp listed
      exact .read t none
    | some pre =>
      have read : ∀ x ∈ ([Got t pre] : Past Backend), Gentle x := by
        intro x listed
        obtain rfl := List.mem_singleton.mp listed
        exact .read t (some pre)
      dsimp only [Prog.bind]
      split
      · exact .ret fun _ _ => .refused read
      · split
        · exact .ret fun _ _ => .refused read
        · split
          · refine .call (quiet_lawful uuid (by simp) (by simp)) fun _ => .ret fun err is => ?_
            cases is
            exact .reused t pre rfl sent rfl
          · split
            · exact .ret fun _ _ => .refused read
            · rename_i scope granted
              refine .call ⟨by simp, fun t' n is => ?_⟩ fun won => ?_
              · cases is
                refine ⟨by simp, ?_⟩
                unfold new_refresh
                split
                · exact .inr rfl
                · exact .inl rfl
              · cases won with
                | false =>
                  refine .ret fun _ _ => .refused fun x listed => ?_
                  rcases List.mem_cons.mp listed with rfl | before
                  · exact .lost t _
                  · exact read x before
                | true =>
                  have got : Got t pre ∈ (⟨.store (.mark_refresh_used t (new_refresh uuid scope)), true⟩ :: [Got t pre] : Past Backend) :=
                    List.mem_cons_of_mem _ List.mem_cons_self
                  exact reissue_justified p uuid client form jkt scope got List.mem_cons_self

/-- An operation that marks nothing and saves at most the root of a family. -/
def Roots (o : BackendOp) : Prop :=
  (∀ t n, o ≠ .store (.mark_refresh_used t n)) ∧ ∀ r, o = .store (.save_refresh_token r) →
    r.replaced_by = none ∧ r.token = uuid .refresh_token ∧ r.family_id = uuid .family_id

private theorem roots_plain {o : BackendOp} (saves : ∀ r, o ≠ .store (.save_refresh_token r))
    (marks : ∀ t n, o ≠ .store (.mark_refresh_used t n)) : Roots uuid o := ⟨marks, fun r is => absurd is (saves r)⟩

private theorem roots_justified {α : Type} {program : Prog Backend α} (uses : program.Uses (Roots uuid)) :
    program.Justified (Lawful uuid) (fun _ _ => True) [] := by
  refine (Prog.Justified.of_uses (fun past o roots => ?_) uses []).mono fun _ _ _ _ => trivial
  refine ⟨fun r is => ?_, fun t n is => absurd is (roots.1 t n)⟩
  obtain ⟨unlinked, root⟩ := roots.2 r is
  exact ⟨unlinked, .inl root⟩

private theorem issue_roots (client_id account_id scope : String) (nonce : Option String) (auth_time : Option Nat)
    (acr alg resource details : Option String) :
    (issue_access_and_id p uuid client_id account_id scope nonce auth_time acr jkt alg resource details).Uses (Roots uuid) := by
  refine ⟨roots_plain uuid (by simp) (by simp), fun _ => ⟨roots_plain uuid (by simp) (by simp), fun iat => ?_⟩⟩
  cases p.signer_for alg <;> trivial

private theorem redeem_roots (c : String) (code : AuthorizationCode) :
    (redeem p uuid client c jkt code).Uses (Roots uuid) := by
  refine (issue_roots ..).bind fun issued => ?_
  cases issued with
  | error e => trivial
  | ok pair =>
    refine Prog.Uses.bind ?_ fun refresh => ⟨roots_plain uuid (by simp) (by simp), fun _ => trivial⟩
    unfold maybe_issue_refresh
    split
    · trivial
    · split
      · trivial
      · refine ⟨⟨by simp, fun r is => ?_⟩, fun _ => trivial⟩
        cases is
        exact ⟨rfl, rfl, rfl⟩

private theorem code_roots : (AuthorizationCodeGrant.handle p uuid client form jkt).Uses (Roots uuid) := by
  unfold AuthorizationCodeGrant.handle
  cases form.get "code" with
  | none => trivial
  | some c =>
    refine ⟨roots_plain uuid (by simp) (by simp), fun taken => ?_⟩
    cases taken with
    | none => trivial
    | some code =>
      dsimp only [Prog.bind]
      split
      · trivial
      · refine ⟨roots_plain uuid (by simp) (by simp), fun time => ?_⟩
        dsimp only [Prog.bind]
        split
        · trivial
        · split
          · trivial
          · exact redeem_roots ..

private theorem ciba_roots : (CibaGrant.handle p uuid client form jkt).Uses (Roots uuid) := by
  unfold CibaGrant.handle
  cases form.get "auth_req_id" with
  | none => trivial
  | some id =>
    refine ⟨roots_plain uuid (by simp) (by simp), fun found => ?_⟩
    rcases found with e | _ | req
    · trivial
    · trivial
    · dsimp only [Prog.bind]
      split
      · trivial
      · refine ⟨roots_plain uuid (by simp) (by simp), fun time => ?_⟩
        dsimp only [Prog.bind]
        split
        · exact ⟨roots_plain uuid (by simp) (by simp), fun _ => trivial⟩
        · split
          · trivial
          · exact ⟨roots_plain uuid (by simp) (by simp), fun _ => trivial⟩
          · refine ⟨roots_plain uuid (by simp) (by simp), fun consumed => ?_⟩
            rcases consumed with e | _ | req
            · trivial
            · trivial
            · refine (issue_roots ..).bind fun issued => ?_
              cases issued <;> trivial

private theorem revoke_roots : (revoke_as client form).Uses (Roots uuid) := by
  unfold revoke_as
  cases form.get "token" with
  | none => trivial
  | some t =>
    refine Prog.Uses.bind ⟨roots_plain uuid (by simp) (by simp), fun found => ?_⟩ fun _ =>
      Prog.Uses.bind ⟨roots_plain uuid (by simp) (by simp), fun found => ?_⟩ fun _ => trivial
    · cases found with
      | none => trivial
      | some r =>
        dsimp only [Prog.bind]
        split
        · exact ⟨roots_plain uuid (by simp) (by simp), fun _ => trivial⟩
        · trivial
    · cases found with
      | none => trivial
      | some r =>
        dsimp only [Prog.bind]
        split
        · exact ⟨roots_plain uuid (by simp) (by simp), fun _ => trivial⟩
        · trivial

end requests

/-- What is known of a request that ended. -/
def Ended (p : Provider) (request : Request) (past : Past Backend) (a : Option (Except OAuthError TokenResponse)) : Prop :=
  ∀ client form jkt err, request = .grant .refresh_token client form jkt → a = some (.error err) → Failed p client form past err

private theorem request_justified (p : Provider) (uuid : Draw → String) (request : Request) :
    (request.run p uuid).Justified (Lawful uuid) (Ended p request) [] := by
  have never : ∀ {program : Prog Backend (Option (Except OAuthError TokenResponse))},
      (∀ client form jkt, request ≠ .grant .refresh_token client form jkt) → program.Uses (Roots uuid) →
      program.Justified (Lawful uuid) (Ended p request) [] :=
    fun other uses => (roots_justified uuid uses).mono fun _ _ _ _ _ _ _ _ is => absurd is (other _ _ _)
  cases request with
  | grant g client form jkt =>
    cases g with
    | refresh_token =>
      refine (refresh_justified p uuid client form jkt).bind fun past a _ failed => .ret ?_
      rintro _ _ _ err ⟨⟩ is
      exact failed err (Option.some.inj is)
    | authorization_code => exact never (by simp) ((code_roots p uuid client form jkt).bind fun _ => trivial)
    | ciba => exact never (by simp) ((ciba_roots p uuid client form jkt).bind fun _ => trivial)
  | revoke client form => exact never (by simp) ((revoke_roots uuid client form).bind fun _ => trivial)
  | issue c => exact never (by simp) ⟨roots_plain uuid (by simp) (by simp), fun _ => trivial⟩

/-! ### Families -/

section families
variable {d : Deployment} {ent : Entropy}

/-- A token that was stored, linked, read or marked. -/
inductive Known (c : Requests d) (x : String) : Prop where
  | stored (r : RefreshToken) (here : d.refreshRecords.record c.state x = some r)
  | linked (t : String) (r : RefreshToken) (here : d.refreshRecords.record c.state t = some r) (link : r.replaced_by = some x)
  | got (i : ℕ) (pre : RefreshToken) (listed : Got x pre ∈ Pool.past c.trace i)
  | marked (i : ℕ) (n : Option String) (listed : Marked x n ∈ Pool.past c.trace i)
  | next (i : ℕ) (t : String) (listed : Marked t (some x) ∈ Pool.past c.trace i)

/-- The tokens are sorted into families: links stay within one, and records name it. -/
structure Families (c : Requests d) (family : String → String) : Prop where
  record : ∀ t r, d.refreshRecords.record c.state t = some r →
    r.family_id = family t ∧ ∀ n, r.replaced_by = some n → family n = family t
  got : ∀ i t pre, Got t pre ∈ Pool.past c.trace i → pre.family_id = family t
  marked : ∀ i t n, Marked t (some n) ∈ Pool.past c.trace i → family n = family t

private theorem Families.congr {c : Requests d} {family family' : String → String} (families : Families c family)
    (same : ∀ x, Known c x → family' x = family x) : Families c family' where
  record t r here := by
    obtain ⟨named, linked⟩ := families.record t r here
    rw [same t (.stored r here)]
    exact ⟨named, fun n link => by rw [same n (.linked t r here link), linked n link]⟩
  got i t pre listed := by rw [same t (.got i pre listed), families.got i t pre listed]
  marked i t n listed := by rw [same n (.next i t listed), same t (.marked i _ listed), families.marked i t n listed]

/-- What holds in every state. A successor is new until its request has marked a token. -/
structure Inv (ent : Entropy) (p : Provider) (requests : ℕ → Request) (c : Requests d) : Prop where
  ok : d.tokens.Ok c.state
  families : ∃ family, (∀ i, family (ent.uuid i .refresh_token) = ent.uuid i .family_id) ∧ Families c family
  fresh : ∀ i, Known c (ent.uuid i .rotated_token) → ∃ t n, Marked t n ∈ Pool.past c.trace i
  signed : ∀ i t n client form jkt, Marked t n ∈ Pool.past c.trace i → requests i = .grant .refresh_token client form jkt →
    ∃ alg, p.signer_for client.id_token_signed_response_alg = .ok alg

/-- The past of a thread after a step. -/
private theorem mem_past_cons {e : Occurrence Backend ℕ} {trace : List (Occurrence Backend ℕ)} {i : ℕ}
    {x : (o : BackendOp) × o.Res} (listed : x ∈ Pool.past (e :: trace) i) :
    i = e.thread ∧ x = ⟨e.op, e.answer⟩ ∨ x ∈ Pool.past trace i := by
  rw [Pool.past_cons] at listed
  split at listed
  · rename_i own
    exact (List.mem_cons.mp listed).imp_left fun same => ⟨own.symm, same⟩
  · exact .inr listed

variable {c c' : Requests d} {j : ℕ} {o : BackendOp} {a : o.Res}

/-- A record that was read is stored. -/
private theorem got_stored (ok : d.tokens.Ok c.state) (does : d.handler o c.state = (a, c'.state)) {t : String} {pre : RefreshToken}
    (got : Got t pre = ⟨o, a⟩) : d.refreshRecords.record c.state t = some pre := by
  cases got
  apply d.refreshRecords.shown
  rw [← (d.tokens.get_refresh ok t).1, does]

private theorem marked_stored (does : d.handler o c.state = (a, c'.state)) {t : String} {n : Option String}
    (marked : Marked t n = ⟨o, a⟩) : ∃ r, d.refreshRecords.record c.state t = some r := by
  cases marked
  apply d.refreshRecords.won
  rw [does]

/-- A record after a step was there before it, or the step wrote it. -/
private theorem record_step (does : d.handler o c.state = (a, c'.state)) {t : String} {r : RefreshToken}
    (here : d.refreshRecords.record c'.state t = some r) :
    d.refreshRecords.record c.state t = some r ∨ Wrote (d.refreshRecords.record c.state) o a t r := by
  have step := d.refreshRecords.step (o := o) (s := c.state) (t := t) (r := r)
  rw [does] at step
  exact step here

/-- A token is known after a step if it was before, or the step's request drew it. -/
private theorem known_step (ok : d.tokens.Ok c.state) (does : d.handler o c.state = (a, c'.state))
    (trace : c'.trace = ⟨j, o, a⟩ :: c.trace) (allowed : Lawful (ent.uuid j) (Pool.past c.trace j) o) {x : String}
    (known : Known c' x) : Known c x ∨ x = ent.uuid j .refresh_token ∨
      x = ent.uuid j .rotated_token ∧ ∃ t n, Marked t n ∈ Pool.past c'.trace j := by
  have now : (⟨o, a⟩ : (o : BackendOp) × o.Res) ∈ Pool.past c'.trace j := by
    rw [trace, Pool.past_cons, if_pos rfl]
    exact List.mem_cons_self
  have before : ∀ {y}, y ∈ Pool.past c.trace j → y ∈ Pool.past c'.trace j := by
    intro y listed
    rw [trace]
    exact Pool.past_subset _ _ _ listed
  cases known with
  | stored r here =>
    rcases record_step does here with old | wrote
    · exact .inl (.stored r old)
    · cases wrote with
      | saved =>
        obtain ⟨-, ⟨drawn, -⟩ | ⟨drawn, t, pre, -, marked, -⟩⟩ := allowed.saves _ rfl
        · exact .inr (.inl drawn)
        · exact .inr (.inr ⟨drawn, t, _, before marked⟩)
      | marked t n next r stored link => exact .inl (.stored r stored)
  | linked t r here link =>
    rcases record_step does here with old | wrote
    · exact .inl (.linked t r old link)
    · cases wrote with
      | saved =>
        rw [(allowed.saves _ rfl).1] at link
        cases link
      | marked t n next r stored source =>
        rcases source with rfl | rfl
        · obtain rfl : next = some x := link
          rcases (allowed.marks _ _ rfl).2 with none | drawn
          · cases none
          · exact .inr (.inr ⟨Option.some.inj drawn, t, _, now⟩)
        · exact .inl (.linked t r stored link)
  | got i pre listed =>
    rw [trace] at listed
    rcases mem_past_cons listed with ⟨-, got⟩ | old
    · exact .inl (.stored pre (got_stored ok does got))
    · exact .inl (.got i pre old)
  | marked i n listed =>
    rw [trace] at listed
    rcases mem_past_cons listed with ⟨-, marked⟩ | old
    · obtain ⟨r, stored⟩ := marked_stored does marked
      exact .inl (.stored r stored)
    · exact .inl (.marked i n old)
  | next i t listed =>
    rw [trace] at listed
    rcases mem_past_cons listed with ⟨-, marked⟩ | old
    · cases marked
      rcases (allowed.marks _ _ rfl).2 with none | drawn
      · cases none
      · exact .inr (.inr ⟨Option.some.inj drawn, t, _, now⟩)
    · exact .inl (.next i t old)

/-- A step keeps the families if what it marks stays in its family. -/
private theorem Families.step {family : String → String} (families : Families c family)
    (roots : ∀ i, family (ent.uuid i .refresh_token) = ent.uuid i .family_id) (ok : d.tokens.Ok c.state)
    (does : d.handler o c.state = (a, c'.state)) (trace : c'.trace = ⟨j, o, a⟩ :: c.trace)
    (allowed : Lawful (ent.uuid j) (Pool.past c.trace j) o)
    (link : ∀ t n, Marked t (some n) = ⟨o, a⟩ → family n = family t) : Families c' family where
  record t r here := by
    rcases record_step does here with old | wrote
    · exact families.record t r old
    · cases wrote with
      | saved =>
        obtain ⟨unlinked, ⟨drawn, named⟩ | ⟨-, t, pre, got, marked, named⟩⟩ := allowed.saves _ rfl
        · refine ⟨by rw [named, drawn, roots], fun n linked => ?_⟩
          rw [unlinked] at linked
          cases linked
        · refine ⟨?_, fun n linked => ?_⟩
          · rw [named, families.got j t pre got, families.marked j t _ marked]
          · rw [unlinked] at linked
            cases linked
      | marked t n next r stored source =>
        obtain ⟨named, linked⟩ := families.record t r stored
        refine ⟨named, fun m here => ?_⟩
        rcases source with rfl | rfl
        · obtain rfl : next = some m := here
          exact link t m rfl
        · exact linked m here
  got i t pre listed := by
    rw [trace] at listed
    rcases mem_past_cons listed with ⟨-, got⟩ | old
    · exact (families.record t pre (got_stored ok does got)).1
    · exact families.got i t pre old
  marked i t n listed := by
    rw [trace] at listed
    rcases mem_past_cons listed with ⟨-, marked⟩ | old
    · exact link t n marked
    · exact families.marked i t n old

/-- When a step marks a token, its successor joins the family of the token. -/
private theorem families_kept {p : Provider} {requests : ℕ → Request} (inv : Inv ent p requests c)
    (does : d.handler o c.state = (a, c'.state)) (trace : c'.trace = ⟨j, o, a⟩ :: c.trace)
    (allowed : Lawful (ent.uuid j) (Pool.past c.trace j) o) :
    ∃ family, (∀ i, family (ent.uuid i .refresh_token) = ent.uuid i .family_id) ∧ Families c' family := by
  obtain ⟨family, roots, families⟩ := inv.families
  by_cases marks : ∃ t n, Marked t (some n) = ⟨o, a⟩
  · obtain ⟨t, n, marked⟩ := marks
    cases marked
    obtain ⟨unmarked, none | drawn⟩ := allowed.marks _ _ rfl
    · cases none
    · obtain rfl := Option.some.inj drawn
      have new : ¬ Known c (ent.uuid j .rotated_token) := by
        intro known
        obtain ⟨t', n', listed⟩ := inv.fresh j known
        exact unmarked t' n' listed
      have other : ∀ x, Known c x → Function.update family (ent.uuid j .rotated_token) (family t) x = family x := by
        intro x known
        refine Function.update_of_ne ?_ _ _
        rintro rfl
        exact new known
      have roots' : ∀ i, Function.update family (ent.uuid j .rotated_token) (family t) (ent.uuid i .refresh_token) =
          ent.uuid i .family_id := by
        intro i
        rw [Function.update_of_ne, roots]
        intro same
        cases (ent.distinct same).2
      obtain ⟨r, stored⟩ := marked_stored does rfl
      refine ⟨_, roots', (families.congr other).step roots' inv.ok does trace allowed fun t' n' marked => ?_⟩
      cases marked
      rw [Function.update_self, other t (.stored r stored)]
  · exact ⟨family, roots, families.step roots inv.ok does trace allowed fun t n marked => absurd ⟨t, n, marked⟩ marks⟩

private theorem Inv.step {p : Provider} {requests : ℕ → Request} (inv : Inv ent p requests c)
    (did : Pool.Did (Sem.ofHandler d.handler) d.tokens.Env (fun i => Lawful (ent.uuid i)) c c')
    (signed : Signed p requests c c') : Inv ent p requests c' := by
  cases did with
  | env changes trace threads =>
    have less : ∀ {t r}, d.refreshRecords.record c'.state t = some r → d.refreshRecords.record c.state t = some r :=
      fun here => d.refreshRecords.env changes here
    refine ⟨d.tokens.ok_env inv.ok changes, ?_, ?_, ?_⟩
    · obtain ⟨family, roots, families⟩ := inv.families
      refine ⟨family, roots, fun t r here => families.record t r (less here), ?_, ?_⟩
      · rw [trace]
        exact families.got
      · rw [trace]
        exact families.marked
    · intro i known
      rw [trace]
      refine inv.fresh i ?_
      cases known with
      | stored r here => exact .stored r (less here)
      | linked t r here link => exact .linked t r (less here) link
      | got i pre listed => exact .got i pre (trace ▸ listed)
      | marked i n listed => exact .marked i n (trace ▸ listed)
      | next i t listed => exact .next i t (trace ▸ listed)
    · rw [trace]
      exact inv.signed
  | act e k next allowed does trace threads =>
    obtain ⟨j, o, a⟩ := e
    refine ⟨?_, families_kept inv does trace allowed, fun i known => ?_, fun i t n client form jkt listed request => ?_⟩
    · have kept := d.tokens.ok_exec inv.ok o
      rw [show (d.handler o c.state).2 = c'.state from congrArg Prod.snd does] at kept
      exact kept
    · rcases known_step inv.ok does trace allowed known with before | drawn | ⟨drawn, marked⟩
      · obtain ⟨t, n, listed⟩ := inv.fresh i before
        refine ⟨t, n, ?_⟩
        rw [trace]
        exact Pool.past_subset _ _ _ listed
      · cases (ent.distinct drawn).2
      · obtain ⟨rfl, -⟩ := ent.distinct drawn
        exact marked
    · rw [trace] at listed
      rcases mem_past_cons listed with ⟨rfl, marked⟩ | old
      · exact signed _ t n client form jkt trace marked.symm request
      · exact inv.signed i t n client form jkt old request

private theorem Inv.start (p : Provider) (requests : ℕ → Request) : Inv ent p requests (pool d p ent requests) := by
  have nothing : ∀ t, d.refreshRecords.record d.blank t = none := by
    intro t
    cases d <;> rfl
  have unlisted : ∀ i, Pool.past (pool d p ent requests).trace i = [] := fun _ => rfl
  have ok : d.tokens.Ok d.blank := by
    cases d with
    | memory => trivial
    | firestore =>
      show 0 + REFRESH_TTL_SECS < Firestore.YEAR_10000
      decide
  refine ⟨ok, ?_, fun i known => ?_, fun i t n client form jkt listed => ?_⟩
  · have injective : Function.Injective fun i => ent.uuid i .refresh_token := fun i j same => (ent.distinct same).1
    refine ⟨Function.extend (fun i => ent.uuid i .refresh_token) (fun i => ent.uuid i .family_id) id,
      fun i => injective.extend_apply _ _ i, fun t r here => ?_, fun i t pre listed => ?_, fun i t n listed => ?_⟩
    · have absent := nothing t
      rw [show d.blank = (pool d p ent requests).state from rfl, here] at absent
      cases absent
    · rw [unlisted] at listed
      cases listed
    · rw [unlisted] at listed
      cases listed
  · have absent : ∀ {t r}, d.refreshRecords.record (pool d p ent requests).state t ≠ some r := by
      intro t r here
      have absent := nothing t
      rw [show d.blank = (pool d p ent requests).state from rfl, here] at absent
      cases absent
    cases known with
    | stored r here => exact absurd here absent
    | linked t r here => exact absurd here absent
    | got i pre listed => cases listed
    | marked i n listed => cases listed
    | next i t listed => cases listed
  · rw [unlisted] at listed
    cases listed

end families

/-- What a step of a request changed: nothing, or tokens of the family of the
    token that the request presented are gone. -/
inductive Harmless {d : Deployment} (form : Form) (err : OAuthError) (c c' : Requests d) (i : ℕ) : Prop where
  | unchanged (same : d.tokens.view c'.state = d.tokens.view c.state)
  | revoked (t : String) (pre : RefreshToken) (is : err = REUSED) (sent : form.get "refresh_token" = some t)
      (presented : Got t pre ∈ Pool.past c.trace i) (access : (d.tokens.view c'.state).access = (d.tokens.view c.state).access)
      (family : ∀ x r, (d.tokens.view c.state).refresh x = some r →
        (d.tokens.view c'.state).refresh x = some r ∨ r.family_id = pre.family_id)

section failed
variable {d : Deployment} {ent : Entropy}

private theorem gentle_same {c c' : Requests d} {o : BackendOp} {a : o.Res} (ok : d.tokens.Ok c.state)
    (does : d.handler o c.state = (a, c'.state)) (gentle : Gentle ⟨o, a⟩) : d.tokens.view c'.state = d.tokens.view c.state := by
  rw [show c'.state = (d.handler o c.state).2 from (congrArg Prod.snd does).symm]
  cases gentle with
  | read t found => exact (d.tokens.get_refresh ok t).2
  | lost t n => exact d.refreshRecords.lost (congrArg Prod.fst does)

/-- A walk takes away tokens of one family only. -/
private theorem walk_family {p : Provider} {requests : ℕ → Request} {c c' : Requests d} (inv : Inv ent p requests c) {t : String}
    {pre : RefreshToken} {i : ℕ} (got : Got t pre ∈ Pool.past c.trace i)
    (does : d.handler (.store (.revoke_refresh_family t)) c.state = ((), c'.state)) :
    (d.tokens.view c'.state).access = (d.tokens.view c.state).access ∧
    ∀ x r, (d.tokens.view c.state).refresh x = some r →
      (d.tokens.view c'.state).refresh x = some r ∨ r.family_id = pre.family_id := by
  have after : (d.handler (.store (.revoke_refresh_family t)) c.state).2 = c'.state := congrArg Prod.snd does
  obtain ⟨kept, -, same⟩ := d.tokens.revoke_family inv.ok t
  rw [after] at same
  refine ⟨by rw [same], fun x r shown => ?_⟩
  have walked := d.refreshRecords.walk (t := t) shown
  rw [after] at walked
  refine walked.imp_right fun path => ?_
  obtain ⟨family, -, families⟩ := inv.families
  calc r.family_id = family x := (families.record x r (d.refreshRecords.shown shown)).1
    _ = family t := path.keeps fun t r n stored link => (families.record t r stored).2 n link
    _ = pre.family_id := (families.got i t pre got).symm

/-- Any number of requests in any order, with any clients, forms and keys: if no
    token is marked for a client whose algorithm has no key, then a refresh request
    that fails has changed nothing with any of its operations, or it reports reuse,
    and took away tokens of the presented family only. -/
theorem failed_refresh_harmless (d : Deployment) (p : Provider) (ent : Entropy) (requests : ℕ → Request) {c c' c'' : Requests d}
    (before : Relation.ReflTransGen (Next p requests) (pool d p ent requests) c) (step : Next p requests c c')
    (after : Relation.ReflTransGen (Next p requests) c' c'') {e : Occurrence Backend ℕ} (acted : c'.trace = e :: c.trace)
    {client : Client} {form : Form} {jkt : Option String} (request : requests e.thread = .grant .refresh_token client form jkt)
    {err : OAuthError} (answered : c''.threads e.thread = .ret (some (.error err))) : Harmless form err c c' e.thread := by
  have honest : (pool d p ent requests).Honest (fun i => Lawful (ent.uuid i)) fun i => Ended p (requests i) :=
    fun i => request_justified p (ent.uuid i) (requests i)
  obtain ⟨inv, honest⟩ := honest.induct (fun _ _ inv _ did signed => inv.step did signed) (Inv.start p requests) before
  obtain ⟨honest', did⟩ := honest.step step.1
  -- Whatever the request did so far stays in its past.
  obtain ⟨⟨inv'', kept⟩, honest''⟩ := honest'.induct
    (I := fun x => Inv ent p requests x ∧ Pool.past c'.trace e.thread <:+ Pool.past x.trace e.thread)
    (fun x y holds _ did signed => ⟨holds.1.step did signed, holds.2.trans (did.past_suffix e.thread)⟩)
    ⟨inv.step did step.2, List.suffix_refl _⟩ after
  cases did with
  | env changes trace threads =>
    rw [trace] at acted
    exact absurd (congrArg List.length acted) (by simp)
  | act e' k next allowed does trace threads =>
    rw [acted] at trace
    obtain ⟨rfl, -⟩ := List.cons.inj trace
    have ended : Ended p (requests e.thread) (Pool.past c''.trace e.thread) (some (.error err)) := by
      have own := honest'' e.thread
      rw [answered] at own
      exact own
    rw [acted, Pool.past_cons, if_pos rfl] at kept
    have now := kept.subset List.mem_cons_self
    cases ended client form jkt err request rfl with
    | refused gentle => exact .unchanged (gentle_same inv.ok does (gentle _ now))
    | reused t pre is sent own =>
      rw [own] at now kept
      rcases List.mem_cons.mp now with walks | reads
      · have presented : Got t pre ∈ Pool.past c.trace e.thread := by
          rw [walks] at kept
          rcases List.suffix_cons_iff.mp kept with same | shorter
          · rw [(List.cons.inj same).2]
            exact List.mem_cons_self
          · have first := shorter.subset List.mem_cons_self
            cases List.mem_singleton.mp first
        obtain ⟨i, o, a⟩ := e
        cases walks
        obtain ⟨access, family⟩ := walk_family inv presented does
        exact .revoked t pre is sent presented access family
      · have gentle : Gentle ⟨e.op, e.answer⟩ := by
          rw [List.mem_singleton.mp reads]
          exact .read t (some pre)
        exact .unchanged (gentle_same inv.ok does gentle)
    | unsigned t n marked keyless =>
      obtain ⟨alg, signs⟩ := inv''.signed e.thread t n client form jkt marked request
      exact absurd signs (keyless alg)

end failed

/-! ### A reused token, and a client without a key -/

/-- A client whose algorithm the provider has no key for. -/
def keyless : Client := { Reference.rp with id_token_signed_response_alg := some "ES384" }

def refreshForm : Form := [("refresh_token", "1r")]

/-- A code is saved and redeemed; then its refresh token is presented again and again. -/
def presented (client : Client) : ℕ → Request
  | 0 => .issue Reference.offlineCode
  | 1 => .grant .authorization_code Reference.rp Reference.redeemForm none
  | _ => .grant .refresh_token client refreshForm none

/-- The requests after a number of turns. -/
def turned (client : Client) (order : List ℕ) : Requests .memory :=
  Pool.schedule Memory.exec (pool .memory Reference.provider .unary (presented client)) order

private theorem turned_steps (client : Client) (order more : List ℕ) :
    Relation.ReflTransGen (Pool.Step (Sem.ofHandler Memory.exec) Memory.Env) (turned client order)
      (turned client (order ++ more)) := by
  have steps := Pool.schedule_steps Memory.exec Memory.Env (turned client order) more
  rw [turned, ← Pool.schedule_append] at steps
  exact steps

private theorem turned_step (client : Client) (order : List ℕ) {i : ℕ}
    (busy : ((turned client order).threads i).next.isSome = true) :
    Pool.Step (Sem.ofHandler Memory.exec) Memory.Env (turned client order) (turned client (order ++ [i])) ∧
      ∃ e : Occurrence Backend ℕ, (turned client (order ++ [i])).trace = e :: (turned client order).trace ∧ e.thread = i := by
  obtain ⟨o, next⟩ := Option.isSome_iff_exists.mp busy
  obtain ⟨step, trace⟩ := Pool.fire_step Memory.exec Memory.Env next
  have last : turned client (order ++ [i]) = Pool.fire Memory.exec (turned client order) i := by
    rw [turned, Pool.schedule_append]
    rfl
  rw [last]
  exact ⟨step, _, trace, rfl⟩

/-- Every client has a key for its algorithm. -/
private theorem signed (c c' : Requests .memory) : Signed Reference.provider (presented Reference.rp) c c' := by
  rintro e t n client form jkt - - request
  generalize e.thread = i at request
  match i with
  | 0 => cases request
  | 1 => cases request
  | i + 2 =>
    cases request
    exact ⟨_, rfl⟩

/-- The token is presented once more after it was rotated. -/
theorem failed_refresh_harmless_reused :
    Harmless refreshForm REUSED (turned Reference.rp [0, 1, 1, 1, 1, 1, 1, 2, 2, 2, 2, 2, 3])
      (turned Reference.rp [0, 1, 1, 1, 1, 1, 1, 2, 2, 2, 2, 2, 3, 3]) 3 := by
  have before : Relation.ReflTransGen (Next Reference.provider (presented Reference.rp))
      (pool .memory Reference.provider .unary (presented Reference.rp))
      (turned Reference.rp [0, 1, 1, 1, 1, 1, 1, 2, 2, 2, 2, 2, 3]) :=
    Relation.ReflTransGen.mono (fun _ _ step => ⟨step, signed _ _⟩) _ _ (turned_steps Reference.rp [] _)
  obtain ⟨step, e, trace, turn⟩ := turned_step Reference.rp [0, 1, 1, 1, 1, 1, 1, 2, 2, 2, 2, 2, 3] (i := 3) (by decide +kernel)
  have request : presented Reference.rp e.thread = .grant .refresh_token Reference.rp refreshForm none := by
    rw [turn]
    rfl
  have answered : (turned Reference.rp [0, 1, 1, 1, 1, 1, 1, 2, 2, 2, 2, 2, 3, 3]).threads e.thread = .ret (some (.error REUSED)) := by
    rw [turn]
    rfl
  have harmless := failed_refresh_harmless .memory Reference.provider .unary (presented Reference.rp) before ⟨step, signed _ _⟩
    .refl trace request answered
  rw [turn] at harmless
  exact harmless

/-- A client without a key is refused after its token was marked used. -/
theorem failed_refresh_marks : ∃ err,
    (turned keyless [0, 1, 1, 1, 1, 1, 1, 2, 2, 2, 2]).threads 2 = .ret (some (.error err)) ∧
    ¬ Harmless refreshForm err (turned keyless [0, 1, 1, 1, 1, 1, 1, 2]) (turned keyless [0, 1, 1, 1, 1, 1, 1, 2, 2]) 2 := by
  refine ⟨_, rfl, ?_⟩
  rintro (same | ⟨t, pre, is, -⟩)
  · have used := congrArg (fun v : View => (v.refresh "1r").map RefreshToken.used) same
    revert used
    decide +kernel
  · cases is

end RustOp.FailedRefresh
