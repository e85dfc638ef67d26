import RustOp.Web.AcceptedOnce
import RustOp.Web.Reference

/-!
Whether one client's signed text is accepted, depending on what other clients
sent before. A `jti` is remembered without the client that used it, and fetched
keys are kept by their URI, so another client can get in the way through either.
There is no third way.
-/
namespace RustOp.Web.CrossClient
open RustOp.Effects RustOp.Effects.Checks RustOp.Text RustOp.Web.AcceptedOnce

/-! ### Processes -/

/-- What clients publish at their key URIs, at each time. -/
abbrev Published := Nat → String → Option (List JwkPub)

/-- A process that answers every operation, seen through the nonces it remembers
    and the keys it has fetched. -/
structure Process (σ : Type) where
  exec : Published → Prog.Handler Host σ
  clock : σ → Nat
  /-- Until the clock shows a time, if it does not yet. -/
  wait : Nat → σ → σ
  remembers : σ → NonceStore × String → Prop
  jwks : σ → JwksResolver
  /-- What a client identifier resolves to. -/
  client : σ → Server → String → Option Client
  wait_clock : ∀ t s, clock (wait t s) = max (clock s) t
  wait_client : ∀ t s, client (wait t s) = client s
  wait_law : ∀ t s k, remembers (wait t s) k → remembers s k
  now_law : ∀ published s, exec published (.backend .now) s = (clock s, s)
  read_law : ∀ published o s, Reads o → clock (exec published o s).2 = clock s ∧
    client (exec published o s).2 = client s ∧
    ∀ k, remembers (exec published o s).2 k ↔ remembers s k
  claim_law : ∀ published jti key ttl s,
    clock (exec published (.claim jti key ttl) s).2 = clock s ∧ client (exec published (.claim jti key ttl) s).2 = client s ∧
    ((exec published (.claim jti key ttl) s).1 = true ↔ ¬ remembers s (jti, key)) ∧
    ∀ k, remembers (exec published (.claim jti key ttl) s).2 k →
      remembers s k ∨ ((exec published (.claim jti key ttl) s).1 = true ∧ k.2 = key)
  client_law : ∀ published p id s, Prog.run (exec published) (p.resolve_client id) s = (client s p id, s)
  jwk_law : ∀ published uri kid s,
    (exec published (.resolve_jwk uri kid) s).1 = ((jwks s).resolve published (clock s) uri kid).1

/-- A request at a time. -/
structure Event where
  time : Nat
  request : Verification

/-- The client that a request is made for, if it names one. -/
def sender (p : Server) : Verification → Option String
  | .dpop .. => none
  | .client_assertion assertion .. => ((Signed.client_assertion assertion).claims p).bind (·.get_str "sub")
  | .request_object client _ => some client.client_id

/-- A process in the middle of a run, and the requests it has accepted, newest
    first. -/
structure World (σ : Type) where
  state : σ
  accepted : List Event := []

namespace Process
variable {σ : Type} (P : Process σ) (published : Published) (p : Server)

/-- One request: whether it is accepted, and the state after it. -/
def serve (s : σ) (e : Event) : Bool × σ := Prog.run (P.exec published) (e.request.run p) (P.wait e.time s)

def after (w : World σ) (e : Event) : World σ where
  state := (P.serve published p w.state e).2
  accepted := if (P.serve published p w.state e).1 then e :: w.accepted else w.accepted

/-- The world after a run that starts with no request. -/
def run (s : σ) (events : List Event) : World σ := events.foldl (P.after published p) ⟨s, []⟩

/-! ### What a run remembers -/

variable {published p}

/-- A verification remembers nothing new but the key of a text it accepts. -/
private theorem run_remembers {i : Signed} {seen : Option Nat} {q : Prog Host Bool} (verifies : Verifies p i seen q) (s : σ) :
    P.clock (Prog.run (P.exec published) q s).2 = P.clock s ∧ P.client (Prog.run (P.exec published) q s).2 = P.client s ∧
    ∀ k, P.remembers (Prog.run (P.exec published) q s).2 k →
      P.remembers s k ∨ ((Prog.run (P.exec published) q s).1 = true ∧ k.2 = (i.key p).2) := by
  induction verifies generalizing s with
  | refused t => exact ⟨rfl, rfl, fun _ => .inl⟩
  | @read o k reads rest ih =>
    obtain ⟨still, clients, same⟩ := P.read_law published o s reads
    obtain ⟨still', clients', new⟩ := ih (P.exec published o s).1 (P.exec published o s).2
    exact ⟨still'.trans still, clients'.trans clients, fun k after => (new k after).imp_left (same k).mp⟩
  | clock rest ih =>
    rw [Prog.run_call, P.now_law]
    exact ih _ s
  | @claim t ttl jti key k keyed young long lost won =>
    obtain ⟨still, clients, -, new⟩ := P.claim_law published jti key ttl s
    rw [Prog.run_call, keyed]
    cases answer : (P.exec published (.claim jti key ttl) s).1 with
    | false =>
      rw [answer] at new
      rw [lost]
      exact ⟨still, clients, fun k after => (new k after).imp_right fun nothing => by cases nothing.1⟩
    | true =>
      rw [answer] at new
      rw [won]
      exact ⟨still, clients, new⟩

/-- Every nonce that a run remembers is that of a request it accepted. -/
private theorem remembered_accepted {s : σ} (blank : ∀ k, ¬ P.remembers s k) (events : List Event) :
    (∀ t, P.clock s ≤ t → (∀ e ∈ events, e.time ≤ t) → P.clock (P.run published p s events).state ≤ t) ∧
    P.client (P.run published p s events).state = P.client s ∧
    (∀ e ∈ (P.run published p s events).accepted, e ∈ events) ∧
    ∀ k, P.remembers (P.run published p s events).state k →
      ∃ e ∈ (P.run published p s events).accepted, k.2 = (e.request.signed.key p).2 := by
  induction events using List.reverseRecOn with
  | nil =>
    refine ⟨fun t start _ => start, rfl, ?_, fun k held => absurd held (blank k)⟩
    intro e listed
    cases listed
  | append_singleton earlier e ih =>
    obtain ⟨clock, clients, listed, known⟩ := ih
    have last : P.run published p s (earlier ++ [e]) = P.after published p (P.run published p s earlier) e := by
      simp [run, List.foldl_append]
    obtain ⟨still, clients', new⟩ := P.run_remembers (e.request.verifies (p := p))
      (P.wait e.time (P.run published p s earlier).state)
    rw [last]
    refine ⟨fun t start past => ?_, clients'.trans ((P.wait_client _ _).trans clients), fun x accepted => ?_, fun k held => ?_⟩
    · have before := clock t start fun x was => past x (List.mem_append_left _ was)
      have now : e.time ≤ t := past e (by simp)
      refine still.le.trans ?_
      rw [P.wait_clock]
      omega
    · simp only [after] at accepted
      split at accepted
      · rcases List.mem_cons.mp accepted with rfl | before
        · simp
        · exact List.mem_append_left _ (listed x before)
      · exact List.mem_append_left _ (listed x accepted)
    · rcases new k held with before | ⟨accepted, keyed⟩
      · obtain ⟨x, was, keyed⟩ := known k (P.wait_law _ _ _ before)
        refine ⟨x, ?_, keyed⟩
        simp only [after]
        split
        · exact List.mem_cons_of_mem _ was
        · exact was
      · refine ⟨e, ?_, keyed⟩
        simp only [after, serve, accepted, if_true]
        exact List.mem_cons_self

end Process

/-! ### What an accepted text needs -/

/-- The key of a client with an identifier, as it stands at a time. -/
def current_key (published : Published) (client : Client) (t : Nat) (kid : String) : Option JwkPub :=
  match client.jwks.find? fun k => k.kid == kid with
  | some j => some j
  | none => client.jwks_uri.bind fun uri =>
    (JwksResolver.fetch published t uri).bind fun keys => JwksResolver.find keys kid

/-- A text that the client has signed, with claims that hold at a time. -/
inductive Valid (published : Published) (p : Server) (client : Client) (t : Nat) : Verification → Prop where
  | client_assertion {assertion : String} {basic : Option (String × String)} {id : Option String} {a : PrivateKeyJwt.Opened}
      {jwk : JwkPub} {jti : String} {exp : Int} (opened : PrivateKeyJwt.opened p assertion = .ok a)
      (named : a.sub = client.client_id) (method : client.token_endpoint_auth_method = "private_key_jwt")
      (key : current_key published client t a.kid = some jwk) (signature : PrivateKeyJwt.check_signature p a jwk = .ok ())
      (fresh : PrivateKeyJwt.fresh a.payload t = .ok (jti, exp)) : Valid published p client t (.client_assertion assertion basic id)
  | request_object {jwt : String} {payload : Json} {jti : String} {exp : Int}
      (opened : request_object.opened p client jwt = .ok payload)
      (addressed : request_object.addressed p client payload = .ok ())
      (fresh : request_object.fresh payload t = .ok (jti, exp)) : Valid published p client t (.request_object client jwt)

/-- The key that was fetched for an assertion some time ago, and is still used,
    does not verify it. -/
def Stale (r : JwksResolver) (p : Server) (client : Client) (t : Nat) : Verification → Prop
  | .client_assertion assertion .. => ∃ a uri c, PrivateKeyJwt.opened p assertion = .ok a ∧
      (client.jwks.find? fun k => k.kid == a.kid) = none ∧ client.jwks_uri = some uri ∧
      r.cache.get uri = some c ∧ t < c.expires_at ∧
      ∀ jwk, JwksResolver.find c.keys a.kid = some jwk → PrivateKeyJwt.check_signature p a jwk ≠ .ok ()
  | _ => False

section accepted
variable {σ : Type} (P : Process σ) {published : Published} {p : Server} {client : Client} {t : Nat}

private theorem run_now {α : Type} (f : Nat → Prog Host α) (s : σ) :
    Prog.run (P.exec published) (now >>= f) s = Prog.run (P.exec published) (f (P.clock s)) s := by
  rw [now, Prog.call_bind, Prog.run_call, P.now_law]
  rfl

/-- The key the process finds, and whether it verifies the assertion. -/
private theorem run_key_of {s : σ} (clock : P.clock s = t) {assertion : String} (basic : Option (String × String))
    (id : Option String) {a : PrivateKeyJwt.Opened} {jwk : JwkPub} (opened : PrivateKeyJwt.opened p assertion = .ok a)
    (key : current_key published client t a.kid = some jwk) (signature : PrivateKeyJwt.check_signature p a jwk = .ok ()) :
    (P.clock (Prog.run (P.exec published) (PrivateKeyJwt.key_of client a.kid) s).2 = t ∧
      ∀ k, P.remembers (Prog.run (P.exec published) (PrivateKeyJwt.key_of client a.kid) s).2 k ↔ P.remembers s k) ∧
    ((∃ j, (Prog.run (P.exec published) (PrivateKeyJwt.key_of client a.kid) s).1 = .ok j ∧
        PrivateKeyJwt.check_signature p a j = .ok ()) ↔
      ¬ Stale (P.jwks s) p client t (.client_assertion assertion basic id)) := by
  unfold current_key at key
  cases inline : client.jwks.find? fun k => k.kid == a.kid with
  | some j =>
    simp only [inline, Option.some.injEq] at key
    subst key
    have run : PrivateKeyJwt.key_of client a.kid = .ret (.ok j) := by simp [PrivateKeyJwt.key_of, inline]
    rw [run]
    refine ⟨⟨clock, fun _ => Iff.rfl⟩, fun _ => ?_, fun _ => ⟨j, rfl, signature⟩⟩
    rintro ⟨b, uri, c, again, none, -⟩
    obtain rfl : a = b := by simpa [opened] using again
    simp [inline] at none
  | none =>
    cases published_at : client.jwks_uri with
    | none => simp [inline, published_at] at key
    | some uri =>
      simp only [inline, published_at, Option.bind_some] at key
      obtain ⟨same, -, kept⟩ := P.read_law published (.resolve_jwk uri a.kid) s trivial
      have answer := P.jwk_law published uri a.kid s
      have run : Prog.run (P.exec published) (PrivateKeyJwt.key_of client a.kid) s =
          (ok_or (P.exec published (.resolve_jwk uri a.kid) s).1 (PrivateKeyJwt.bad "no matching kid (jwks_uri)"),
            (P.exec published (.resolve_jwk uri a.kid) s).2) := by
        simp only [PrivateKeyJwt.key_of, inline, published_at]
        rw [Prog.run_bind, resolve_jwk, Prog.run_call, Prog.run_ret]
        cases (P.exec published (.resolve_jwk uri a.kid) s).1 <;> rfl
      rw [run, answer, clock]
      refine ⟨⟨same.trans clock, kept⟩, ?_⟩
      simp only [ok_or_eq_ok]
      -- Which keys the resolver looks into.
      cases cached : ((P.jwks s).cache.get uri).filter fun c => c.expires_at > t with
      | none =>
        obtain ⟨keys, fetched, found⟩ := Option.bind_eq_some_iff.mp key
        simp only [JwksResolver.resolve, cached, fetched]
        refine ⟨fun _ => ?_, fun _ => ⟨jwk, found, signature⟩⟩
        rintro ⟨b, other, c, again, -, named, stored, young, -⟩
        rw [published_at, Option.some.injEq] at named
        subst named
        simp only [stored, Option.filter_eq_none_iff, Option.some.injEq, decide_eq_true_eq] at cached
        exact cached c rfl young
      | some c =>
        obtain ⟨stored, young⟩ := Option.filter_eq_some_iff.mp cached
        simp only [JwksResolver.resolve, cached]
        constructor
        · rintro ⟨j, found, verifies⟩ ⟨b, other, c', again, -, named, stored', -, fails⟩
          obtain rfl : a = b := by simpa [opened] using again
          rw [published_at, Option.some.injEq] at named
          subst named
          rw [stored, Option.some.injEq] at stored'
          subst stored'
          exact fails j found verifies
        · intro fine
          by_contra none
          refine fine ⟨a, uri, c, opened, inline, published_at, stored, by simpa using young, fun j found verifies => ?_⟩
          exact none ⟨j, found, verifies⟩

/-- A valid text is accepted unless a stale key is used for it or its `jti` is
    remembered. -/
private theorem accepted_iff {s : σ} (known : P.client s p client.client_id = some client) (clock : P.clock s = t)
    {v : Verification} (valid : Valid published p client t v) :
    (Prog.run (P.exec published) (v.run p) s).1 = true ↔ ¬ Stale (P.jwks s) p client t v ∧ ¬ P.remembers s (v.signed.key p) := by
  cases valid with
  | @client_assertion assertion basic id a jwk jti exp opened named method key signature fresh =>
    obtain ⟨⟨later, kept⟩, found⟩ := run_key_of P clock basic id opened key signature
    show (Prog.run (P.exec published) (PrivateKeyJwt.authenticate p ⟨basic, id, some assertion⟩ >>= fun r => .ret r.toBool) s).1
      = true ↔ _
    simp only [PrivateKeyJwt.authenticate, opened]
    rw [Prog.run_bind, Prog.run_bind, P.client_law, named, known]
    dsimp only
    rw [if_neg (not_not_intro method), Prog.run_bind]
    generalize Prog.run (P.exec published) (PrivateKeyJwt.key_of client a.kid) s = looked at later kept found ⊢
    obtain ⟨_ | j, s₁⟩ := looked
    · simp only [reduceCtorEq, false_and, exists_false, false_iff, not_not] at found
      simp [found, Except.toBool]
    · simp only [Except.ok.injEq, exists_eq_left'] at found
      dsimp only at later kept ⊢
      cases verifies : PrivateKeyJwt.check_signature p a j with
      | error e =>
        simp only [verifies, reduceCtorEq, false_iff, not_not] at found
        simp [found, Except.toBool]
      | ok u =>
        obtain ⟨-, -, won, -⟩ := P.claim_law published .client_assertion ("cjwt:" ++ jti) (exp - t).toNat s₁
        simp only [verifies, true_iff] at found
        rw [show (Verification.client_assertion assertion basic id).signed = .client_assertion assertion from rfl,
          assertion_key opened fresh, ← kept, ← won]
        rw [run_now, later]
        simp only [fresh, claim, Prog.call_bind, Prog.run_call, Prog.ret_bind]
        cases (P.exec published (.claim .client_assertion ("cjwt:" ++ jti) (exp - t).toNat) s₁).1 <;>
          simp [found, Except.toBool]
  | @request_object jwt payload jti exp opened addressed fresh =>
    obtain ⟨-, -, won, -⟩ := P.claim_law published .request_object ("jar:" ++ jti) (exp - t).toNat s
    show (Prog.run (P.exec published) (request_object.verify p client jwt >>= fun r => .ret r.toBool) s).1 = true ↔ _
    rw [show (Verification.request_object client jwt).signed = .request_object jwt from rfl,
      request_object_key opened fresh, ← won]
    simp only [request_object.verify, opened, addressed]
    rw [Prog.run_bind, run_now, clock]
    simp only [fresh, claim, Prog.call_bind, Prog.run_call, Prog.ret_bind]
    cases (P.exec published (.claim .request_object ("jar:" ++ jti) (exp - t).toNat) s).1
    · simp [Except.toBool]
    · simp [Stale, params_ok addressed]

end accepted

/-! ### Two runs -/

/-- The key texts of the nonce stores do not overlap. -/
private theorem key_of_text {p : Server} {i j : Signed} (same : (i.key p).2 = (j.key p).2) : i.key p = j.key p := by
  have lists := congrArg String.toList same
  cases i <;> cases j <;>
    first
    | exact Prod.ext rfl same
    | simp [Signed.key] at lists

variable {σ : Type} (P : Process σ) (p : Server) (client : Client) (t : Nat) (v : Verification)

/-- A request that another client made before was accepted under the same `jti`
    in the same role, and that is still remembered. -/
def Burnt (w : World σ) : Prop :=
  P.remembers (P.wait t w.state) (v.signed.key p) ∧
    ∃ e ∈ w.accepted, sender p e.request ≠ some client.client_id ∧ e.request.signed.key p = v.signed.key p

/-- Other requests get in the way of a text at a time: through its `jti`, or
    through the keys that were fetched for them. -/
def Blocked (w : World σ) : Prop :=
  Burnt P p client t v w ∨ Stale (P.jwks (P.wait t w.state)) p client t v

variable {P p client t v}

/-- A fresh, valid text of a client is accepted unless it is blocked. -/
private theorem accepted_iff_not_blocked {published : Published} {s : σ} (blank : ∀ k, ¬ P.remembers s k)
    (known : P.client s p client.client_id = some client) {events : List Event} (start : P.clock s ≤ t)
    (past : ∀ e ∈ events, e.time ≤ t) (valid : Valid published p client t v)
    (unused : ∀ e ∈ events, sender p e.request = some client.client_id → e.request.signed.key p ≠ v.signed.key p) :
    (P.serve published p (P.run published p s events).state ⟨t, v⟩).1 = true ↔
      ¬ Blocked P p client t v (P.run published p s events) := by
  obtain ⟨clock, clients, listed, accepted⟩ := P.remembered_accepted (p := p) blank events
  have now : P.clock (P.wait t (P.run published p s events).state) = t := by
    rw [P.wait_clock]
    exact max_eq_right (clock t start past)
  have same : P.client (P.wait t (P.run published p s events).state) p client.client_id = some client := by
    rw [P.wait_client, clients, known]
  have burnt : Burnt P p client t v (P.run published p s events) ↔
      P.remembers (P.wait t (P.run published p s events).state) (v.signed.key p) := by
    refine ⟨fun burnt => burnt.1, fun held => ⟨held, ?_⟩⟩
    obtain ⟨e, was, keyed⟩ := accepted _ (P.wait_law _ _ _ held)
    have key := key_of_text keyed.symm
    exact ⟨e, was, fun own => unused e (listed e was) own key, key⟩
  unfold Process.serve
  rw [accepted_iff P same now valid, Blocked, burnt, not_or, and_comm]

/-! ### Both kinds of process -/

/-- A process in memory remembers a key until its time comes. -/
def memoryProcess : Process MemoryHost where
  exec := MemoryHost.exec
  clock := fun m => m.mem.clock
  wait := fun t m => { m with mem := { m.mem with clock := max m.mem.clock t } }
  remembers := fun m k => ∃ e, (m.nonces k.1).get k.2 = some e ∧ m.mem.clock < e
  jwks := MemoryHost.jwks
  client := fun _ p id => p.clients.find? fun c => c.client_id == id
  wait_clock := fun _ _ => rfl
  wait_client := fun _ _ => rfl
  wait_law := by
    rintro t s k ⟨e, held, young⟩
    exact ⟨e, held, (le_max_left ..).trans_lt young⟩
  now_law := fun _ _ => rfl
  read_law := by
    intro published o s reads
    cases o with
    | firestore o => exact ⟨rfl, rfl, fun _ => Iff.rfl⟩
    | resolve_jwk jwks_uri kid => exact ⟨rfl, rfl, fun _ => Iff.rfl⟩
    | backend o => exact reads.elim
    | claim jti key ttl => exact reads.elim
  claim_law := by
    intro published jti key ttl s
    refine ⟨rfl, rfl, ?_, ?_⟩
    · simp only [MemoryHost.exec, MemoryHost.claim, Table.get_retain]
      cases stored : (s.nonces jti).get key with
      | none => simp
      | some e => by_cases young : s.mem.clock < e <;> simp [young]
    · rintro ⟨other, k⟩ ⟨e, held, young⟩
      simp only [MemoryHost.exec] at held young ⊢
      by_cases same : other = jti
      · subst same
        simp only [Function.update_self, MemoryHost.claim] at held ⊢
        split at held
        · obtain ⟨stored, -⟩ := Option.filter_eq_some_iff.mp ((Table.get_retain ..).symm.trans held)
          exact .inl ⟨e, stored, young⟩
        · by_cases own : k = key
          · rename_i absent
            rw [if_neg absent]
            exact .inr ⟨rfl, own⟩
          · rw [Table.get_set_ne _ own] at held
            obtain ⟨stored, -⟩ := Option.filter_eq_some_iff.mp ((Table.get_retain ..).symm.trans held)
            exact .inl ⟨e, stored, young⟩
      · rw [Function.update_of_ne same] at held
        exact .inl ⟨e, held, young⟩
  client_law := by
    intro published p id s
    unfold Server.resolve_client
    cases p.clients.find? fun c => c.client_id == id with
    | some c => rfl
    | none => cases p.has_firestore <;> rfl
  jwk_law := fun _ _ _ _ => rfl

/-- A process on Firestore remembers a key as long as its document is there. -/
def firestoreProcess : Process FirestoreHost where
  exec := FirestoreHost.exec
  clock := fun m => m.db.clock
  wait := fun t m => { m with db := { m.db with clock := max m.db.clock t } }
  remembers := fun m k => (m.db.docs.get (.nonces, k.2)).isSome = true
  jwks := FirestoreHost.jwks
  client := fun m p id => match p.clients.find? fun c => c.client_id == id with
    | some c => some c
    | none => if p.has_firestore then
        ((m.db.docs.get (.clients, id)).bind Firestore.Db.readable).bind fun fields =>
          (Firestore.field_str fields "json").bind p.client_from_str
      else none
  wait_clock := fun _ _ => rfl
  wait_client := fun _ _ => rfl
  wait_law := fun _ _ _ held => held
  now_law := fun _ _ => rfl
  read_law := by
    intro published o s reads
    cases o with
    | firestore o =>
      cases o with
      | get_doc col id => exact ⟨rfl, rfl, fun _ => Iff.rfl⟩
      | _ => exact reads.elim
    | resolve_jwk jwks_uri kid => exact ⟨rfl, rfl, fun _ => Iff.rfl⟩
    | backend o => exact reads.elim
    | claim jti key ttl => exact reads.elim
  claim_law := by
    intro published jti key ttl s
    have ran : FirestoreHost.exec published (.claim jti key ttl) s =
        if (s.db.docs.get (.nonces, key)).isNone then
          (true, ⟨s.db.write (.nonces, key) (.ofEntries [("expiresAt", some (Firestore.ts (s.db.clock + ttl)))]), s.jwks⟩)
        else (false, s) := by
      simp only [FirestoreHost.exec, production, claim_doc, Firestore.fs, Prog.call_bind, Prog.run_call, Prog.ret_bind,
        Firestore.exec]
      cases s.db.docs.get (.nonces, key) <;> rfl
    rw [ran]
    split
    · rename_i absent
      refine ⟨rfl, ?_, by simpa using absent, ?_⟩
      · funext p id
        simp [Firestore.Db.write, Table.get_set]
      · rintro ⟨other, k⟩ held
        simp only [Firestore.Db.write, Table.get_set, Prod.mk.injEq, true_and] at held
        split at held
        · rename_i own
          exact .inr ⟨rfl, own⟩
        · exact .inl held
    · rename_i present
      refine ⟨rfl, rfl, ?_, fun _ => .inl⟩
      cases found : s.db.docs.get (.nonces, key) with
      | none => simp [found] at present
      | some doc => simp
  client_law := by
    intro published p id s
    unfold Server.resolve_client
    cases p.clients.find? fun c => c.client_id == id with
    | some c => rfl
    | none =>
      cases p.has_firestore with
      | false => rfl
      | true =>
        simp only [if_true, dcr_store.load_client, fs, Prog.call_bind, Prog.run_call, FirestoreHost.exec, production,
          Firestore.fs, Prog.run_ret, Firestore.exec]
        cases (s.db.docs.get (.clients, id)).bind Firestore.Db.readable <;> rfl
  jwk_law := fun _ _ _ _ => rfl

end RustOp.Web.CrossClient

namespace RustOp.Deployment
open RustOp.Web RustOp.Web.CrossClient

@[reducible] def ProcessState : Deployment → Type
  | .memory => MemoryHost
  | .firestore => FirestoreHost

def process : (d : Deployment) → Process d.ProcessState
  | .memory => memoryProcess
  | .firestore => firestoreProcess

end RustOp.Deployment

namespace RustOp.Web.CrossClient
open RustOp.Effects RustOp.Web.AcceptedOnce

def silent : Published := fun _ _ => none

/-- A valid assertion with the `jti` `"j"`, served alone in memory. -/
private theorem serve_assertion {m : MemoryHost} {t : Nat} (ttl : Nat) {assertion : String} {a : PrivateKeyJwt.Opened} {client : Client}
    {jwk : JwkPub} (opened : PrivateKeyJwt.opened Reference.server assertion = .ok a)
    (known : (Reference.server.clients.find? fun c => c.client_id == a.sub) = some client)
    (method : client.token_endpoint_auth_method = "private_key_jwt")
    (registered : (client.jwks.find? fun k => k.kid == a.kid) = some jwk)
    (signature : PrivateKeyJwt.check_signature Reference.server a jwk = .ok ())
    (fresh : PrivateKeyJwt.fresh a.payload t = .ok ("j", (t + ttl : Nat))) (past : max m.mem.clock t = t) :
    memoryProcess.serve silent Reference.server m ⟨t, .client_assertion assertion none none⟩ =
      MemoryHost.exec silent (.claim .client_assertion ("cjwt:" ++ "j") ttl) { m with mem := { m.mem with clock := t } } := by
  show Prog.run (MemoryHost.exec silent) (PrivateKeyJwt.authenticate _ _ >>= fun r => .ret r.toBool)
    { m with mem := { m.mem with clock := max m.mem.clock t } } = _
  rw [past, Prog.run_bind]
  have resolved : Prog.run (MemoryHost.exec silent) (Reference.server.resolve_client a.sub)
      { m with mem := { m.mem with clock := t } } = (some client, { m with mem := { m.mem with clock := t } }) := by
    simp only [Server.resolve_client, known]
    rfl
  rw [PrivateKeyJwt.run_authenticate none none opened resolved method registered signature (t := t) rfl fresh]
  rw [show (((t + ttl : Nat) : Int) - (t : Int)).toNat = ttl by omega]
  cases found : MemoryHost.exec silent (.claim .client_assertion ("cjwt:" ++ "j") ttl)
    { m with mem := { m.mem with clock := t } } with
  | mk answer after => cases answer <;> rfl

/-- The assertion of `rp2` at 1000, and that of `rp1` a second later. -/
def rp2Event : Event := ⟨1000, .client_assertion Reference.rp2Assertion none none⟩
def rp1Event : Event := ⟨1001, .client_assertion Reference.rp1Assertion none none⟩

private theorem sender_rp2 : sender Reference.server rp2Event.request = some "rp2" := by
  have claims := assertion_claims Reference.opened_rp2
  simp only [rp2Event, sender, claims, Option.bind_some]
  rfl

private theorem valid_rp1 : Valid silent Reference.server Reference.rp1 1001 rp1Event.request :=
  .client_assertion Reference.opened_rp1 rfl rfl rfl Reference.signature_rp1
    (show _ = Except.ok ("j", (1300 : Int)) by decide)

private theorem rp2_accepted : memoryProcess.run silent Reference.server AcceptedOnce.blank [rp2Event] =
    ⟨(MemoryHost.exec silent (.claim .client_assertion ("cjwt:" ++ "j") 300) AcceptedOnce.blank).2, [rp2Event]⟩ := by
  have served := serve_assertion (m := AcceptedOnce.blank) (t := 1000) 300 Reference.opened_rp2
    (show _ = some Reference.rp2 from rfl) rfl rfl Reference.signature_rp2 (by decide) rfl
  show memoryProcess.after _ _ _ _ = _
  simp only [Process.after, rp2Event, served]
  rfl

private theorem rp1_first : (memoryProcess.serve silent Reference.server AcceptedOnce.blank rp1Event).1 = true := by
  rw [rp1Event, serve_assertion 299 Reference.opened_rp1 (show _ = some Reference.rp1 from rfl) rfl rfl Reference.signature_rp1
    (by decide) rfl]
  rfl

private theorem rp1_second : (memoryProcess.serve silent Reference.server
    (memoryProcess.run silent Reference.server AcceptedOnce.blank [rp2Event]).state rp1Event).1 = false := by
  rw [rp2_accepted, rp1Event, serve_assertion 299 Reference.opened_rp1 (show _ = some Reference.rp1 from rfl) rfl rfl
    Reference.signature_rp1 (by decide) rfl]
  decide

private theorem own_requests : ([] : List Event).filter (fun e => sender Reference.server e.request = some "rp1") =
    [rp2Event].filter (fun e => sender Reference.server e.request = some "rp1") := by
  refine (List.filter_eq_nil_iff.mpr fun e listed => ?_).symm
  obtain rfl := List.mem_singleton.mp listed
  rw [sender_rp2]
  decide

private theorem unused_rp1 : ∀ e ∈ ([] : List Event), sender Reference.server e.request = some "rp1" →
    e.request.signed.key Reference.server ≠ rp1Event.request.signed.key Reference.server := by
  intro e listed
  cases listed

end RustOp.Web.CrossClient
