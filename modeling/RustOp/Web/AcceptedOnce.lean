import RustOp.Web.Reference
import RustOp.Deployment
import RustOp.Effects.Retention

/-!
No signed text is accepted twice. A proof, assertion or request object is young
enough for a while only, and its `jti` is remembered for at least as long, in
memory and on Firestore.
-/
namespace RustOp.Web.AcceptedOnce
open RustOp.Effects RustOp.Effects.Checks RustOp.Text

/-! ### Signed texts -/

/-- A signed text, by the verification that it is for. -/
inductive Signed where
  | dpop (proof : String)
  | client_assertion (assertion : String)
  | request_object (jwt : String)
deriving DecidableEq, Repr

namespace Signed

def text : Signed → String
  | .dpop s | .client_assertion s | .request_object s => s

/-- The claims inside, whoever signed them. -/
def claims (p : Server) (i : Signed) : Option Json := do
  let parts ← Compact.parse i.text
  let bytes ← (es256.b64url_decode p.toJose parts.payload).toOption
  (p.from_slice bytes).toOption

def jti (p : Server) (i : Signed) : String := ((i.claims p).bind (·.get_str "jti")).getD ""

/-- The key under which it is remembered. -/
def key (p : Server) (i : Signed) : NonceStore × String :=
  match i with
  | .dpop _ => (.dpop, "dpop:" ++ i.jti p)
  | .client_assertion _ => (.client_assertion, "cjwt:" ++ i.jti p)
  | .request_object _ => (.request_object, "jar:" ++ i.jti p)

/-- The first second at which it is too old. -/
def limit (p : Server) (i : Signed) : Nat :=
  match i with
  | .dpop _ => (((i.claims p).bind (·.get_i64 "iat")).getD 0 + Es256Dpop.IAT_SKEW_SECS + 1).toNat
  | .client_assertion _ | .request_object _ => (((i.claims p).bind (·.get_i64 "exp")).getD 0).toNat

end Signed

/-- A verification: a signed text and what it is checked against. -/
inductive Verification where
  | dpop (proof htm htu : String) (expected_ath : Option String)
  | client_assertion (assertion : String) (basic : Option (String × String)) (body_client_id : Option String)
  | request_object (client : Client) (jwt : String)

namespace Verification

def signed : Verification → Signed
  | .dpop proof .. => .dpop proof
  | .client_assertion assertion .. => .client_assertion assertion
  | .request_object _ jwt => .request_object jwt

/-- Whether the text is accepted. -/
def run (p : Server) : Verification → Prog Host Bool
  | .dpop proof htm htu expected_ath => do return (← Es256Dpop.verify p proof htm htu expected_ath).toBool
  | .client_assertion assertion basic body_client_id => do
    return (← PrivateKeyJwt.authenticate p ⟨basic, body_client_id, some assertion⟩).toBool
  | .request_object client jwt => do return (← request_object.verify p client jwt).toBool

end Verification
/-! ### What a verification does -/

/-- The reads of a verification. -/
def Reads : HostOp → Prop
  | .firestore (.get_doc ..) => True
  | .resolve_jwk .. => True
  | _ => False

/-- A verification reads, looks at the clock, and claims its key last, for at
    least as long as the text stays young enough. Whoever wins the claim is
    accepted, and nobody else. -/
inductive Verifies (p : Server) (i : Signed) : Option Nat → Prog Host Bool → Prop where
  | refused (t : Option Nat) : Verifies p i t (.ret false)
  | read {o : HostOp} {k : o.Res → Prog Host Bool} (reads : Reads o) (rest : ∀ r, Verifies p i none (k r)) :
      Verifies p i none (.call o k)
  | clock {k : Nat → Prog Host Bool} (rest : ∀ t, Verifies p i (some t) (k t)) :
      Verifies p i none (.call (.backend .now) k)
  | claim {t ttl : Nat} {jti : NonceStore} {key : String} {k : Bool → Prog Host Bool} (keyed : i.key p = (jti, key))
      (young : t < i.limit p) (long : i.limit p ≤ t + ttl) (lost : k false = .ret false) (won : k true = .ret true) :
      Verifies p i (some t) (.call (.claim jti key ttl) k)

section verifications
variable {p : Server}

/-- Reading first. -/
private theorem Verifies.after_reads {i : Signed} {α : Type} {q : Prog Host α} {f : α → Prog Host Bool}
    (uses : q.Uses Reads) (rest : ∀ a, Verifies p i none (f a)) : Verifies p i none (q >>= f) := by
  induction q with
  | ret a => exact rest a
  | call o k ih => exact .read uses.1 fun r => ih r (uses.2 r)

private theorem opened_claims {proof x y : String} {payload : Json}
    (opened : Es256Dpop.opened p proof = .ok ((x, y), payload)) : (Signed.dpop proof).claims p = some payload := by
  obtain ⟨parts, parsed, _, -, _, -, -, -, _, -, -, -, -, -, _, -, _, -, _, -, _, -, _, -, -, bytes, decoded, read⟩ :=
    Es256Dpop.opened_eq_ok.mp opened
  simp [Signed.claims, Signed.text, parsed, decoded, read, Except.toOption]

theorem assertion_claims {assertion : String} {a : PrivateKeyJwt.Opened}
    (opened : PrivateKeyJwt.opened p assertion = .ok a) : (Signed.client_assertion assertion).claims p = some a.payload := by
  obtain ⟨parts, _, _, bytes, payload, parsed, -, -, -, decoded, read, -, -, rfl⟩ := PrivateKeyJwt.opened_eq_ok.mp opened
  simp [Signed.claims, Signed.text, parsed, decoded, read, Except.toOption]

private theorem request_object_claims {client : Client} {jwt : String} {payload : Json}
    (opened : request_object.opened p client jwt = .ok payload) : (Signed.request_object jwt).claims p = some payload := by
  simp only [request_object.opened, request_object.dec, bind_eq_ok, ok_or_eq_ok, mapError_eq_ok, refuse_eq_ok,
    exists_const] at opened
  obtain ⟨parts, parsed, _, -, _, -, -, _, -, _, -, _, -, _, -, _, -, _, -, -, bytes, decoded, read⟩ := opened
  simp [Signed.claims, Signed.text, parsed, decoded, read, Except.toOption]

private theorem dpop_fresh {payload : Json} {iat now : Int} {expected_ath : Option String} {jti : String}
    (fresh : Es256Dpop.fresh payload iat now expected_ath = .ok jti) :
    payload.get_str "jti" = some jti ∧ -60 ≤ now - iat ∧ now - iat ≤ 60 := by
  simp only [Es256Dpop.fresh, bind_eq_ok, ok_or_eq_ok, refuse_eq_ok, exists_const] at fresh
  obtain ⟨window, -, named⟩ := fresh
  exact ⟨named, abs_le.mp (not_lt.mp window)⟩

private theorem dpop_addressed {payload : Json} {htm htu : String} {iat : Int}
    (addressed : Es256Dpop.addressed p payload htm htu = .ok iat) : payload.get_i64 "iat" = some iat := by
  simp only [Es256Dpop.addressed, bind_eq_ok, ok_or_eq_ok, refuse_eq_ok, exists_const] at addressed
  exact addressed.2.2

private theorem assertion_fresh {payload : Json} {now exp : Int} {jti : String}
    (fresh : PrivateKeyJwt.fresh payload now = .ok (jti, exp)) :
    (payload.get_str "jti").getD "" = jti ∧ payload.get_i64 "exp" = some exp ∧ now < exp := by
  simp only [PrivateKeyJwt.fresh, bind_eq_ok, ok_or_eq_ok, refuse_eq_ok, pure_eq_ok, exists_const] at fresh
  obtain ⟨_, expires, window, -, -, same⟩ := fresh
  cases same
  simp only [PrivateKeyJwt.exp_in_window, Bool.not_eq_true', Bool.and_eq_false_imp, decide_eq_true_eq] at window
  refine ⟨rfl, expires, ?_⟩
  by_contra late
  exact window fun early => absurd early late

private theorem request_object_fresh {payload : Json} {now exp : Int} {jti : String}
    (fresh : request_object.fresh payload now = .ok (jti, exp)) :
    (payload.get_str "jti").getD "" = jti ∧ payload.get_i64 "exp" = some exp ∧ now < exp := by
  simp only [request_object.fresh, bind_eq_ok, ok_or_eq_ok, refuse_eq_ok, pure_eq_ok, exists_const] at fresh
  obtain ⟨_, expires, window, -, _, -, -, -, -, -, same⟩ := fresh
  cases same
  exact ⟨rfl, expires, by omega⟩

theorem assertion_key {assertion : String} {a : PrivateKeyJwt.Opened} {now exp : Int} {jti : String}
    (opened : PrivateKeyJwt.opened p assertion = .ok a) (fresh : PrivateKeyJwt.fresh a.payload now = .ok (jti, exp)) :
    (Signed.client_assertion assertion).key p = (.client_assertion, "cjwt:" ++ jti) := by
  show (NonceStore.client_assertion, "cjwt:" ++ Signed.jti p (.client_assertion assertion)) = _
  rw [Signed.jti, assertion_claims opened, Option.bind_some, (assertion_fresh fresh).1]

theorem request_object_key {client : Client} {jwt : String} {payload : Json} {now exp : Int} {jti : String}
    (opened : request_object.opened p client jwt = .ok payload) (fresh : request_object.fresh payload now = .ok (jti, exp)) :
    (Signed.request_object jwt).key p = (.request_object, "jar:" ++ jti) := by
  show (NonceStore.request_object, "jar:" ++ Signed.jti p (.request_object jwt)) = _
  rw [Signed.jti, request_object_claims opened, Option.bind_some, (request_object_fresh fresh).1]

/-- Claims that name their issuer are an object, so they give parameters. -/
theorem params_ok {client : Client} {payload : Json} (addressed : request_object.addressed p client payload = .ok ()) :
    (request_object.params p client payload).toBool = true := by
  simp only [request_object.addressed, bind_eq_ok, refuse_eq_ok, exists_const, not_not] at addressed
  have named := addressed.1
  cases payload with
  | obj fields => rfl
  | _ => cases named

theorem dpop_verifies (proof htm htu : String) (expected_ath : Option String) :
    Verifies p (.dpop proof) none ((Verification.dpop proof htm htu expected_ath).run p) := by
  simp only [Verification.run, Es256Dpop.verify]
  split
  · exact .refused none
  · rename_i opened
    split
    · exact .refused none
    · rename_i iat addressed
      refine .clock fun t => ?_
      dsimp only [Prog.bind]
      split
      · exact .refused _
      · rename_i fresh
        obtain ⟨named, early, late⟩ := dpop_fresh fresh
        have issued := dpop_addressed addressed
        have claims := opened_claims opened
        have key : (Signed.dpop proof).key p = (.dpop, "dpop:" ++ _) := rfl
        have limit : (Signed.dpop proof).limit p = (iat + 60 + 1).toNat := by
          rw [Signed.limit, claims, Option.bind_some, issued, Option.getD_some, Es256Dpop.IAT_SKEW_SECS]
        rw [Signed.jti, claims, Option.bind_some, named] at key
        refine .claim key ?_ ?_ rfl rfl
        · rw [limit]
          omega
        · rw [limit, Es256Dpop.JTI_TTL]
          omega

theorem assertion_verifies (assertion : String) (basic : Option (String × String)) (id : Option String) :
    Verifies p (.client_assertion assertion) none ((Verification.client_assertion assertion basic id).run p) := by
  simp only [Verification.run, PrivateKeyJwt.authenticate]
  split
  · exact .refused none
  · rename_i a opened
    rw [bind_assoc]
    refine Verifies.after_reads (resolve_client_uses (fun _ _ => trivial) p _) fun client => ?_
    cases client with
    | none => exact .refused none
    | some client =>
      dsimp only
      split
      · exact .refused none
      · rw [bind_assoc]
        refine Verifies.after_reads (key_of_uses (fun _ _ => trivial) ..) fun jwk => ?_
        cases jwk with
        | error e => exact .refused none
        | ok jwk =>
          dsimp only
          split
          · exact .refused none
          · refine .clock fun t => ?_
            dsimp only [Prog.bind]
            split
            · exact .refused _
            · rename_i jti exp fresh
              obtain ⟨-, expires, young⟩ := assertion_fresh fresh
              have limit : (Signed.client_assertion assertion).limit p = exp.toNat := by
                rw [Signed.limit, assertion_claims opened, Option.bind_some, expires, Option.getD_some]
              refine .claim (assertion_key opened fresh) ?_ ?_ rfl rfl
              · rw [limit]
                omega
              · rw [limit]
                omega

theorem request_object_verifies (client : Client) (jwt : String) :
    Verifies p (.request_object jwt) none ((Verification.request_object client jwt).run p) := by
  simp only [Verification.run, request_object.verify]
  split
  · exact .refused none
  · rename_i payload opened
    split
    · exact .refused none
    · rename_i addressed
      refine .clock fun t => ?_
      dsimp only [Prog.bind]
      split
      · exact .refused _
      · rename_i jti exp fresh
        obtain ⟨-, expires, young⟩ := request_object_fresh fresh
        have limit : (Signed.request_object jwt).limit p = exp.toNat := by
          rw [Signed.limit, request_object_claims opened, Option.bind_some, expires, Option.getD_some]
        refine .claim (request_object_key opened fresh) ?_ ?_ rfl ?_
        · rw [limit]
          omega
        · rw [limit]
          omega
        · exact congrArg Prog.ret (params_ok addressed)

theorem Verification.verifies (v : Verification) : Verifies p v.signed none (v.run p) := by
  cases v with
  | dpop proof htm htu expected_ath => exact dpop_verifies ..
  | client_assertion assertion basic id => exact assertion_verifies ..
  | request_object client jwt => exact request_object_verifies ..

end verifications

/-! ### Nonce stores -/

/-- A process seen through its nonce stores: which keys it remembers until when. -/
structure NonceBook (σ : Type) where
  sem : Sem Host σ
  /-- What happens between verifications. -/
  env : σ → σ → Prop
  clock : σ → Nat
  held : σ → NonceStore × String → Nat → Prop
  now_law : ∀ {s t s'}, sem (.backend .now) s t s' → t = clock s ∧ s' = s
  read_law : ∀ {o s r s'}, Reads o → sem o s r s' → clock s' = clock s ∧ ∀ k e, held s k e → held s' k e
  claim_law : ∀ {jti key ttl s r s'}, sem (.claim jti key ttl) s r s' →
    clock s' = clock s ∧ ∀ k e, held s k e → clock s < e → held s' k e
  fresh_law : ∀ {jti key ttl s s'}, sem (.claim jti key ttl) s true s' →
    (∀ e, clock s < e → ¬ held s (jti, key) e) ∧ held s' (jti, key) (clock s + ttl)
  env_law : ∀ {s s'}, env s s' → clock s ≤ clock s' ∧ ∀ k e, held s k e → clock s' < e → held s' k e

namespace NonceBook
variable {σ : Type} (b : NonceBook σ) {p : Server} {i : Signed} {q : Prog Host Bool} {seen : Option Nat} {s s' : σ}

/-- A verification takes no time and loses no key before its time. -/
theorem run_law (verifies : Verifies p i seen q) {accepted : Bool} (runs : Runs b.sem q s accepted s') :
    b.clock s' = b.clock s ∧ ∀ k e, b.held s k e → b.clock s < e → b.held s' k e := by
  induction verifies generalizing s with
  | refused t =>
    obtain ⟨-, rfl⟩ := runs_ret.mp runs
    exact ⟨rfl, fun _ _ held _ => held⟩
  | read reads rest ih =>
    obtain ⟨r, s₁, does, runs⟩ := runs_call.mp runs
    obtain ⟨same, kept⟩ := b.read_law reads does
    obtain ⟨same', kept'⟩ := ih r runs
    refine ⟨same'.trans same, fun k e held young => kept' k e (kept k e held) ?_⟩
    rw [same]
    exact young
  | clock rest ih =>
    obtain ⟨t, s₁, does, rest⟩ := runs_call.mp runs
    obtain ⟨-, rfl⟩ := b.now_law does
    exact ih t rest
  | claim keyed young long lost won =>
    obtain ⟨r, s₁, does, runs⟩ := runs_call.mp runs
    obtain ⟨same, kept⟩ := b.claim_law does
    cases r with
    | false =>
      rw [lost] at runs
      obtain ⟨-, rfl⟩ := runs_ret.mp runs
      exact ⟨same, kept⟩
    | true =>
      rw [won] at runs
      obtain ⟨-, rfl⟩ := runs_ret.mp runs
      exact ⟨same, kept⟩

/-- A text is accepted while it is young and its key is not held; from then on
    the key is held until the text is too old. -/
theorem accept_law (verifies : Verifies p i seen q) (runs : Runs b.sem q s true s') (read : ∀ t, seen = some t → t = b.clock s) :
    b.clock s < i.limit p ∧ (∀ e, b.clock s < e → ¬ b.held s (i.key p) e) ∧ ∃ e, i.limit p ≤ e ∧ b.held s' (i.key p) e := by
  induction verifies generalizing s with
  | refused t => cases runs
  | read reads rest ih =>
    obtain ⟨r, s₁, does, runs⟩ := runs_call.mp runs
    obtain ⟨same, kept⟩ := b.read_law reads does
    obtain ⟨young, unheld, holds⟩ := ih r runs nofun
    rw [same] at young unheld
    exact ⟨young, fun e later held => unheld e later (kept _ e held), holds⟩
  | clock rest ih =>
    obtain ⟨t, s₁, does, runs⟩ := runs_call.mp runs
    obtain ⟨rfl, rfl⟩ := b.now_law does
    exact ih _ runs fun t same => by cases same; rfl
  | claim keyed young long lost won =>
    obtain ⟨r, s₁, does, runs⟩ := runs_call.mp runs
    obtain rfl := read _ rfl
    cases r with
    | false =>
      rw [lost] at runs
      cases runs
    | true =>
      rw [won] at runs
      obtain ⟨-, rfl⟩ := runs_ret.mp runs
      obtain ⟨unheld, holds⟩ := b.fresh_law does
      rw [keyed]
      exact ⟨young, unheld, _, long, holds⟩

/-- Signed texts at a process, as items whose keys are remembered. -/
def retention (p : Server) : Retention σ Signed (NonceStore × String) where
  clock := b.clock
  held := b.held
  accepts := fun i s s' => ∃ v : Verification, v.signed = i ∧ Runs b.sem (v.run p) s true s'
  passes := fun s s' => (∃ v : Verification, Runs b.sem (v.run p) s false s') ∨ b.env s s'
  key := Signed.key p
  limit := Signed.limit p
  in_time := by
    rintro i s s' ⟨v, rfl, runs⟩
    exact (b.accept_law v.verifies runs nofun).1
  unheld := by
    rintro i s s' ⟨v, rfl, runs⟩
    exact (b.accept_law v.verifies runs nofun).2.1
  holds := by
    rintro i s s' ⟨v, rfl, runs⟩
    exact (b.accept_law v.verifies runs nofun).2.2
  later := by
    rintro s s' ((⟨v, runs⟩ | env) | ⟨i, v, -, runs⟩)
    · exact (b.run_law v.verifies runs).1.ge
    · exact (b.env_law env).1
    · exact (b.run_law v.verifies runs).1.ge
  kept := by
    rintro s s' ((⟨v, runs⟩ | env) | ⟨i, v, -, runs⟩) k e held young
    · obtain ⟨same, kept⟩ := b.run_law v.verifies runs
      exact kept k e held (by omega)
    · exact (b.env_law env).2 k e held young
    · obtain ⟨same, kept⟩ := b.run_law v.verifies runs
      exact kept k e held (by omega)

end NonceBook

section memory

private theorem memory_claim_kept {now ttl e : Nat} {key k : String} {remembered : Table String Nat}
    (held : remembered.get k = some e) (young : now < e) :
    (MemoryHost.claim now key ttl remembered).2.get k = some e := by
  have retained : (remembered.retain fun _ expires => expires > now).get k = some e := by
    simp [Table.get_retain, held, young]
  unfold MemoryHost.claim
  dsimp only
  split
  · exact retained
  · rename_i absent
    have other : k ≠ key := by
      rintro rfl
      simp [retained] at absent
    rw [Table.get_set_ne _ other]
    exact retained

private theorem memory_claim_fresh {now ttl : Nat} {key : String} {remembered : Table String Nat}
    (won : (MemoryHost.claim now key ttl remembered).1 = true) :
    (∀ e, now < e → remembered.get key ≠ some e) ∧
      (MemoryHost.claim now key ttl remembered).2.get key = some (now + ttl) := by
  unfold MemoryHost.claim at won ⊢
  dsimp only at won ⊢
  split at won
  · cases won
  · rename_i absent
    rw [if_neg absent]
    refine ⟨fun e young held => ?_, Table.get_set_self _ _ _⟩
    simp [Table.get_retain, held, young] at absent

/-- In memory an entry is dropped once its time has come. -/
def memoryBook : NonceBook MemoryHost where
  sem := fun o m r m' => ∃ published, MemoryHost.exec published o m = (r, m')
  env := fun m m' => m.mem.clock ≤ m'.mem.clock ∧ ∀ jti key e, (m.nonces jti).get key = some e →
    m'.mem.clock < e → (m'.nonces jti).get key = some e
  clock := fun m => m.mem.clock
  held := fun m k e => (m.nonces k.1).get k.2 = some e
  now_law := by
    rintro s t s' ⟨published, does⟩
    cases does
    exact ⟨rfl, rfl⟩
  read_law := by
    rintro o s r s' reads ⟨published, does⟩
    cases o with
    | firestore o =>
      cases does
      exact ⟨rfl, fun _ _ held => held⟩
    | resolve_jwk jwks_uri kid =>
      cases does
      exact ⟨rfl, fun _ _ held => held⟩
    | backend o => exact reads.elim
    | claim jti key ttl => exact reads.elim
  claim_law := by
    rintro jti key ttl s r s' ⟨published, does⟩
    cases does
    refine ⟨rfl, ?_⟩
    rintro ⟨other, k⟩ e held young
    by_cases same : other = jti
    · subst same
      simpa [MemoryHost.exec] using memory_claim_kept held young
    · simpa [MemoryHost.exec, same] using held
  fresh_law := by
    rintro jti key ttl s s' ⟨published, does⟩
    simp only [MemoryHost.exec, Prod.mk.injEq] at does
    obtain ⟨won, rfl⟩ := does
    obtain ⟨absent, kept⟩ := memory_claim_fresh won
    exact ⟨absent, by simpa using kept⟩
  env_law := by
    rintro s s' ⟨later, kept⟩
    exact ⟨later, fun k e held young => kept k.1 k.2 e held young⟩

end memory

section firestore
open RustOp.Firestore

/-- Whatever time the expiry field names, it has come. -/
def Expired (f : Fields) (now : Nat) : Prop := ∀ e, f.get "expiresAt" = some (ts e) → e ≤ now

/-- A nonce document that is remembered until a time. -/
def HeldDoc (db : Db) (key : String) (e : Nat) : Prop :=
  ∃ doc, db.docs.get (.nonces, key) = some doc ∧ doc.fields.get "expiresAt" = some (ts e)

/-- A request that is no write, and no write to a nonce document that is there,
    keeps every nonce. -/
private theorem held_exec {o : FsOp} (quiet : o.writes = none ∨ ∃ key f, o = .create_if_absent .nonces key f) {db : Db}
    {k : String} {e : Nat} (held : HeldDoc db k e) : HeldDoc (exec o db).2 k e := by
  obtain ⟨doc, stored, named⟩ := held
  refine ⟨doc, ?_, named⟩
  rcases quiet with none | ⟨key, f, rfl⟩
  · rw [exec_frame (by simp [none])]
    exact stored
  · by_cases same : k = key
    · subst same
      simp [exec, stored]
    · rw [exec_frame]
      · exact stored
      · simp only [FsOp.writes, ne_eq, Option.some.injEq, Prod.mk.injEq, true_and]
        exact fun other => same other.symm

private theorem held_sem {o : FsOp} (quiet : o.writes = none ∨ ∃ key f, o = .create_if_absent .nonces key f) {db db' : Db}
    {r : o.Res} (does : sem o db r db') : db'.clock = db.clock ∧ ∀ k e, HeldDoc db k e → HeldDoc db' k e := by
  rcases does with ran | ⟨-, rfl | rfl⟩
  · have after : (exec o db).2 = db' := by rw [ran]
    subst after
    exact ⟨exec_clock o db, fun k e => held_exec quiet⟩
  · exact ⟨rfl, fun _ _ held => held⟩
  · exact ⟨exec_clock o db, fun k e => held_exec quiet⟩

private theorem runs_fs {o : FsOp} {db db' : Db} {r : o.Res} (runs : Runs sem (Firestore.fs o) db r db') : sem o db r db' := by
  obtain ⟨r', s, does, rest⟩ := runs_call.mp runs
  obtain ⟨rfl, rfl⟩ := runs_ret.mp rest
  exact does

/-- The requests of a claim, and what they found if it was won. -/
private theorem claim_doc_spec {key : String} {ttl : Nat} {db db' : Db} {won : Bool}
    (runs : Runs sem (claim_doc key ttl) db won db') :
    ∃ r, sem (.create_if_absent .nonces key (.ofEntries [("expiresAt", some (ts (db.clock + ttl)))])) db r db' ∧
      (won = true → r = .ok true) := by
  obtain ⟨(t : Nat), s, read, runs⟩ := runs_call.mp runs
  obtain ⟨rfl, rfl⟩ := sem_now read
  obtain ⟨r, s', does, runs⟩ := runs_call.mp runs
  rcases r with e | created
  · obtain ⟨rfl, rfl⟩ := runs_ret.mp runs
    exact ⟨_, does, nofun⟩
  · obtain ⟨rfl, rfl⟩ := runs_ret.mp runs
    exact ⟨_, does, fun won => by rw [won]⟩

private theorem created {key : String} {f : Fields} {db db' : Db}
    (does : sem (.create_if_absent .nonces key f) db (.ok true) db') :
    db.docs.get (.nonces, key) = none ∧ db'.docs.get (.nonces, key) = some ⟨f, db.writes + 1⟩ := by
  rcases does with ran | ⟨⟨e, failed⟩, -⟩
  · simp only [exec] at ran
    split at ran
    · rename_i absent
      cases ran
      exact ⟨Option.isNone_iff_eq_none.mp absent, Table.get_set_self _ _ _⟩
    · cases ran
  · cases failed

/-- Firestore may drop a nonce document at any time after its expiry, and its
    requests may fail. -/
def firestoreBook : NonceBook Db where
  sem := fun o db r db' => ∃ jwks, Runs sem (production jwks o) db r db'
  env := fun db db' => db.clock ≤ db'.clock ∧ ∀ key doc, db.docs.get (.nonces, key) = some doc →
    db'.docs.get (.nonces, key) = some doc ∨ Expired doc.fields db'.clock
  clock := Db.clock
  held := fun db k e => HeldDoc db k.2 e
  now_law := by
    rintro s t s' ⟨jwks, runs⟩
    exact sem_now (runs_fs runs)
  read_law := by
    rintro o s r s' reads ⟨jwks, runs⟩
    cases o with
    | firestore o =>
      cases o with
      | get_doc col id =>
        obtain ⟨same, kept⟩ := held_sem (o := .get_doc col id) (.inl rfl) (runs_fs runs)
        exact ⟨same, fun k => kept k.2⟩
      | _ => exact reads.elim
    | resolve_jwk jwks_uri kid =>
      obtain ⟨-, rfl⟩ := runs_ret.mp runs
      exact ⟨rfl, fun _ _ held => held⟩
    | backend o => exact reads.elim
    | claim jti key ttl => exact reads.elim
  claim_law := by
    rintro jti key ttl s r s' ⟨jwks, runs⟩
    obtain ⟨r, does, -⟩ := claim_doc_spec runs
    obtain ⟨same, kept⟩ := held_sem (.inr ⟨_, _, rfl⟩) does
    exact ⟨same, fun k e held _ => kept k.2 e held⟩
  fresh_law := by
    rintro jti key ttl s s' ⟨jwks, runs⟩
    obtain ⟨r, does, won⟩ := claim_doc_spec runs
    obtain rfl := won rfl
    obtain ⟨absent, stored⟩ := created does
    refine ⟨?_, _, stored, by simp [Table.ofEntries, Table.get_put]⟩
    rintro e - ⟨doc, found, -⟩
    rw [absent] at found
    cases found
  env_law := by
    rintro s s' ⟨later, kept⟩
    refine ⟨later, ?_⟩
    rintro k e ⟨doc, stored, named⟩ young
    rcases kept k.2 doc stored with still | expired
    · exact ⟨doc, still, named⟩
    · have := expired e named
      omega

end firestore

/-! ### Every sequence of verifications -/

end RustOp.Web.AcceptedOnce

namespace RustOp.Deployment
open RustOp.Web RustOp.Web.AcceptedOnce

/-- The state of a process, with its nonces. -/
@[reducible] def HostState : Deployment → Type
  | .memory => MemoryHost
  | .firestore => Firestore.Db

def book : (d : Deployment) → NonceBook d.HostState
  | .memory => memoryBook
  | .firestore => firestoreBook

end RustOp.Deployment

namespace RustOp.Web.AcceptedOnce
open RustOp.Effects

/-- One verification at one reading of the clock, which accepts a text or not, or
    something that happens in between. -/
abbrev Step (d : Deployment) (p : Server) : Retention.World d.HostState Signed → Retention.World d.HostState Signed → Prop :=
  (d.book.retention p).Step

/-- Over every sequence of verifications, each signed text is accepted at most
    once. -/
theorem accepted_at_most_once (d : Deployment) (p : Server) {w w' : Retention.World d.HostState Signed}
    (fresh : w.accepted = []) (steps : Relation.ReflTransGen (Step d p) w w') (i : Signed) :
    w'.accepted.count i ≤ 1 :=
  List.nodup_iff_count_le_one.mp ((d.book.retention p).accepted_nodup fresh steps) i

/-- A process in memory that has served nobody. -/
def blank : MemoryHost := { mem := { clock := 1000 } }

private theorem verify_rp1 {m m' : MemoryHost} {fresh : Bool} (clock : m.mem.clock = 1000)
    (claimed : MemoryHost.exec (fun _ _ => none) (.claim .client_assertion ("cjwt:" ++ "j") 300) m = (fresh, m')) :
    Runs memoryBook.sem (Verification.run Reference.server (.client_assertion Reference.rp1Assertion none none)) m fresh m' := by
  have ran := PrivateKeyJwt.run_authenticate (h := MemoryHost.exec fun _ _ => none) (s := m) (t := 1000) none none
    Reference.opened_rp1 (show _ = (some Reference.rp1, m) from rfl) rfl rfl Reference.signature_rp1
    (by rw [← clock]; rfl) (show _ = Except.ok ("j", (1300 : Int)) by decide)
  rw [show ((1300 : Int) - (1000 : Nat)).toNat = 300 from rfl, claimed] at ran
  refine (runs_ofHandler (h := MemoryHost.exec fun _ _ => none).mpr ?_).mono fun o s r s' does => ⟨_, does⟩
  show Prog.run _ (PrivateKeyJwt.authenticate _ _ >>= fun r => .ret r.toBool) m = _
  rw [Prog.run_bind, ran]
  cases fresh <;> rfl

/-- The assertion is accepted, and then presented again. -/
theorem accepted_at_most_once_replayed :
    ∃ w', Relation.ReflTransGen (Step .memory Reference.server) ⟨blank, []⟩ w' ∧
      Signed.client_assertion Reference.rp1Assertion ∈ w'.accepted ∧
      w'.accepted.count (.client_assertion Reference.rp1Assertion) ≤ 1 := by
  have first := verify_rp1 (m := blank) rfl (Prod.ext (show _ = true by decide) rfl)
  have second := verify_rp1 (m := (MemoryHost.exec (fun _ _ => none) (.claim .client_assertion ("cjwt:" ++ "j") 300) blank).2)
    rfl (Prod.ext (show _ = false by decide) rfl)
  have steps : Relation.ReflTransGen (Step .memory Reference.server) ⟨blank, []⟩ _ :=
    (Relation.ReflTransGen.single (.accept _ ⟨_, rfl, first⟩)).tail (.pass (.inl ⟨_, second⟩))
  exact ⟨_, steps, List.mem_cons_self, accepted_at_most_once .memory Reference.server rfl steps _⟩

end RustOp.Web.AcceptedOnce
