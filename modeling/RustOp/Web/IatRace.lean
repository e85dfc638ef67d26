import RustOp.Web.RegistrarReference

/-!
Initial access tokens, used and withdrawn at once. A registration reads the token
and the clock, checks the request, spends the token in the version it read, and
only then saves the client. Whoever withdraws the token spends it too.
-/
namespace RustOp.Web.IatRace
open RustOp.Effects RustOp.Text RustOp.Firestore

/-- A registration, or an administrator who withdraws a token. -/
inductive Request where
  | register (r : oidc.Registering)
  | revoke (uuid : Draw → String) (b : admin.Browser) (hash : String) (update_time : Nat)

def Request.run (p : Console) (jwks : String → String → Option JwkPub) : Request → Prog Fs Response
  | .register r => oidc.register p.toRegistrar r
  | .revoke uuid b hash update_time => (admin.iat_revoke p uuid b hash update_time).lower (production jwks)

/-- The request registers with the token of a digest. -/
def Request.presents (p : Console) (hash : String) : Request → Prop
  | .register r => ∃ raw_iat, auth_scheme_token r.headers = some ("Bearer", raw_iat) ∧ hash_token p.toPlatform raw_iat = hash
  | .revoke .. => False

variable {ι : Type}

/-- Requests about to begin. -/
def pool (p : Console) (jwks : String → String → Option JwkPub) (requests : ι → Request) (db : Db) : Pool Fs Db ι Response :=
  ⟨db, fun i => (requests i).run p jwks, []⟩

/-- Others may delete the token, and do anything to other documents. -/
def Elsewhere (hash : String) (db db' : Db) : Prop :=
  db'.docs.get (.dcrTokens, hash) = db.docs.get (.dcrTokens, hash) ∨ db'.docs.get (.dcrTokens, hash) = none

/-- The token may be used once. -/
def SingleUse (hash : String) (db : Db) : Prop :=
  ∀ doc, db.docs.get (.dcrTokens, hash) = some doc → dcr_store.is_reusable doc.fields = false

/-- A client is saved for a token. -/
def Saves (p : Console) (hash : String) (requests : ι → Request) (e : Occurrence Fs ι) : Prop :=
  (requests e.thread).presents p hash ∧ ∃ id f, e.op = .create_if_absent .clients id f

/-- The token is spent. -/
def Spends (hash : String) (e : Occurrence Fs ι) : Prop :=
  ∃ update_time, (⟨e.op, e.answer⟩ : (o : FsOp) × o.Res) = ⟨.delete_doc_if_unchanged .dcrTokens hash update_time, .ok true⟩

/-- An administrator withdraws the token. -/
def Revokes (hash : String) (requests : ι → Request) (e : Occurrence Fs ι) : Prop :=
  Spends hash e ∧ ∃ uuid b h update_time, requests e.thread = .revoke uuid b h update_time

/-! ### What a request does -/

/-- A token was read. -/
@[reducible] def Peek (hash : String) (fields : Fields) (update_time : Nat) : (o : FsOp) × o.Res :=
  ⟨.get_doc_with_update_time .dcrTokens hash, .ok (some (fields, update_time))⟩

/-- The clock was read. -/
@[reducible] def Clock (t : Nat) : (o : FsOp) × o.Res := ⟨.now, t⟩

/-- A token was spent. -/
@[reducible] def Spent (hash : String) (update_time : Nat) : (o : FsOp) × o.Res :=
  ⟨.delete_doc_if_unchanged .dcrTokens hash update_time, .ok true⟩

/-- A request begins with the token it presents, read as `iat`, and the time. -/
def Opened (p : Console) (past : Past Fs) (iat : dcr_store.Iat) (t : Nat) : Prop :=
  ∃ newer hash fields, past = newer ++ [Clock t, Peek hash fields iat.update_time] ∧
    dcr_store.parse_iat_fields p.toRegistrar fields = .ok (iat.constraints, iat.expires_at, iat.reusable)

/-- The token has expired, or the request does not pass its checks. -/
def Fails (p : Console) (r : oidc.Registering) (iat : dcr_store.Iat) (t : Nat) : Prop :=
  iat.expires_at ≤ t ∨ ∃ refused, oidc.checked p.toRegistrar r iat = .error refused

/-- The operations of a request. -/
inductive Lawful (p : Console) : Request → Past Fs → FsOp → Prop where
  | reads {request : Request} {past : Past Fs} {o : FsOp} (none : o.writes = none) : Lawful p request past o
  | spend {r : oidc.Registering} {raw_iat : String} {fields : Fields} {t : Nat} {iat : dcr_store.Iat}
      (presents : auth_scheme_token r.headers = some ("Bearer", raw_iat))
      (parsed : dcr_store.parse_iat_fields p.toRegistrar fields = .ok (iat.constraints, iat.expires_at, iat.reusable))
      (passes : ¬ Fails p r iat t) :
      Lawful p (.register r) [Clock t, Peek (hash_token p.toPlatform raw_iat) fields iat.update_time]
        (.delete_doc_if_unchanged .dcrTokens (hash_token p.toPlatform raw_iat) iat.update_time)
  | save {r : oidc.Registering} {raw_iat : String} {fields : Fields} {t : Nat} {iat : dcr_store.Iat}
      {spent : Past Fs} {id : String} {f : Fields}
      (presents : auth_scheme_token r.headers = some ("Bearer", raw_iat))
      (parsed : dcr_store.parse_iat_fields p.toRegistrar fields = .ok (iat.constraints, iat.expires_at, iat.reusable))
      (passes : ¬ Fails p r iat t)
      (paid : spent = if iat.reusable then [] else [Spent (hash_token p.toPlatform raw_iat) iat.update_time]) :
      Lawful p (.register r) (spent ++ [Clock t, Peek (hash_token p.toPlatform raw_iat) fields iat.update_time])
        (.create_if_absent .clients id f)
  | withdraw {uuid : Draw → String} {b : admin.Browser} {hash : String} {update_time : Nat} {past : Past Fs} :
      Lawful p (.revoke uuid b hash update_time) past (.delete_doc_if_unchanged .dcrTokens hash update_time)
  | log {uuid : Draw → String} {b : admin.Browser} {hash id : String} {update_time : Nat} {past : Past Fs} {f : Fields} :
      Lawful p (.revoke uuid b hash update_time) past (.create_if_absent .auditLog id f)

section requests
variable {p : Console} {r : oidc.Registering} {past : Past Fs}

/-- The document is written by a request that paid, or not at all. -/
private theorem paid_save_justified {raw_iat : String} {fields : Fields} {t : Nat} {iat : dcr_store.Iat}
    (client : Client) (spent : Past Fs) (presents : auth_scheme_token r.headers = some ("Bearer", raw_iat))
    (parsed : dcr_store.parse_iat_fields p.toRegistrar fields = .ok (iat.constraints, iat.expires_at, iat.reusable))
    (passes : ¬ Fails p r iat t)
    (paid : spent = if iat.reusable then [] else [Spent (hash_token p.toPlatform raw_iat) iat.update_time]) :
    (dcr_store.save_client p.toRegistrar client).Justified (Lawful p (.register r)) (fun _ _ => True)
      (spent ++ [Clock t, Peek (hash_token p.toPlatform raw_iat) fields iat.update_time]) := by
  unfold dcr_store.save_client
  cases p.client_to_string client with
  | error e => exact .ret trivial
  | ok json =>
    refine .call (.save presents parsed passes paid) fun answer => ?_
    rcases answer with e | _ | _
    · exact .ret trivial
    · exact .ret trivial
    · exact .ret trivial

private theorem register_checked_justified {raw_iat : String} {fields : Fields} {t : Nat} {iat : dcr_store.Iat}
    {outcome : dcr.RegistrationOutcome} (presents : auth_scheme_token r.headers = some ("Bearer", raw_iat))
    (parsed : dcr_store.parse_iat_fields p.toRegistrar fields = .ok (iat.constraints, iat.expires_at, iat.reusable))
    (passes : ¬ Fails p r iat t) :
    (oidc.register_checked p.toRegistrar (hash_token p.toPlatform raw_iat) iat outcome).Justified (Lawful p (.register r))
      (fun _ _ => True) [Clock t, Peek (hash_token p.toPlatform raw_iat) fields iat.update_time] := by
  unfold oidc.register_checked
  by_cases reusable : iat.reusable = true
  · rw [if_pos reusable]
    refine (paid_save_justified outcome.client [] presents parsed passes (by simp [reusable])).bind fun later r _ _ => ?_
    cases r with
    | error e => exact .ret trivial
    | ok u => exact .call (.reads rfl) fun _ => .ret trivial
  · rw [if_neg reusable]
    refine .call (.spend presents parsed passes) fun answer => ?_
    rcases answer with e | _ | _
    · exact .ret trivial
    · exact .ret trivial
    · have paid := paid_save_justified outcome.client [Spent (hash_token p.toPlatform raw_iat) iat.update_time] presents parsed
        passes (by simp [reusable])
      refine paid.bind fun later r _ _ => ?_
      cases r with
      | error e => exact .ret trivial
      | ok u => exact .call (.reads rfl) fun _ => .ret trivial

private theorem register_justified (p : Console) (r : oidc.Registering) :
    (oidc.register p.toRegistrar r).Justified (Lawful p (.register r)) (fun _ _ => True) [] := by
  unfold oidc.register
  split
  · exact .ret trivial
  · split
    · rename_i raw_iat presents
      refine .call (.reads rfl) fun answer => ?_
      rcases answer with e | _ | ⟨fields, update_time⟩
      · exact .ret trivial
      · exact .ret trivial
      · dsimp only [Prog.bind]
        cases parsed : dcr_store.parse_iat_fields p.toRegistrar fields with
        | error e => exact .ret trivial
        | ok read =>
          obtain ⟨constraints, expires_at, reusable⟩ := read
          refine .call (.reads rfl) fun t => ?_
          dsimp only [Prog.bind]
          split
          · exact .ret trivial
          · rename_i early
            cases passed : oidc.checked p.toRegistrar r ⟨constraints, expires_at, update_time, reusable⟩ with
            | error refused => exact .ret trivial
            | ok outcome =>
              have passes : ¬ Fails p r ⟨constraints, expires_at, update_time, reusable⟩ t := by
                rintro (late | ⟨refused, failed⟩)
                · exact early late
                · rw [passed] at failed
                  cases failed
              exact register_checked_justified presents parsed passes
    · exact .ret trivial

private theorem revoke_justified (p : Console) (jwks : String → String → Option JwkPub) (uuid : Draw → String) (b : admin.Browser)
    (hash : String) (update_time : Nat) :
    ((admin.iat_revoke p uuid b hash update_time).lower (production jwks)).Justified
      (Lawful p (.revoke uuid b hash update_time)) (fun _ _ => True) [] := by
  refine as_admin_justified (fun _ _ => .reads) (fun _ _ _ => trivial) fun viewer later _ => ?_
  refine .call .withdraw fun answer => ?_
  rcases answer with e | _ | _
  · exact .ret trivial
  · exact .ret trivial
  · refine .call (.reads rfl) fun t => .call .log fun _ => .ret trivial

private theorem request_justified (p : Console) (jwks : String → String → Option JwkPub) (request : Request) :
    (request.run p jwks).Justified (Lawful p request) (fun _ _ => True) [] := by
  cases request with
  | register r => exact register_justified p r
  | revoke uuid b hash update_time => exact revoke_justified p jwks uuid b hash update_time

end requests

/-! ### Runs -/

/-- Two beginnings of one past are the same. -/
private theorem Opened.unique {p : Console} {past : Past Fs} {iat iat' : dcr_store.Iat} {t t' : Nat} (opened : Opened p past iat t)
    (opened' : Opened p past iat' t') : iat = iat' ∧ t = t' := by
  obtain ⟨newer, hash, fields, rfl, parsed⟩ := opened
  obtain ⟨newer', hash', fields', split, parsed'⟩ := opened'
  obtain ⟨-, same⟩ := List.append_inj' split rfl
  simp only [List.cons.injEq, Sigma.mk.injEq, FsOp.get_doc_with_update_time.injEq, true_and, and_true] at same
  obtain ⟨clock, rfl, read⟩ := same
  simp only [heq_eq_eq, Except.ok.injEq, Option.some.injEq, Prod.mk.injEq] at clock read
  obtain ⟨rfl, time⟩ := read
  rw [parsed] at parsed'
  simp only [Except.ok.injEq, Prod.mk.injEq] at parsed'
  obtain ⟨constraints, expires_at, reusable⟩ := parsed'
  refine ⟨?_, clock⟩
  cases iat
  cases iat'
  simp_all

/-- A request that has written anything has passed its checks. -/
def Checked (p : Console) (past : Past Fs) (r : oidc.Registering) : Prop :=
  (∀ e ∈ past, e.1.writes = none) ∨ ∃ iat t, Opened p past iat t ∧ ¬ Fails p r iat t

/-- What the trace says of the state. -/
structure Inv (p : Console) (requests : ι → Request) (hash : String) [DecidableEq ι] (c : Pool Fs Db ι Response) : Prop where
  token : SingleUse hash c.state
  read : ∀ e ∈ c.trace, ∀ fields update_time, (⟨e.op, e.answer⟩ : (o : FsOp) × o.Res) = Peek hash fields update_time →
    dcr_store.is_reusable fields = false
  spent : ∀ e ∈ c.trace, Spends hash e → c.state.docs.get (.dcrTokens, hash) = none
  once : c.trace.Pairwise fun a b => ¬ (Spends hash a ∧ Spends hash b)
  paid : ∀ e ∈ c.trace, Saves p hash requests e → ∃ x ∈ c.trace, Spends hash x ∧ x.thread = e.thread
  single : c.trace.Pairwise fun a b => ¬ (Saves p hash requests a ∧ Saves p hash requests b)
  checked : ∀ i r, requests i = .register r → Checked p (Pool.past c.trace i) r

variable {p : Console} {requests : ι → Request} {hash : String}

/-- A token stays or goes. -/
private theorem token_step {request : Request} {past : Past Fs} {o : FsOp} {r : o.Res} {s s' : Db}
    (lawful : Lawful p request past o) (does : sem o s r s') : Elsewhere hash s s' := by
  by_cases writes : o.writes = some (.dcrTokens, hash)
  · have deletes : ∃ update_time, o = .delete_doc_if_unchanged .dcrTokens hash update_time := by
      cases lawful with
      | reads none =>
        rw [none] at writes
        cases writes
      | spend =>
        cases writes
        exact ⟨_, rfl⟩
      | save => cases writes
      | withdraw =>
        cases writes
        exact ⟨_, rfl⟩
      | log => cases writes
    obtain ⟨update_time, rfl⟩ := deletes
    obtain ⟨rfl, -⟩ | ⟨-, rfl, -⟩ := sem_delete_if_unchanged does
    · exact .inl rfl
    · exact .inr (by simp [get_erase])
  · exact .inl (sem_frame writes does)

private theorem Elsewhere.singleUse {s s' : Db} (changes : Elsewhere hash s s') (single : SingleUse hash s) : SingleUse hash s' := by
  intro doc stored
  rcases changes with same | removed
  · exact single doc (same ▸ stored)
  · rw [removed] at stored
    cases stored

private theorem Elsewhere.gone {s s' : Db} (changes : Elsewhere hash s s') (gone : s.docs.get (.dcrTokens, hash) = none) :
    s'.docs.get (.dcrTokens, hash) = none := by
  rcases changes with same | removed
  · rw [same, gone]
  · exact removed

/-- Spending a token removes it; it was there. -/
private theorem spends_sem {update_time : Nat} {s s' : Db}
    (does : sem (.delete_doc_if_unchanged .dcrTokens hash update_time) s (.ok true) s') :
    s.docs.get (.dcrTokens, hash) ≠ none ∧ s'.docs.get (.dcrTokens, hash) = none := by
  obtain ⟨-, failed⟩ | ⟨current, rfl, -⟩ := sem_delete_if_unchanged does
  · exact absurd rfl failed
  · obtain ⟨doc, stored, -⟩ := Db.unchanged_iff.mp current
    exact ⟨by simp [stored], by simp [get_erase]⟩

/-- Whatever is written has been checked. -/
private theorem checked_step {r : oidc.Registering} {past : Past Fs} {o : FsOp} (lawful : Lawful p (.register r) past o)
    (checked : Checked p past r) (a : o.Res) : Checked p (⟨o, a⟩ :: past) r := by
  generalize same : Request.register r = request at lawful
  cases lawful with
  | reads none =>
    rcases checked with quiet | ⟨iat, t, ⟨newer, hash, fields, rfl, parsed⟩, passes⟩
    · exact .inl (List.forall_mem_cons.mpr ⟨none, quiet⟩)
    · exact .inr ⟨iat, t, ⟨⟨o, a⟩ :: newer, hash, fields, rfl, parsed⟩, passes⟩
  | spend presents parsed passes =>
    cases same
    exact .inr ⟨_, _, ⟨[_], _, _, rfl, parsed⟩, passes⟩
  | save presents parsed passes paid =>
    cases same
    exact .inr ⟨_, _, ⟨_ :: _, _, _, rfl, parsed⟩, passes⟩
  | withdraw => cases same
  | log => cases same

variable [DecidableEq ι]

/-- A request that is about to save a client has just spent its token. -/
private theorem saving {e : Occurrence Fs ι} {c : Pool Fs Db ι Response} (inv : Inv p requests hash c)
    (lawful : Lawful p (requests e.thread) (Pool.past c.trace e.thread) e.op) (saves : Saves p hash requests e) :
    ∃ update_time t fields, Pool.past c.trace e.thread = [Spent hash update_time, Clock t, Peek hash fields update_time] := by
  obtain ⟨presents, id, f, creates⟩ := saves
  rw [creates] at lawful
  generalize same : requests e.thread = request at lawful presents
  generalize begun : Pool.past c.trace e.thread = past at lawful
  cases lawful with
  | reads none => cases none
  | @save r raw_iat fields t iat spent id f presents' parsed passes paid =>
    obtain ⟨raw, presented, digest⟩ := presents
    rw [presents'] at presented
    cases presented
    subst digest
    have peeked : Peek (hash_token p.toPlatform raw_iat) fields iat.update_time ∈ Pool.past c.trace e.thread := by simp [begun]
    have reusable := inv.read _ (Pool.mem_past.mp peeked) fields iat.update_time rfl
    have marked : iat.reusable = false := by
      simp only [dcr_store.parse_iat_fields, Checks.bind_eq_ok, Checks.ok_or_eq_ok, Checks.mapError_eq_ok, Checks.pure_eq_ok] at parsed
      obtain ⟨cj, -, constraints, -, same⟩ := parsed
      simp only [Prod.mk.injEq] at same
      rw [← same.2.2, reusable]
    exact ⟨iat.update_time, t, fields, by rw [paid, marked]; rfl⟩

private theorem Inv.step {c c' : Pool Fs Db ι Response} (inv : Inv p requests hash c)
    (did : Pool.Did sem (Elsewhere hash) (fun i => Lawful p (requests i)) c c') : Inv p requests hash c' := by
  cases did with
  | env changes trace threads =>
    refine ⟨changes.singleUse inv.token, ?_, ?_, ?_, ?_, ?_, ?_⟩
    · rw [trace]
      exact inv.read
    · rw [trace]
      exact fun e listed spends => changes.gone (inv.spent e listed spends)
    · rw [trace]
      exact inv.once
    · rw [trace]
      exact inv.paid
    · rw [trace]
      exact inv.single
    · rw [trace]
      exact inv.checked
  | act e k next allowed does trace threads =>
    have changes : Elsewhere hash c.state c'.state := token_step allowed does
    refine ⟨changes.singleUse inv.token, ?_, ?_, ?_, ?_, ?_, ?_⟩
    · rw [trace]
      intro x listed fields update_time is
      rcases List.mem_cons.mp listed with rfl | before
      · obtain ⟨i, o, a⟩ := x
        cases is
        have found := (sem_get_with_time does).2 _ rfl
        obtain ⟨doc, stored, same⟩ := Option.map_eq_some_iff.mp found.symm
        cases same
        exact inv.token doc stored
      · exact inv.read x before fields update_time is
    · rw [trace]
      intro x listed spends
      rcases List.mem_cons.mp listed with rfl | before
      · obtain ⟨i, o, a⟩ := x
        obtain ⟨update_time, is⟩ := spends
        cases is
        exact (spends_sem does).2
      · exact changes.gone (inv.spent x before spends)
    · rw [trace, List.pairwise_cons]
      refine ⟨fun x listed both => ?_, inv.once⟩
      obtain ⟨i, o, a⟩ := e
      obtain ⟨⟨update_time, is⟩, spends⟩ := both
      cases is
      exact (spends_sem does).1 (inv.spent x listed spends)
    · rw [trace]
      intro x listed saves
      rcases List.mem_cons.mp listed with rfl | before
      · obtain ⟨update_time, t, fields, begun⟩ := saving inv allowed saves
        have spent : Spent hash update_time ∈ Pool.past c.trace x.thread := by simp [begun]
        exact ⟨_, List.mem_cons_of_mem _ (Pool.mem_past.mp spent), ⟨update_time, rfl⟩, rfl⟩
      · obtain ⟨y, listed', spends, own⟩ := inv.paid x before saves
        exact ⟨y, List.mem_cons_of_mem _ listed', spends, own⟩
    · rw [trace, List.pairwise_cons]
      refine ⟨fun x listed both => ?_, inv.single⟩
      -- Both have spent the token, so they are one request; but that had not saved anything.
      obtain ⟨update_time, t, fields, begun⟩ := saving inv allowed both.1
      have spent : Spent hash update_time ∈ Pool.past c.trace e.thread := by simp [begun]
      obtain ⟨y, listed', spends, own⟩ := inv.paid x listed both.2
      have same : ⟨e.thread, .delete_doc_if_unchanged .dcrTokens hash update_time, .ok true⟩ = y := by
        by_contra different
        have symmetric : Std.Symm fun a b : Occurrence Fs ι => ¬ (Spends hash a ∧ Spends hash b) :=
          ⟨fun a b apart both => apart both.symm⟩
        exact inv.once.forall (Pool.mem_past.mp spent) listed' different ⟨⟨update_time, rfl⟩, spends⟩
      subst same
      obtain ⟨-, id, f, creates⟩ := both.2
      have saved : (⟨x.op, x.answer⟩ : (o : FsOp) × o.Res) ∈ Pool.past c.trace e.thread := own ▸ Pool.mem_past.mpr listed
      rw [begun] at saved
      have written : x.op.writes = some (.clients, id) := by rw [creates]; rfl
      simp only [List.mem_cons, List.not_mem_nil, or_false, Sigma.mk.injEq] at saved
      rcases saved with ⟨is, -⟩ | ⟨is, -⟩ | ⟨is, -⟩ <;> (rw [is] at written; cases written)
    · rw [trace]
      intro i r is
      rw [Pool.past_cons]
      split
      · rename_i own
        subst own
        exact checked_step (is ▸ allowed) (inv.checked _ r is) e.answer
      · exact inv.checked i r is

/-- A stored client stays as it is. -/
private theorem client_step {request : Request} {past : Past Fs} {o : FsOp} {r : o.Res} {s s' : Db} {id : String} {doc : Doc}
    (lawful : Lawful p request past o) (does : sem o s r s') (stored : s.docs.get (.clients, id) = some doc) :
    s'.docs.get (.clients, id) = some doc := by
  by_cases writes : o.writes = some (.clients, id)
  · cases lawful with
    | reads none =>
      rw [none] at writes
      cases writes
    | spend => cases writes
    | save =>
      cases writes
      obtain ⟨rfl, -⟩ | ⟨absent, -⟩ := sem_create_if_absent does
      · exact stored
      · rw [stored] at absent
        cases absent
    | withdraw => cases writes
    | log => cases writes
  · rw [sem_frame writes does, stored]

/-- An initial access token that is not reusable registers one client at most, and
    none if it was withdrawn. A request that fails writes nothing, and no request
    replaces a client. -/
theorem token_registers_once (p : Console) (jwks : String → String → Option JwkPub) (requests : ι → Request) (hash : String)
    (db : Db) (single : SingleUse hash db) {c : Pool Fs Db ι Response}
    (steps : Relation.ReflTransGen (Pool.Step sem (Elsewhere hash)) (pool p jwks requests db) c) :
    (c.trace.Pairwise fun a b => ¬ (Saves p hash requests a ∧ Saves p hash requests b)) ∧
    (∀ e ∈ c.trace, Revokes hash requests e → ∀ x ∈ c.trace, ¬ Saves p hash requests x) ∧
    (∀ i r iat t, requests i = .register r → Opened p (Pool.past c.trace i) iat t → Fails p r iat t →
      ∀ e ∈ c.trace, e.thread = i → e.op.writes = none) ∧
    ∀ c', Pool.Step sem (fun _ _ => False) c c' → ∀ id doc, c.state.docs.get (.clients, id) = some doc →
      c'.state.docs.get (.clients, id) = some doc := by
  have honest : (pool p jwks requests db).Honest (fun i => Lawful p (requests i)) fun _ _ _ => True :=
    fun i => request_justified p jwks (requests i)
  have start : Inv p requests hash (pool p jwks requests db) := by
    refine ⟨single, ?_, ?_, List.Pairwise.nil, ?_, List.Pairwise.nil, ?_⟩
    · exact fun e listed => absurd listed List.not_mem_nil
    · exact fun e listed => absurd listed List.not_mem_nil
    · exact fun e listed => absurd listed List.not_mem_nil
    · exact fun i r _ => .inl fun e listed => absurd listed List.not_mem_nil
  have always : Relation.ReflTransGen (fun c c' => Pool.Step sem (Elsewhere hash) c c' ∧ True) (pool p jwks requests db) c :=
    Relation.ReflTransGen.mono (fun _ _ step => ⟨step, trivial⟩) _ _ steps
  obtain ⟨inv, honest⟩ := honest.induct (fun _ _ inv _ did _ => inv.step did) start always
  refine ⟨inv.single, fun e listed revokes x listed' saves => ?_, fun i r iat t is opened fails e listed own => ?_,
    fun c' step id doc stored => ?_⟩
  · obtain ⟨y, listed'', spends, own⟩ := inv.paid x listed' saves
    obtain ⟨withdrawn, uuid, b, h, update_time, is⟩ := revokes
    have symmetric : Std.Symm fun a b : Occurrence Fs ι => ¬ (Spends hash a ∧ Spends hash b) :=
      ⟨fun a b apart both => apart both.symm⟩
    have same : e = y := by
      by_contra different
      exact inv.once.forall listed listed'' different ⟨withdrawn, spends⟩
    subst same
    have presents := saves.1
    rw [← own, is] at presents
    exact presents
  · rcases inv.checked i r is with quiet | ⟨iat', t', opened', passes⟩
    · subst own
      exact quiet ⟨e.op, e.answer⟩ (Pool.mem_past.mpr listed)
    · obtain ⟨rfl, rfl⟩ := opened.unique opened'
      exact absurd fails passes
  · obtain ⟨-, did⟩ := honest.step step
    cases did with
    | env changes => exact changes.elim
    | act e k next allowed does trace threads => exact client_step allowed does stored

/-! ### Two registrations with one token -/

/-- The digest of the token. -/
def digest : String := "7UknTKiMz_CdegjsENDvOpnZgU9WgOCZRPHj3aqNMjs"

private theorem digest_eq : hash_token Reference.console.toPlatform "initial-token" = digest := by decide +kernel

/-- A token for one public client. -/
def issued : Db :=
  Db.write { clock := 1000 } (.dcrTokens, digest)
    (.ofEntries [("constraints", some (.string (Reference.constraints.encode ⟨["rp.example.com"], ["authorization_code"], .Public⟩))),
      ("expires_at", some (.integer 2000)), ("reusable", some (.boolean false))])

def registering (i : Fin 2) : oidc.Registering where
  headers := [("authorization", "Bearer initial-token")]
  body := Reference.registrationText
  uuid := if i.val = 0 then "1" else "2"
  random := []
  passes := true

/-- Both requests about to read the token. -/
def reading : Pool Fs Db (Fin 2) Response :=
  ⟨issued, fun i => oidc.register_with Reference.console.toRegistrar (registering i) digest, []⟩

private theorem reading_eq : pool Reference.console (fun _ _ => none) (fun i => .register (registering i)) issued = reading := by
  have presents : ∀ i, auth_scheme_token (registering i).headers = some ("Bearer", "initial-token") := by
    intro i
    show auth_scheme_token [("authorization", "Bearer initial-token")] = _
    decide +kernel
  have threads : (fun i => (Request.register (registering i)).run Reference.console fun _ _ => none) =
      fun i => oidc.register_with Reference.console.toRegistrar (registering i) digest := by
    funext i
    show oidc.register Reference.console.toRegistrar (registering i) = _
    unfold oidc.register
    rw [presents i]
    exact congrArg (oidc.register_with Reference.console.toRegistrar (registering i)) digest_eq
  rw [pool, threads, reading]

/-- Both read the token; the one that spends it first saves its client. -/
def both : Pool Fs Db (Fin 2) Response := Pool.schedule exec reading (Pool.turns [0, 0, 1, 1, 0, 1, 0, 0])

theorem token_registers_once_two :
    (both.state.docs.get (.clients, "dcr-1")).isSome = true ∧ both.state.docs.get (.clients, "dcr-2") = none ∧
    (both.trace.Pairwise fun a b => ¬ (Saves Reference.console digest (fun i => .register (registering i)) a ∧
      Saves Reference.console digest (fun i => .register (registering i)) b)) := by
  have single : SingleUse digest issued := by
    intro doc stored
    rw [issued, get_write, if_pos rfl] at stored
    cases stored
    decide +kernel
  have steps : Relation.ReflTransGen (Pool.Step sem (Elsewhere digest)) reading both :=
    Relation.ReflTransGen.mono (fun _ _ step => step.mono (fun _ _ _ _ => .inl) fun _ _ => id) _ _
      (Pool.schedule_steps exec (Elsewhere digest) reading _)
  rw [← reading_eq] at steps
  refine ⟨by decide +kernel, ?_, (token_registers_once Reference.console (fun _ _ => none) (fun i => .register (registering i)) digest
    issued single steps).1⟩
  refine Option.isNone_iff_eq_none.mp ?_
  decide +kernel

end RustOp.Web.IatRace
