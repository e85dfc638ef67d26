import RustOp.RefreshFamily
import RustOp.Effects.Interleave

/-!
Concurrent refresh requests on one family, interleaved at single store
operations. A rotation announces its successor before it saves it; a walk that
runs in between misses it. If no walk runs while a call is in that gap, a
revoked family stays dead.
-/
namespace RustOp.RefreshRace
open RustOp.Effects RustOp.Text RustOp.Memory RustOp.RefreshFamily

/-- What is left of a call. -/
abbrev Call := Prog Backend (Except OAuthError TokenResponse)

/-! ### Where a call can be -/

/-- Operations that leave the refresh tokens alone. -/
def Quiet : BackendOp → Prop
  | .store (.save_access_token _) => True
  | .now => True
  | _ => False

/-- The call has announced `r` and will save it. -/
inductive Saves (r : RefreshToken) : Call → Prop where
  | save {k : Unit → Call} (rest : (k ()).Uses Quiet) : Saves r (.call (.store (.save_refresh_token r)) k)
  | later {o : BackendOp} {k : o.Res → Call} (quiet : Quiet o) (rest : ∀ x, Saves r (k x)) : Saves r (.call o k)

/-- The call is about to walk from `t`. -/
def Walks (t : String) (p : Call) : Prop :=
  ∃ k : Unit → Call, p = .call (.store (.revoke_refresh_family t)) k ∧ (k ()).Uses Quiet

/-- A successor drawn by this call for this family. -/
structure Successor (own family_id : String) (r : RefreshToken) : Prop where
  token : r.token = own
  unused : r.used = false
  family : r.family_id = family_id

/-- The call is about to mark `t` used, and to save a successor if that succeeds. -/
def Marks (own family_id t : String) (p : Call) : Prop :=
  ∃ (next : Option String) (k : Bool → Call), p = .call (.store (.mark_refresh_used t next)) k ∧
    (k false).Uses Quiet ∧
    ((k true).Uses Quiet ∨ ∃ r, Saves r (k true) ∧ next = some r.token ∧ Successor own family_id r)

/-- The call is about to read its token. -/
def Reads (own family_id : String) (p : Call) : Prop :=
  ∃ (t : String) (k : Option RefreshToken → Call), p = .call (.store (.get_refresh_token t)) k ∧
    (k none).Uses Quiet ∧
    ∀ pre, pre.family_id = family_id →
      (k (some pre)).Uses Quiet ∨ (pre.used = true ∧ Walks t (k (some pre))) ∨ Marks own family_id t (k (some pre))

/-- The places of a call, in order. -/
inductive Phase (own family_id : String) (p : Call) : Prop where
  | reads (at_ : Reads own family_id p)
  | walks (t : String) (at_ : Walks t p)
  | marks (t : String) (at_ : Marks own family_id t p)
  | saves (r : RefreshToken) (at_ : Saves r p) (next : Successor own family_id r)
  | quiet (at_ : p.Uses Quiet)

private theorem saves_not_quiet {r : RefreshToken} {p : Call} (saves : Saves r p) : ¬ p.Uses Quiet := by
  induction saves with
  | save => exact fun uses => uses.1
  | @later o k quiet rest ih =>
    intro uses
    cases o with
    | now => exact ih 0 (uses.2 0)
    | ciba o => exact quiet
    | store o =>
      cases o with
      | save_access_token t => exact ih () (uses.2 ())
      | _ => exact quiet

/-- A call announces one successor. -/
private theorem saves_unique {r r' : RefreshToken} {p : Call} (saves : Saves r p) (saves' : Saves r' p) : r' = r := by
  induction saves with
  | save rest =>
    cases saves' with
    | save => rfl
    | later quiet => exact quiet.elim
  | @later o k quiet rest ih =>
    cases saves' with
    | save => exact quiet.elim
    | later quiet' rest' =>
      cases o with
      | now => exact ih 0 (rest' 0)
      | ciba o => exact quiet.elim
      | store o =>
        cases o with
        | save_access_token t => exact ih () (rest' ())
        | _ => exact quiet.elim

private theorem issue_uses (p : Provider) (uuid : Draw → String) (client_id account_id scope : String)
    (nonce : Option String) (auth_time : Option Nat) (acr jkt alg resource details : Option String) :
    (issue_access_and_id p uuid client_id account_id scope nonce auth_time acr jkt alg resource details).Uses Quiet := by
  unfold issue_access_and_id
  refine ⟨trivial, fun _ => ⟨trivial, fun iat => ?_⟩⟩
  cases p.signer_for alg <;> trivial

/-- After the mark a call saves exactly the announced successor, or nothing. -/
private theorem reissue_saves (p : Provider) (uuid : Draw → String) (client : Client) (jkt : Option String)
    (pre : RefreshToken) (scope : String) :
    (RefreshTokenGrant.reissue p uuid client jkt pre scope (RefreshTokenGrant.new_refresh uuid scope)).Uses Quiet ∨
    ∃ r, Saves r (RefreshTokenGrant.reissue p uuid client jkt pre scope (RefreshTokenGrant.new_refresh uuid scope)) ∧
      RefreshTokenGrant.new_refresh uuid scope = some r.token ∧
      Successor (uuid .rotated_token) pre.family_id r := by
  unfold RefreshTokenGrant.reissue
  cases offline : has_scope scope "offline_access" with
  | false =>
    refine .inl ((issue_uses ..).bind fun answer => ?_)
    cases answer with
    | error e => trivial
    | ok pair => simp [RefreshTokenGrant.new_refresh, offline, Prog.Uses]
  | true =>
    have next : RefreshTokenGrant.new_refresh uuid scope = some (uuid .rotated_token) := by
      simp [RefreshTokenGrant.new_refresh, offline]
    rw [next]
    unfold issue_access_and_id
    cases p.signer_for client.id_token_signed_response_alg with
    | error e => exact .inl ⟨trivial, fun _ => ⟨trivial, fun _ => trivial⟩⟩
    | ok alg =>
      refine .inr ⟨RefreshTokenGrant.successor client pre scope (uuid .rotated_token), ?_, rfl, rfl, rfl, rfl⟩
      exact .later trivial fun _ => .later trivial fun _ => .save trivial

/-- A refresh request starts at its reading, or has nothing to do. -/
theorem handle_starts (p : Provider) (uuid : Draw → String) (client : Client) (form : Form) (jkt : Option String)
    (family_id : String) :
    Reads (uuid .rotated_token) family_id (RefreshTokenGrant.handle p uuid client form jkt) ∨
      (RefreshTokenGrant.handle p uuid client form jkt).Uses Quiet := by
  unfold RefreshTokenGrant.handle
  cases form.get "refresh_token" with
  | none => exact .inr trivial
  | some t =>
    simp only [store, Prog.call_bind, Prog.ret_bind]
    refine .inl ⟨t, _, rfl, trivial, fun pre family => ?_⟩
    dsimp only
    by_cases owner : pre.client_id = client.client_id
    · rw [if_neg (not_not.2 owner)]
      cases RefreshTokenGrant.check_binding client pre jkt with
      | error e => exact .inl trivial
      | ok u =>
        dsimp only
        cases used : pre.used with
        | true => exact .inr (.inl ⟨rfl, _, rfl, trivial⟩)
        | false =>
          cases RefreshTokenGrant.requested_scope form pre with
          | error e => exact .inl trivial
          | ok scope =>
            refine .inr (.inr ⟨RefreshTokenGrant.new_refresh uuid scope, _, rfl, trivial, ?_⟩)
            obtain uses | ⟨r, saves, next, succ⟩ := reissue_saves p uuid client jkt pre scope
            · exact .inl uses
            · exact .inr ⟨r, saves, next, succ.token, succ.unused, succ.family.trans family⟩
    · rw [if_pos owner]
      exact .inl trivial

/-! ### The race -/

/-- A refresh request: the client, its form, and the key it proved. -/
structure Request where
  client : Client
  form : Form
  jkt : Option String

/-- Concurrent requests, each with its own draws, on the store of a sequential state. -/
def race (p : Provider) (ent : Entropy) (s : State) {n : Nat} (requests : Fin n → Request) :
    Pool Backend Mem (Fin n) (Except OAuthError TokenResponse) where
  state := s.mem
  threads := fun i => RefreshTokenGrant.handle p (ent.uuid (s.served + i)) (requests i).client (requests i).form
    (requests i).jkt
  trace := []

/-- Time passes, but no stored token expires. -/
def NoExpiry (m m' : Mem) : Prop :=
  ∃ t, m.clock ≤ t ∧ m' = { m with clock := t } ∧
    ∀ x e, m.store.refresh_tokens.get x = some e → e.alive t = true

/-- A step of the race. -/
abbrev Races {n : Nat} := Pool.Step (α := Except OAuthError TokenResponse) (ι := Fin n) (Sem.ofHandler exec) NoExpiry

def isWalk : BackendOp → Bool
  | .store (.revoke_refresh_family _) => true
  | _ => false

/-- A walk has returned. -/
def Revoked {n : Nat} (c : Pool Backend Mem (Fin n) (Except OAuthError TokenResponse)) : Prop :=
  ∃ o ∈ c.trace, isWalk o.op = true

instance {n : Nat} (c : Pool Backend Mem (Fin n) (Except OAuthError TokenResponse)) : Decidable (Revoked c) :=
  inferInstanceAs (Decidable (∃ o ∈ c.trace, isWalk o.op = true))

/-- No chain is longer than a walk. -/
def Short {n : Nat} (c : Pool Backend Mem (Fin n) (Except OAuthError TokenResponse)) : Prop :=
  ∀ t, chainWithin c.state.store.refresh_tokens FAMILY_GUARD t

/-- The condition on a step: a walk runs while no call is between marking a
    token and saving its successor. -/
def Calm {n : Nat} (c c' : Pool Backend Mem (Fin n) (Except OAuthError TokenResponse)) : Prop :=
  ∀ i t, c'.trace = ⟨i, .store (.revoke_refresh_family t), ()⟩ :: c.trace → ∀ j r, ¬ Saves r (c.threads j)

section
variable {n : Nat} (own : Fin n → String) (family_id : String)

/-- A token that was not rotated yet. -/
def Unused (m : Mem) (t : String) : Prop := ∃ e, m.store.refresh_tokens.get t = some e ∧ e.value.used = false

/-- The family can still produce an unused token. -/
def Open (c : Pool Backend Mem (Fin n) (Except OAuthError TokenResponse)) : Prop :=
  (∃ t, Unused c.state t) ∨ ∃ i r, Saves r (c.threads i)

/-- What holds between any two steps. The live end of the family is one unused
    token or one call that will save its successor; until the family is dead,
    every used token leads on to a stored one or to that successor. -/
structure Invariant (c : Pool Backend Mem (Fin n) (Except OAuthError TokenResponse)) : Prop where
  family : ∀ {t e}, c.state.store.refresh_tokens.get t = some e → e.value.family_id = family_id
  alive : ∀ {t e}, c.state.store.refresh_tokens.get t = some e → e.alive c.state.clock = true
  phase : ∀ i, Phase (own i) family_id (c.threads i)
  fresh : ∀ i, ¬ (c.threads i).Uses Quiet → c.state.store.refresh_tokens.get (own i) = none
  unique : ∀ {t u}, Unused c.state t → Unused c.state u → t = u
  apart : ∀ {t i r}, Unused c.state t → ¬ Saves r (c.threads i)
  single : ∀ {i j r r'}, Saves r (c.threads i) → Saves r' (c.threads j) → i = j
  linked : (∃ u, Unused c.state u) → ∀ {t e}, c.state.store.refresh_tokens.get t = some e → e.value.used = true →
    ∃ m f, e.value.replaced_by = some m ∧ c.state.store.refresh_tokens.get m = some f
  pending : ∀ {i r}, Saves r (c.threads i) → ∀ {t e}, c.state.store.refresh_tokens.get t = some e →
    e.value.used = true → ∃ m, e.value.replaced_by = some m ∧
      (m = r.token ∨ ∃ f, c.state.store.refresh_tokens.get m = some f)
  walks : Open c → ∀ {i t}, Walks t (c.threads i) → ∃ e, c.state.store.refresh_tokens.get t = some e
  revoked : Revoked c → ¬ Open c

variable {own family_id} {c c' : Pool Backend Mem (Fin n) (Except OAuthError TokenResponse)}

/-- A step that leaves the tokens alone, after which thread `i` is quiet, keeps
    the invariant: no call is nearer to a save than before. -/
private theorem Invariant.frame (inv : Invariant own family_id c)
    (tokens : c'.state.store.refresh_tokens = c.state.store.refresh_tokens)
    (alive : ∀ {t e}, c.state.store.refresh_tokens.get t = some e → e.alive c'.state.clock = true)
    (phase : ∀ i, Phase (own i) family_id (c'.threads i))
    (quiet : ∀ i, ¬ (c'.threads i).Uses Quiet → ¬ (c.threads i).Uses Quiet)
    (saves : ∀ {i r}, Saves r (c'.threads i) → Saves r (c.threads i))
    (walks : Open c → ∀ {i t}, Walks t (c'.threads i) → ∃ e, c.state.store.refresh_tokens.get t = some e)
    (trace : ∀ o ∈ c'.trace, isWalk o.op = true → o ∈ c.trace) :
    Invariant own family_id c' := by
  have unused : ∀ {t}, Unused c'.state t ↔ Unused c.state t := by simp [Unused, tokens]
  have still : Open c' → Open c := by
    rintro (⟨t, free⟩ | ⟨i, r, saving⟩)
    · exact .inl ⟨t, unused.1 free⟩
    · exact .inr ⟨i, r, saves saving⟩
  refine ⟨?_, ?_, phase, ?_, ?_, ?_, ?_, ?_, ?_, ?_, ?_⟩
  · rw [tokens]
    exact inv.family
  · rw [tokens]
    exact alive
  · rw [tokens]
    exact fun i busy => inv.fresh i (quiet i busy)
  · exact fun a b => inv.unique (unused.1 a) (unused.1 b)
  · exact fun a saving => inv.apart (unused.1 a) (saves saving)
  · exact fun a b => inv.single (saves a) (saves b)
  · rw [tokens]
    exact fun ⟨u, free⟩ => inv.linked ⟨u, unused.1 free⟩
  · rw [tokens]
    exact fun saving => inv.pending (saves saving)
  · rw [tokens]
    exact fun opens => walks (still opens)
  · rintro ⟨o, listed, walk⟩ opens
    exact inv.revoked ⟨o, trace o listed walk, walk⟩ (still opens)

/-- The same for one thread that moves on to `q`. -/
private theorem Invariant.move (inv : Invariant own family_id c) (i : Fin n) {q : Call} {m : Mem}
    {o : Occurrence Backend (Fin n)} (tokens : m.store.refresh_tokens = c.state.store.refresh_tokens)
    (clock : m.clock = c.state.clock) (phase : Phase (own i) family_id q)
    (quiet : ¬ q.Uses Quiet → ¬ (c.threads i).Uses Quiet) (saves : ∀ {r}, Saves r q → Saves r (c.threads i))
    (walks : ∀ {t}, Walks t q → ∃ e, c.state.store.refresh_tokens.get t = some e)
    (other : isWalk o.op = false) :
    Invariant own family_id ⟨m, Function.update c.threads i q, o :: c.trace⟩ := by
  refine inv.frame tokens (fun stored => clock ▸ inv.alive stored) (fun j => ?_) (fun j busy => ?_)
    (fun {j r} saving => ?_) (fun opens {j t} walk => ?_) (fun o' listed walk => ?_)
  · by_cases same : j = i
    · subst same
      simpa using phase
    · simpa [same] using inv.phase j
  · by_cases same : j = i
    · subst same
      simp only [Function.update_self] at busy
      exact quiet busy
    · simpa [same] using busy
  · by_cases same : j = i
    · subst same
      simp only [Function.update_self] at saving
      exact saves saving
    · simpa [same] using saving
  · by_cases same : j = i
    · subst same
      simp only [Function.update_self] at walk
      exact walks walk
    · simp only [Function.update_of_ne same] at walk
      exact inv.walks opens walk
  · obtain rfl | older := List.mem_cons.1 listed
    · simp [other] at walk
    · exact older

private theorem not_saves_of_quiet {q : Call} (quiet : q.Uses Quiet) {r : RefreshToken} : ¬ Saves r q :=
  fun saves => saves_not_quiet saves quiet

private theorem not_walks_of_quiet {q : Call} (quiet : q.Uses Quiet) {t : String} : ¬ Walks t q := by
  rintro ⟨k, rfl, -⟩
  exact quiet.1

private theorem not_walks_of_saves {q : Call} {r : RefreshToken} (saves : Saves r q) {t : String} : ¬ Walks t q := by
  rintro ⟨k, rfl, -⟩
  cases saves with
  | later quiet => exact quiet

private theorem not_saves_of_marks {o f t : String} {q : Call} (marks : Marks o f t q) {r : RefreshToken} :
    ¬ Saves r q := by
  obtain ⟨next, k, rfl, -⟩ := marks
  intro saves
  cases saves with
  | later quiet => exact quiet

private theorem not_walks_of_marks {o f t : String} {q : Call} (marks : Marks o f t q) {u : String} : ¬ Walks u q := by
  obtain ⟨next, k, rfl, -⟩ := marks
  rintro ⟨k', is, -⟩
  injection is with same
  cases same

private theorem walks_unique {t u : String} {q : Call} (walk : Walks t q) (walk' : Walks u q) : t = u := by
  obtain ⟨k, rfl, -⟩ := walk
  obtain ⟨k', is, -⟩ := walk'
  injection is with same
  cases same
  rfl

/-- While nothing has expired a reading changes nothing. -/
private theorem read_all_alive {m : Mem}
    (alive : ∀ {t e}, m.store.refresh_tokens.get t = some e → e.alive m.clock = true) (t : String) :
    exec (.store (.get_refresh_token t)) m = ((m.store.refresh_tokens.get t).map Expiring.value, m) := by
  cases stored : m.store.refresh_tokens.get t with
  | none => simp [exec, MemoryStore.exec, get_alive, stored]
  | some e => simp [exec, MemoryStore.exec, get_alive, stored, alive stored]

/-- A quiet operation. -/
private theorem quiet_exec {o : BackendOp} (quiet : Quiet o) (m : Mem) :
    (exec o m).2.store.refresh_tokens = m.store.refresh_tokens ∧ (exec o m).2.clock = m.clock := by
  cases o with
  | now => exact ⟨rfl, rfl⟩
  | ciba o => exact quiet.elim
  | store o =>
    cases o with
    | save_access_token t => exact ⟨rfl, rfl⟩
    | _ => exact quiet.elim

private theorem quiet_not_walk {o : BackendOp} (quiet : Quiet o) : isWalk o = false := by
  cases o with
  | store o => cases o <;> first | rfl | exact quiet.elim
  | _ => rfl

private theorem Invariant.read (inv : Invariant own family_id c) {i : Fin n} {t : String}
    {k : Option RefreshToken → Call} (next : c.threads i = .call (.store (.get_refresh_token t)) k)
    (absent : (k none).Uses Quiet)
    (found : ∀ pre, pre.family_id = family_id →
      (k (some pre)).Uses Quiet ∨ (pre.used = true ∧ Walks t (k (some pre))) ∨ Marks (own i) family_id t (k (some pre))) :
    Invariant own family_id ⟨(exec (.store (.get_refresh_token t)) c.state).2,
      Function.update c.threads i (k (exec (.store (.get_refresh_token t)) c.state).1),
      ⟨i, .store (.get_refresh_token t), (exec (.store (.get_refresh_token t)) c.state).1⟩ :: c.trace⟩ := by
  have busy : ¬ (c.threads i).Uses Quiet := by
    rw [next]
    exact fun uses => uses.1
  rw [read_all_alive inv.alive]
  have quietly : ∀ q : Call, q.Uses Quiet → Invariant own family_id ⟨c.state, Function.update c.threads i q,
      ⟨i, .store (.get_refresh_token t), (c.state.store.refresh_tokens.get t).map Expiring.value⟩ :: c.trace⟩ :=
    fun q uses => inv.move i rfl rfl (.quiet uses) (fun _ => busy) (fun saving => absurd saving (not_saves_of_quiet uses))
      (fun walk => absurd walk (not_walks_of_quiet uses)) rfl
  cases stored : c.state.store.refresh_tokens.get t with
  | none =>
    have done := quietly (k none) absent
    rw [stored] at done
    exact done
  | some e =>
    obtain uses | ⟨used, walk⟩ | marks := found e.value (inv.family stored)
    · have done := quietly _ uses
      rw [stored] at done
      exact done
    · refine inv.move i rfl rfl (.walks t walk) (fun _ => busy) (fun saving => ?_) (fun walk' => ?_) rfl
      · exact absurd walk (not_walks_of_saves saving)
      · exact ⟨e, walks_unique walk walk' ▸ stored⟩
    · refine inv.move i rfl rfl (.marks t marks) (fun _ => busy) (fun saving => ?_) (fun walk => ?_) rfl
      · exact absurd saving (not_saves_of_marks marks)
      · exact absurd walk (not_walks_of_marks marks)

/-- A dead family needs nothing but well-formed records and calls. -/
private theorem Invariant.dead
    (family : ∀ {t e}, c.state.store.refresh_tokens.get t = some e → e.value.family_id = family_id)
    (alive : ∀ {t e}, c.state.store.refresh_tokens.get t = some e → e.alive c.state.clock = true)
    (phase : ∀ i, Phase (own i) family_id (c.threads i))
    (fresh : ∀ i, ¬ (c.threads i).Uses Quiet → c.state.store.refresh_tokens.get (own i) = none)
    (closed : ¬ Open c) : Invariant own family_id c where
  family := family
  alive := alive
  phase := phase
  fresh := fresh
  unique := fun free _ => absurd (.inl ⟨_, free⟩) closed
  apart := fun free _ => closed (.inl ⟨_, free⟩)
  single := fun saving _ => absurd (.inr ⟨_, _, saving⟩) closed
  linked := fun free => absurd (.inl free) closed
  pending := fun saving => absurd (.inr ⟨_, _, saving⟩) closed
  walks := fun opens => absurd opens closed
  revoked := fun _ => closed

/-- Every used token leads to the unused one. -/
private theorem Invariant.path (inv : Invariant own family_id c) {u : String} (free : Unused c.state u) {k : Nat}
    {t : String} {e : Expiring RefreshToken} (stored : c.state.store.refresh_tokens.get t = some e)
    (within : chainWithin c.state.store.refresh_tokens k t) : PathTo c.state.store.refresh_tokens k t u := by
  induction k generalizing t e with
  | zero => simp [chainWithin, stored] at within
  | succ k ih =>
    cases used : e.value.used with
    | false => exact .inl (inv.unique ⟨e, stored, used⟩ free)
    | true =>
      obtain ⟨m, f, link, next⟩ := inv.linked ⟨u, free⟩ stored used
      simp only [chainWithin, stored, link] at within
      exact .inr ⟨e, m, stored, link, ih next within⟩

private theorem update_phase (inv : Invariant own family_id c) {i : Fin n} {q : Call}
    (phase : Phase (own i) family_id q) (j : Fin n) : Phase (own j) family_id (Function.update c.threads i q j) := by
  by_cases same : j = i
  · subst same
    simpa using phase
  · simpa [same] using inv.phase j

/-- A walk over a short chain in a calm moment kills the family. -/
private theorem Invariant.walk (inv : Invariant own family_id c) {i : Fin n} {t : String} {k : Unit → Call}
    (next : c.threads i = .call (.store (.revoke_refresh_family t)) k) (rest : (k ()).Uses Quiet)
    (calm : ∀ j r, ¬ Saves r (c.threads j)) (within : chainWithin c.state.store.refresh_tokens FAMILY_GUARD t) :
    Invariant own family_id ⟨(exec (.store (.revoke_refresh_family t)) c.state).2,
      Function.update c.threads i (k ()), ⟨i, .store (.revoke_refresh_family t), ()⟩ :: c.trace⟩ := by
  have was : ∀ {x e}, (revoke_chain FAMILY_GUARD (some t) c.state.store.refresh_tokens).get x = some e →
      c.state.store.refresh_tokens.get x = some e := revoke_chain_some
  refine .dead (fun stored => inv.family (was stored)) (fun stored => inv.alive (was stored))
    (update_phase inv (.quiet rest)) (fun j busy => ?_) ?_
  · have before : ¬ (c.threads j).Uses Quiet := by
      by_cases same : j = i
      · subst same
        simp only [Function.update_self] at busy
        exact absurd rest busy
      · simpa [same] using busy
    exact revoke_chain_none (inv.fresh j before)
  · rintro (⟨u, e, stored, unused⟩ | ⟨j, r, saving⟩)
    · have free : Unused c.state u := ⟨e, was stored, unused⟩
      obtain ⟨f, present⟩ := inv.walks (.inl ⟨u, free⟩) ⟨k, next, rest⟩
      have gone := walk_removes (inv.path free present within)
      rw [show (revoke_chain FAMILY_GUARD (some t) c.state.store.refresh_tokens).get u = some e from stored] at gone
      cases gone
    · by_cases same : j = i
      · subst same
        simp only [Function.update_self] at saving
        exact not_saves_of_quiet rest saving
      · simp only [Function.update_of_ne same] at saving
        exact calm j r saving

private theorem mark_fails {m : Mem} {t : String} (next : Option String)
    (taken : ¬ ∃ e, m.store.refresh_tokens.get t = some e ∧ e.alive m.clock = true ∧ e.value.used = false) :
    exec (.store (.mark_refresh_used t next)) m = (false, m) := by
  cases stored : m.store.refresh_tokens.get t with
  | none => simp [exec, MemoryStore.exec, MemoryStore.mark_refresh_used, stored]
  | some e =>
    have not : ¬ (e.alive m.clock = true ∧ e.value.used = false) := fun both => taken ⟨e, stored, both⟩
    simp only [exec, MemoryStore.exec, MemoryStore.mark_refresh_used, stored, Bool.and_eq_true, Bool.not_eq_true',
      not, if_false]

/-- Marking takes the live end from the store; the call carries it on, or ends it. -/
private theorem Invariant.mark (inv : Invariant own family_id c) {i : Fin n} {t : String} {next : Option String}
    {k : Bool → Call} (at_ : c.threads i = .call (.store (.mark_refresh_used t next)) k)
    (failed : (k false).Uses Quiet)
    (marked_ : (k true).Uses Quiet ∨
      ∃ r, Saves r (k true) ∧ next = some r.token ∧ Successor (own i) family_id r) :
    Invariant own family_id ⟨(exec (.store (.mark_refresh_used t next)) c.state).2,
      Function.update c.threads i (k (exec (.store (.mark_refresh_used t next)) c.state).1),
      ⟨i, .store (.mark_refresh_used t next), (exec (.store (.mark_refresh_used t next)) c.state).1⟩ :: c.trace⟩ := by
  have busy : ¬ (c.threads i).Uses Quiet := by
    rw [at_]
    exact fun uses => uses.1
  by_cases free : ∃ e, c.state.store.refresh_tokens.get t = some e ∧ e.alive c.state.clock = true ∧ e.value.used = false
  · obtain ⟨e, stored, alive, unused⟩ := free
    rw [mark_alive stored alive unused]
    have freeT : Unused c.state t := ⟨e, stored, unused⟩
    have noSave : ∀ j r, ¬ Saves r (c.threads j) := fun j r => inv.apart freeT
    -- A record after the mark is an old one, or the marked one.
    have cases : ∀ {x f}, (c.state.store.refresh_tokens.set t (marked e next)).get x = some f →
        (x = t ∧ f = marked e next) ∨ (x ≠ t ∧ c.state.store.refresh_tokens.get x = some f) := by
      intro x f storedX
      rw [Table.get_set] at storedX
      split at storedX
      · exact .inl ⟨‹_›, (Option.some.inj storedX).symm⟩
      · exact .inr ⟨‹_›, storedX⟩
    have present : ∀ {x f}, c.state.store.refresh_tokens.get x = some f →
        ∃ f', (c.state.store.refresh_tokens.set t (marked e next)).get x = some f' := by
      intro x f storedX
      rw [Table.get_set]
      split
      · exact ⟨_, rfl⟩
      · exact ⟨f, storedX⟩
    have noneFree : ∀ u, ¬ Unused (withTokens c.state (c.state.store.refresh_tokens.set t (marked e next))) u := by
      rintro u ⟨f, storedU, unusedU⟩
      obtain ⟨-, rfl⟩ | ⟨other, before⟩ := cases storedU
      · cases unusedU
      · exact other (inv.unique ⟨f, before, unusedU⟩ freeT)
    have family : ∀ {x f}, (c.state.store.refresh_tokens.set t (marked e next)).get x = some f →
        f.value.family_id = family_id := by
      intro x f storedX
      obtain ⟨-, rfl⟩ | ⟨-, before⟩ := cases storedX
      · exact (inv.family stored : e.value.family_id = family_id)
      · exact inv.family before
    have alive' : ∀ {x f}, (c.state.store.refresh_tokens.set t (marked e next)).get x = some f →
        f.alive c.state.clock = true := by
      intro x f storedX
      obtain ⟨-, rfl⟩ | ⟨-, before⟩ := cases storedX
      · exact alive
      · exact inv.alive before
    have fresh : ∀ j, ¬ (c.threads j).Uses Quiet →
        (c.state.store.refresh_tokens.set t (marked e next)).get (own j) = none := by
      intro j busyJ
      have absent := inv.fresh j busyJ
      rw [Table.get_set_ne, absent]
      rintro rfl
      simp [absent] at stored
    have before : ∀ j, ¬ (Function.update c.threads i (k true) j).Uses Quiet → ¬ (c.threads j).Uses Quiet := by
      intro j busyJ
      by_cases same : j = i
      · subst same
        exact busy
      · simpa [same] using busyJ
    have others : ∀ {j r}, Saves r (Function.update c.threads i (k true) j) → j = i ∧ Saves r (k true) := by
      intro j r saving
      by_cases same : j = i
      · subst same
        simpa using saving
      · simp only [Function.update_of_ne same] at saving
        exact absurd saving (noSave j r)
    obtain quiet | ⟨r, saves, announced, succ⟩ := marked_
    · refine .dead family alive' (update_phase inv (.quiet quiet)) (fun j busyJ => fresh j (before j busyJ)) ?_
      rintro (⟨u, free⟩ | ⟨j, r, saving⟩)
      · exact noneFree u free
      · exact not_saves_of_quiet quiet (others saving).2
    · refine ⟨family, alive', update_phase inv (.saves r saves succ), fun j busyJ => fresh j (before j busyJ),
        fun free => absurd free (noneFree _), fun free => absurd free (noneFree _), ?_,
        fun ⟨u, free⟩ => absurd free (noneFree u), ?_, ?_, ?_⟩
      · exact fun a b => (others a).1.trans (others b).1.symm
      · intro j r' saving x f storedX usedX
        have same : r'.token = r.token := by rw [saves_unique saves (others saving).2]
        obtain ⟨-, rfl⟩ | ⟨-, beforeX⟩ := cases storedX
        · exact ⟨r.token, announced, .inl same.symm⟩
        · obtain ⟨m, g, link, linked⟩ := inv.linked ⟨t, freeT⟩ beforeX usedX
          exact ⟨m, link, .inr (present linked)⟩
      · intro _ j u walk
        by_cases same : j = i
        · subst same
          simp only [Function.update_self] at walk
          exact absurd walk (not_walks_of_saves saves)
        · simp only [Function.update_of_ne same] at walk
          obtain ⟨f, storedU⟩ := inv.walks (.inl ⟨t, freeT⟩) walk
          exact present storedU
      · rintro ⟨o, listed, walk⟩
        obtain rfl | older := List.mem_cons.1 listed
        · cases walk
        · exact absurd (.inl ⟨t, freeT⟩) (inv.revoked ⟨o, older, walk⟩)
  · rw [mark_fails next free]
    exact inv.move i rfl rfl (.quiet failed) (fun _ => busy) (fun saving => absurd saving (not_saves_of_quiet failed))
      (fun walk => absurd walk (not_walks_of_quiet failed)) rfl

/-- Saving the successor puts the live end back into the store. -/
private theorem Invariant.save (inv : Invariant own family_id c) {i : Fin n} {r : RefreshToken} {k : Unit → Call}
    (at_ : c.threads i = .call (.store (.save_refresh_token r)) k) (rest : (k ()).Uses Quiet)
    (succ : Successor (own i) family_id r) (fresh : ∀ j, j ≠ i → own j ≠ own i) :
    Invariant own family_id ⟨(exec (.store (.save_refresh_token r)) c.state).2, Function.update c.threads i (k ()),
      ⟨i, .store (.save_refresh_token r), ()⟩ :: c.trace⟩ := by
  have saves : Saves r (c.threads i) := by
    rw [at_]
    exact .save rest
  have noneFree : ∀ u, ¬ Unused c.state u := fun u free => inv.apart free saves
  have absent : c.state.store.refresh_tokens.get r.token = none := by
    rw [succ.token]
    exact inv.fresh i (saves_not_quiet saves)
  have others : ∀ {j r'}, ¬ Saves r' (Function.update c.threads i (k ()) j) := by
    intro j r' saving
    by_cases same : j = i
    · subst same
      simp only [Function.update_self] at saving
      exact not_saves_of_quiet rest saving
    · simp only [Function.update_of_ne same] at saving
      exact same (inv.single saving saves)
  have tokens : (exec (.store (.save_refresh_token r)) c.state).2.store.refresh_tokens =
      c.state.store.refresh_tokens.set r.token ⟨r, c.state.clock + REFRESH_TTL_SECS⟩ := rfl
  have cases : ∀ {x f}, (exec (.store (.save_refresh_token r)) c.state).2.store.refresh_tokens.get x = some f →
      (x = r.token ∧ f = ⟨r, c.state.clock + REFRESH_TTL_SECS⟩) ∨ c.state.store.refresh_tokens.get x = some f := by
    intro x f storedX
    rw [tokens, Table.get_set] at storedX
    split at storedX
    · exact .inl ⟨‹_›, (Option.some.inj storedX).symm⟩
    · exact .inr storedX
  have present : ∀ {x f}, c.state.store.refresh_tokens.get x = some f →
      (exec (.store (.save_refresh_token r)) c.state).2.store.refresh_tokens.get x = some f := by
    intro x f storedX
    rw [tokens, Table.get_set_ne _ (fun same => by simp [same, absent] at storedX), storedX]
  have only : ∀ {u}, Unused (exec (.store (.save_refresh_token r)) c.state).2 u → u = r.token := by
    rintro u ⟨f, storedU, unused⟩
    obtain ⟨same, -⟩ | before := cases storedU
    · exact same
    · exact absurd ⟨f, before, unused⟩ (noneFree u)
  refine ⟨fun stored => ?_, fun stored => ?_, update_phase inv (.quiet rest), fun j busy => ?_,
    fun a b => (only a).trans (only b).symm, fun _ => others, fun a => absurd a others, fun _ {t e} stored used => ?_,
    fun a => absurd a others, fun _ {j t} walk => ?_, ?_⟩
  · obtain ⟨-, rfl⟩ | before := cases stored
    · exact succ.family
    · exact inv.family before
  · obtain ⟨-, rfl⟩ | before := cases stored
    · simp [Expiring.alive, exec, REFRESH_TTL_SECS]
    · exact inv.alive before
  · by_cases same : j = i
    · subst same
      simp only [Function.update_self] at busy
      exact absurd rest busy
    · simp only [Function.update_of_ne same] at busy
      rw [tokens, Table.get_set_ne _ (by rw [succ.token]; exact fresh j same)]
      exact inv.fresh j busy
  · obtain ⟨-, rfl⟩ | before := cases stored
    · simp [succ.unused] at used
    · obtain ⟨m, link, rfl | ⟨f, storedM⟩⟩ := inv.pending saves before used
      · exact ⟨_, _, link, Table.get_set_self _ _ _⟩
      · exact ⟨m, f, link, present storedM⟩
  · by_cases same : j = i
    · subst same
      simp only [Function.update_self] at walk
      exact absurd walk (not_walks_of_quiet rest)
    · simp only [Function.update_of_ne same] at walk
      obtain ⟨f, storedT⟩ := inv.walks (.inr ⟨i, r, saves⟩) walk
      exact ⟨f, present storedT⟩
  · rintro ⟨o, listed, walk⟩
    obtain rfl | older := List.mem_cons.1 listed
    · cases walk
    · exact absurd (.inr ⟨i, r, saves⟩) (inv.revoked ⟨o, older, walk⟩)

/-- Every calm step keeps the invariant. -/
theorem invariant_step (distinct : ∀ i j, i ≠ j → own i ≠ own j) (step : Races c c') (short : Short c)
    (calm : Calm c c') (inv : Invariant own family_id c) : Invariant own family_id c' := by
  cases step with
  | @env s changes =>
    obtain ⟨t, -, rfl, alive⟩ := changes
    exact inv.frame rfl (fun stored => alive _ _ stored) inv.phase (fun _ busy => busy) (fun saving => saving)
      (fun opens => inv.walks opens) (fun o listed _ => listed)
  | @act i o k r s next does =>
    obtain ⟨rfl, rfl⟩ : (exec o c.state).1 = r ∧ (exec o c.state).2 = s := by
      rw [show exec o c.state = (r, s) from does]
      exact ⟨rfl, rfl⟩
    cases inv.phase i with
    | reads at_ =>
      obtain ⟨t, k', is, absent, found⟩ := at_
      rw [next] at is
      injection is with sameOp sameK
      subst sameOp
      obtain rfl := eq_of_heq sameK
      exact inv.read next absent found
    | walks t at_ =>
      obtain ⟨k', is, rest⟩ := at_
      rw [next] at is
      injection is with sameOp sameK
      subst sameOp
      obtain rfl := eq_of_heq sameK
      exact inv.walk next rest (calm i t rfl) (short t)
    | marks t at_ =>
      obtain ⟨successor, k', is, failed, succeeded⟩ := at_
      rw [next] at is
      injection is with sameOp sameK
      subst sameOp
      obtain rfl := eq_of_heq sameK
      exact inv.mark next failed succeeded
    | saves r at_ succ =>
      have saving : Saves r (c.threads i) := at_
      rw [next] at at_
      cases at_ with
      | save rest => exact inv.save next rest succ fun j other => distinct j i other
      | later quiet rest =>
        obtain ⟨tokens, clock⟩ := quiet_exec quiet c.state
        exact inv.move i tokens clock (.saves r (rest _) succ) (fun _ => saves_not_quiet saving)
          (fun other => by rw [saves_unique (rest _) other]; exact saving)
          (fun walk => absurd walk (not_walks_of_saves (rest _))) (quiet_not_walk quiet)
    | quiet at_ =>
      rw [next] at at_
      obtain ⟨tokens, clock⟩ := quiet_exec at_.1 c.state
      exact inv.move i tokens clock (.quiet (at_.2 _)) (fun busy => absurd (at_.2 _) busy)
        (fun saving => absurd saving (not_saves_of_quiet (at_.2 _)))
        (fun walk => absurd walk (not_walks_of_quiet (at_.2 _))) (quiet_not_walk at_.1)

private theorem not_saves_of_reads {o f : String} {q : Call} (reads : Reads o f q) {r : RefreshToken} :
    ¬ Saves r q := by
  obtain ⟨t, k, rfl, -⟩ := reads
  intro saves
  cases saves with
  | later quiet => exact quiet

private theorem not_walks_of_reads {o f : String} {q : Call} (reads : Reads o f q) {t : String} : ¬ Walks t q := by
  obtain ⟨t', k, rfl, -⟩ := reads
  rintro ⟨k', same, -⟩
  cases same

/-- The calls start on a connected family. -/
theorem invariant_start (p : Provider) (ent : Entropy) {root : RefreshToken} {s : State}
    (connected : Connected ent root s) (alive : ∀ t e, s.tokens.get t = some e → e.alive s.mem.clock = true)
    (requests : Fin n → Request) :
    Invariant (fun i => ent.uuid (s.served + i) .rotated_token) root.family_id (race p ent s requests) := by
  have starts := fun i : Fin n => handle_starts p (ent.uuid (s.served + i)) (requests i).client (requests i).form
    (requests i).jkt root.family_id
  have noSave : ∀ {i r}, ¬ Saves r ((race p ent s requests).threads i) := by
    intro i r
    obtain reads | quiet := starts i
    · exact not_saves_of_reads reads
    · exact not_saves_of_quiet quiet
  have noWalk : ∀ {i t}, ¬ Walks t ((race p ent s requests).threads i) := by
    intro i t
    obtain reads | quiet := starts i
    · exact not_walks_of_reads reads
    · exact not_walks_of_quiet quiet
  refine ⟨fun stored => (connected.family stored).1, fun stored => alive _ _ stored, fun i => ?_, fun i _ => ?_,
    ?_, fun _ => noSave, fun saving => absurd saving noSave, ?_, fun saving => absurd saving noSave,
    fun _ _ _ walk => absurd walk noWalk, fun ⟨o, listed, _⟩ => absurd listed List.not_mem_nil⟩
  · obtain reads | quiet := starts i
    · exact .reads reads
    · exact .quiet quiet
  · by_contra present
    obtain ⟨e, stored⟩ := Option.ne_none_iff_exists'.1 present
    obtain ⟨j, d, earlier, draw⟩ := connected.drawn stored
    have := (ent.distinct draw).1
    omega
  · rintro t u ⟨e, storedT, unusedT⟩ ⟨f, storedU, unusedU⟩
    exact connected.unique storedT storedU unusedT unusedU
  · rintro ⟨u, f, storedU, unusedU⟩ t e stored used
    obtain ⟨m, g, link, next, -⟩ := connected.linked ⟨u, f, storedU, alive _ _ storedU, unusedU⟩ stored
      (alive _ _ stored) used
    exact ⟨m, g, link, next⟩

end

/-- Any number of calls on a family that was issued and used in sequence before:
    if every step meets the condition, a walk that has returned leaves no unused
    token, and none appears. -/
theorem revoked_family_stays_dead (p : Provider) (ent : Entropy) {m : Mem} (empty : m.store.refresh_tokens = ∅)
    (owner : Client) (account_id scope : String) (resource acr : Option String) (auth_time : Option Nat)
    (key : Option String) (acts : List Act) {s : State}
    (reached : s = run p ent (issued ent m owner account_id scope resource acr auth_time key) acts)
    (orderly : OrderlyRun p ent (issued ent m owner account_id scope resource acr auth_time key) acts)
    (alive : ∀ e ∈ s.tokens.pairs, e.2.alive s.mem.clock = true) {n : Nat} (requests : Fin n → Request)
    {c : Pool Backend Mem (Fin n) (Except OAuthError TokenResponse)}
    (steps : Relation.ReflTransGen (fun c c' => Races c c' ∧ Short c ∧ Calm c c') (race p ent s requests) c)
    (revoked : Revoked c) :
    ∀ u e, c.state.store.refresh_tokens.get u = some e → e.value.family_id = ent.uuid 0 .family_id →
      e.value.used = true := by
  have first := (connected_issued ent empty owner account_id scope resource acr auth_time key).1
  have connected := connected_run p ent first orderly
  rw [← reached] at connected
  have distinct : ∀ i j : Fin n, i ≠ j →
      ent.uuid (s.served + i) .rotated_token ≠ ent.uuid (s.served + j) .rotated_token := by
    intro i j other same
    have numbers := (ent.distinct same).1
    exact other (Fin.ext (by omega))
  have start := invariant_start p ent connected (fun t e stored => alive (t, e) (Table.get_eq_some_iff.1 stored)) requests
  have inv := Pool.invariant (I := Invariant (fun i => ent.uuid (s.served + i) .rotated_token) _)
    (fun step inv => invariant_step distinct step.1 step.2.1 step.2.2 inv) steps start
  intro u e stored _
  by_contra unused
  exact inv.revoked revoked (.inl ⟨u, e, stored, by simpa using unused⟩)

/-- Operations from which a call may still come to a save. -/
def mayPrecedeSave : BackendOp → Bool
  | .store (.save_access_token _) => true
  | .store (.save_refresh_token _) => true
  | .now => true
  | _ => false

/-- A test of the chain length. -/
def shortBefore {n : Nat} (c : Pool Backend Mem (Fin n) (Except OAuthError TokenResponse)) : Bool :=
  c.state.store.refresh_tokens.pairs.all fun e => chainWithin c.state.store.refresh_tokens FAMILY_GUARD e.1

/-- A test of the chain length and of the condition before a turn. -/
def calmBefore {n : Nat} (c : Pool Backend Mem (Fin n) (Except OAuthError TokenResponse)) (i : Fin n) : Bool :=
  shortBefore c && (!((c.threads i).next.any isWalk) || decide (∀ j, (c.threads j).next.any mayPrecedeSave = false))

private theorem saves_next {r : RefreshToken} {p : Call} (saves : Saves r p) : p.next.any mayPrecedeSave = true := by
  cases saves with
  | save => rfl
  | @later o k quiet rest =>
    cases o with
    | now => rfl
    | ciba o => exact quiet.elim
    | store o =>
      cases o with
      | save_access_token => rfl
      | _ => exact quiet.elim

private theorem short_of_test {n : Nat} {c : Pool Backend Mem (Fin n) (Except OAuthError TokenResponse)}
    (test : shortBefore c = true) : Short c := by
  intro t
  cases stored : c.state.store.refresh_tokens.get t with
  | none => simp [chainWithin, FAMILY_GUARD, stored]
  | some e => exact List.all_eq_true.1 test (t, e) (Table.get_eq_some_iff.1 stored)

private theorem calmBefore_promises {n : Nat} (c : Pool Backend Mem (Fin n) (Except OAuthError TokenResponse))
    (i : Fin n) (test : calmBefore c i = true) : Short c ∧ Calm c (Pool.fire exec c i) := by
  simp only [calmBefore, Bool.and_eq_true, Bool.or_eq_true, Bool.not_eq_true', decide_eq_true_eq] at test
  obtain ⟨short, calm⟩ := test
  refine ⟨short_of_test short, fun j t stepped u r saves => ?_⟩
  obtain other | none := calm
  · unfold Pool.fire at stepped
    split at stepped
    · simp at stepped
    · rename_i next
      rw [next] at other
      cases stepped
      cases other
  · have idle := none u
    rw [saves_next saves] at idle
    cases idle

/-- Two clients present the same token. -/
def both (t : String) : Fin 2 → Request := fun _ => ⟨Reference.rp, [("refresh_token", t)], none⟩

/-- One rotation before the race; then both present the rotated token, both read
    it as used, and both walk. -/
def walkedTwice : Pool Backend Mem (Fin 2) (Except OAuthError TokenResponse) :=
  Pool.schedule exec (race Reference.provider .unary
    (act Reference.provider .unary firstToken (.refresh Reference.rp [("refresh_token", "r")] none)) (both "r"))
    (Pool.turns [0, 1, 0, 1])

theorem revoked_family_stays_dead_two_walks :
    Revoked walkedTwice ∧ ∀ u e, walkedTwice.state.store.refresh_tokens.get u = some e →
      e.value.family_id = "f" → e.value.used = true := by
  have revoked : Revoked walkedTwice := by decide +kernel
  exact ⟨revoked, revoked_family_stays_dead Reference.provider .unary rfl Reference.rp "alice" "openid offline_access"
    none none none none [.refresh Reference.rp [("refresh_token", "r")] none] rfl (by decide +kernel)
    (by decide +kernel) (both "r")
    (Pool.schedule_steps_where (P := fun c i => calmBefore c i = true) calmBefore_promises (by decide +kernel)) revoked⟩

/-- Both present the first token. The first call rotates it; before it saves the
    successor the second finds the token used and walks; then the first saves. -/
theorem walk_in_gap_spares_successor :
    ∃ c, Relation.ReflTransGen (fun c c' => Races c c' ∧ Short c)
        (race Reference.provider .unary firstToken (both "r")) c ∧
      c.Finished ∧ Revoked c ∧
      ∃ u e, c.state.store.refresh_tokens.get u = some e ∧ e.value.family_id = "f" ∧ e.value.used = false := by
  refine ⟨Pool.schedule exec (race Reference.provider .unary firstToken (both "r")) [0, 0, 1, 1, 0, 0, 0],
    ?_, Pool.finished_iff.2 (by decide +kernel), by decide +kernel, "1n",
    ⟨⟨"1n", "rp", "alice", "openid offline_access", none, none, none, none, "f", false, none⟩, 1209600⟩,
    by decide +kernel, rfl, rfl⟩
  exact Pool.schedule_steps_where (P := fun c _ => shortBefore c = true) (fun _ _ => short_of_test) (by decide +kernel)

end RustOp.RefreshRace
