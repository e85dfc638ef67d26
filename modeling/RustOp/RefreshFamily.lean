import RustOp.GrantSpecs
import RustOp.Reference

/-!
Reuse of a rotated refresh token in the memory store. The walk along
`replaced_by` removes the live end of the family as long as the chain from the
presented token is unbroken and not longer than the walk. Rotations and expiry
keep it unbroken; a revocation of a used token cuts it.
-/
namespace RustOp.RefreshFamily
open RustOp.Effects RustOp.Text RustOp.Memory

/-- The refresh tokens of the memory store. -/
abbrev Tokens := Table String (Expiring RefreshToken)

/-! ### The walk -/

/-- At most `k` records are met from `t` along `replaced_by`. -/
def chainWithin (map : Tokens) : Nat → String → Bool
  | 0, t => (map.get t).isNone
  | k + 1, t =>
    match map.get t with
    | none => true
    | some e =>
      match e.value.replaced_by with
      | none => true
      | some n => chainWithin map k n

/-- `u` is among the first `k` tokens from `t`. -/
def PathTo (map : Tokens) : Nat → String → String → Prop
  | 0, _, _ => False
  | k + 1, t, u => t = u ∨ ∃ e n, map.get t = some e ∧ e.value.replaced_by = some n ∧ PathTo map k n u

private theorem PathTo.succ {map : Tokens} {k : Nat} {t u : String} (path : PathTo map k t u) :
    PathTo map (k + 1) t u := by
  induction k generalizing t with
  | zero => exact path.elim
  | succ k ih =>
    obtain rfl | ⟨e, n, stored, link, rest⟩ := path
    · exact .inl rfl
    · exact .inr ⟨e, n, stored, link, ih rest⟩

/-- Without `t` the path is the same, unless it passes `t` and so starts there too. -/
private theorem PathTo.avoids {map : Tokens} {k : Nat} {n u : String} (t : String) (path : PathTo map k n u) :
    PathTo (map.remove t) k n u ∨ PathTo map k t u := by
  induction k generalizing n with
  | zero => exact path.elim
  | succ k ih =>
    obtain rfl | ⟨e, m, stored, link, rest⟩ := path
    · exact .inl (.inl rfl)
    · by_cases same : n = t
      · subst same
        exact .inr (.inr ⟨e, m, stored, link, rest⟩)
      · obtain kept | through := ih rest
        · exact .inl (.inr ⟨e, m, by rw [Table.get_remove_ne _ same, stored], link, kept⟩)
        · exact .inr through.succ

theorem revoke_chain_none {k : Nat} {start : Option String} {map : Tokens} {u : String}
    (absent : map.get u = none) : (revoke_chain k start map).get u = none := by
  obtain ⟨kept, walk⟩ := revoke_chain_kept k start map
  simp [walk, absent]

private theorem revoke_chain_succ {k : Nat} {start : Option String} {map : Tokens} {u : String}
    (gone : (revoke_chain k start map).get u = none) : (revoke_chain (k + 1) start map).get u = none := by
  induction k generalizing start map with
  | zero => exact revoke_chain_none gone
  | succ k ih =>
    cases start with
    | none => exact gone
    | some t => exact ih gone

/-- The walk removes every token on its path. -/
theorem walk_removes {map : Tokens} {k : Nat} {t u : String} (path : PathTo map k t u) :
    (revoke_chain k (some t) map).get u = none := by
  induction k generalizing map t with
  | zero => exact path.elim
  | succ k ih =>
    obtain rfl | ⟨e, n, stored, link, rest⟩ := path
    · exact revoke_chain_start k t map
    · obtain kept | shorter := rest.avoids t
      · simp only [revoke_chain, stored, Option.bind_some, link]
        exact ih kept
      · exact revoke_chain_succ (ih shorter)

/-- A walk leaves nothing that was not there. -/
theorem revoke_chain_some {k : Nat} {start : Option String} {map : Tokens} {t : String}
    {e : Expiring RefreshToken} (stored : (revoke_chain k start map).get t = some e) : map.get t = some e := by
  obtain ⟨kept, walk⟩ := revoke_chain_kept k start map
  rw [walk] at stored
  split at stored
  · exact stored
  · cases stored

/-! ### Runs -/

/-- A refresh request or a revocation of an authenticated client, a sweep, or
    the clock moving on. -/
inductive Act where
  | refresh (client : Client) (form : Form) (jkt : Option String)
  | revoke (client : Client) (form : Form)
  | sweep
  | tick (t : Nat)

/-- The store and the number of requests it served. -/
structure State where
  mem : Mem
  served : Nat

def State.tokens (s : State) : Tokens := s.mem.store.refresh_tokens

def act (p : Provider) (ent : Entropy) (s : State) : Act → State
  | .refresh client form jkt =>
    ⟨(Prog.run exec (RefreshTokenGrant.handle p (ent.uuid s.served) client form jkt) s.mem).2, s.served + 1⟩
  | .revoke client form => ⟨(Prog.run exec (revoke_as client form) s.mem).2, s.served + 1⟩
  | .sweep => ⟨(exec (.store .sweep_expired) s.mem).2, s.served⟩
  | .tick t => ⟨{ s.mem with clock := max s.mem.clock t }, s.served⟩

/-- One refresh token of a family, issued to `owner` into a store without any. -/
def issued (ent : Entropy) (m : Mem) (owner : Client) (account_id scope : String) (resource acr : Option String)
    (auth_time : Option Nat) (jkt : Option String) : State :=
  ⟨(Prog.run exec (maybe_issue_refresh (ent.uuid 0) owner.client_id account_id scope resource acr auth_time jkt
    owner.is_public) m).2, 1⟩

/-- The condition on a step: a rotated token that passes the checks is presented
    unexpired and with at most as many records after it as one walk removes, and
    a revocation is not of a token already used. -/
def Orderly (s : State) : Act → Prop
  | .refresh client form jkt => ∀ t ∈ form.get "refresh_token", ∀ e ∈ s.tokens.get t, e.value.used = true →
      RefreshTokenGrant.Presentable client jkt e.value →
      e.alive s.mem.clock ∧ chainWithin s.tokens FAMILY_GUARD t
  | .revoke client form => ∀ t ∈ form.get "token", ∀ e ∈ s.tokens.get t, e.alive s.mem.clock →
      e.value.client_id = client.client_id → e.value.used = false
  | .sweep => True
  | .tick _ => True

instance (s : State) (a : Act) : Decidable (Orderly s a) := by
  cases a <;> unfold Orderly <;> infer_instance

/-- Every step of a run meets the condition in the state it starts from. -/
def OrderlyRun (p : Provider) (ent : Entropy) : State → List Act → Prop
  | _, [] => True
  | s, a :: rest => Orderly s a ∧ OrderlyRun p ent (act p ent s a) rest

instance decidableOrderlyRun (p : Provider) (ent : Entropy) : (s : State) → (acts : List Act) →
    Decidable (OrderlyRun p ent s acts)
  | _, [] => inferInstanceAs (Decidable True)
  | s, a :: rest =>
    have := decidableOrderlyRun p ent (act p ent s a) rest
    inferInstanceAs (Decidable (Orderly s a ∧ OrderlyRun p ent (act p ent s a) rest))

/-! ### What a step does to the tokens -/

/-- Only expired entries are missing. -/
def Trims (now : Nat) (before after : Tokens) : Prop :=
  ∀ x, after.get x = before.get x ∨ (after.get x = none ∧ ∀ e, before.get x = some e → e.alive now = false)

private theorem Trims.refl (now : Nat) (map : Tokens) : Trims now map map := fun _ => .inl rfl

private theorem trims_get_alive (now : Nat) (key : String) (map : Tokens) : Trims now map (get_alive now key map).2 := by
  intro x
  unfold get_alive
  cases stored : map.get key with
  | none => exact .inl rfl
  | some e =>
    cases alive : e.alive now with
    | true => simp [alive]
    | false =>
      by_cases same : x = key
      · subst same
        exact .inr ⟨by simp [alive], fun e' stored' => by rw [stored] at stored'; cases stored'; exact alive⟩
      · exact .inl (by simp [alive, Table.get_remove_ne _ same])

private theorem trims_retain (now : Nat) (map : Tokens) : Trims now map (retain_alive now map) := by
  intro x
  rw [retain_alive, Table.get_retain]
  cases stored : map.get x with
  | none => exact .inl rfl
  | some e =>
    by_cases alive : e.expires_at > now
    · exact .inl (by simp [alive])
    · refine .inr ⟨by simpa [Option.filter] using alive, fun e' same => ?_⟩
      cases same
      simpa [Expiring.alive] using alive

private theorem read_alive {m : Mem} {t : String} {e : Expiring RefreshToken}
    (stored : m.store.refresh_tokens.get t = some e) (alive : e.alive m.clock = true) :
    exec (.store (.get_refresh_token t)) m = (some e.value, m) := by
  simp [exec, MemoryStore.exec, get_alive, stored, alive]

private theorem read_dead {m : Mem} {t : String}
    (dead : ∀ e, m.store.refresh_tokens.get t = some e → e.alive m.clock = false) :
    (exec (.store (.get_refresh_token t)) m).1 = none := by
  simp only [exec, MemoryStore.exec, get_alive_fst]
  exact live_eq_none.2 dead

/-- The token marked used, with its successor. -/
def marked (e : Expiring RefreshToken) (next : Option String) : Expiring RefreshToken :=
  ⟨{ e.value with used := true, replaced_by := next }, e.expires_at⟩

/-- The same store with other refresh tokens. -/
def withTokens (m : Mem) (tokens : Tokens) : Mem :=
  { m with store := { m.store with refresh_tokens := tokens } }

theorem mark_alive {m : Mem} {t : String} {e : Expiring RefreshToken}
    (stored : m.store.refresh_tokens.get t = some e) (alive : e.alive m.clock = true) (unused : e.value.used = false)
    (next : Option String) :
    exec (.store (.mark_refresh_used t next)) m =
      (true, withTokens m (m.store.refresh_tokens.set t (marked e next))) := by
  simp [exec, MemoryStore.exec, MemoryStore.mark_refresh_used, stored, alive, unused, marked, withTokens]

/-- A rotation keeps the marked token, and adds the successor if it got that far. -/
private theorem reissue_tokens (p : Provider) (uuid : Draw → String) (client : Client) (jkt : Option String)
    (pre : RefreshToken) (scope : String) (next : Option String) (m : Mem) :
    let out := (Prog.run exec (RefreshTokenGrant.reissue p uuid client jkt pre scope next) m).2
    out.clock = m.clock ∧
    (out.store.refresh_tokens = m.store.refresh_tokens ∨
      ∃ n, next = some n ∧ out.store.refresh_tokens = m.store.refresh_tokens.set n
        ⟨RefreshTokenGrant.successor client pre scope n, m.clock + REFRESH_TTL_SECS⟩) := by
  unfold RefreshTokenGrant.reissue issue_access_and_id
  simp only [store, now, Prog.call_bind, Prog.ret_bind, Prog.run_call]
  cases p.signer_for client.id_token_signed_response_alg with
  | error e => exact ⟨rfl, .inl rfl⟩
  | ok alg =>
    cases next with
    | none => exact ⟨rfl, .inl rfl⟩
    | some n => exact ⟨rfl, .inr ⟨n, rfl, rfl⟩⟩

/-- Everything a refresh request can do to the tokens. -/
inductive Effect (uuid : Draw → String) (client : Client) (form : Form) (jkt : Option String) (now : Nat)
    (before after : Tokens) : Prop where
  | none (trims : Trims now before after)
      (quiet : ∀ t e, form.get "refresh_token" = some t → before.get t = some e → e.value.used = true →
        e.alive now = true → ¬ RefreshTokenGrant.Presentable client jkt e.value)
  | reuse (t : String) (e : Expiring RefreshToken) (sent : form.get "refresh_token" = some t)
      (stored : before.get t = some e) (alive : e.alive now = true) (used : e.value.used = true)
      (fits : RefreshTokenGrant.Presentable client jkt e.value)
      (walked : after = revoke_chain FAMILY_GUARD (some t) before)
  | rotation (t : String) (e : Expiring RefreshToken) (scope : String) (sent : form.get "refresh_token" = some t)
      (stored : before.get t = some e) (alive : e.alive now = true) (unused : e.value.used = false)
      (fits : RefreshTokenGrant.Presentable client jkt e.value)
      (rotated : after = before.set t (marked e (RefreshTokenGrant.new_refresh uuid scope)) ∨
        RefreshTokenGrant.new_refresh uuid scope = some (uuid .rotated_token) ∧
        after = (before.set t (marked e (some (uuid .rotated_token)))).set (uuid .rotated_token)
          ⟨RefreshTokenGrant.successor client e.value scope (uuid .rotated_token), now + REFRESH_TTL_SECS⟩)

theorem handle_effect (p : Provider) (uuid : Draw → String) (client : Client) (form : Form) (jkt : Option String)
    (m : Mem) :
    let out := (Prog.run exec (RefreshTokenGrant.handle p uuid client form jkt) m).2
    out.clock = m.clock ∧
      Effect uuid client form jkt m.clock m.store.refresh_tokens out.store.refresh_tokens := by
  unfold RefreshTokenGrant.handle
  cases sent : form.get "refresh_token" with
  | none => exact ⟨rfl, .none (.refl _ _) fun t e sent' => by simp [sent] at sent'⟩
  | some t =>
    simp only [store, Prog.call_bind, Prog.ret_bind, Prog.run_call]
    by_cases live : ∃ e, m.store.refresh_tokens.get t = some e ∧ e.alive m.clock = true
    · obtain ⟨e, stored, alive⟩ := live
      have quietUnless : (RefreshTokenGrant.Presentable client jkt e.value → e.value.used = false) →
          Effect uuid client form jkt m.clock m.store.refresh_tokens m.store.refresh_tokens := by
        intro fine
        refine .none (.refl _ _) fun t' e' sent' stored' used _ fits => ?_
        obtain rfl : t = t' := Option.some.inj (sent.symm.trans sent')
        obtain rfl : e = e' := Option.some.inj (stored.symm.trans stored')
        simp [fine fits] at used
      rw [read_alive stored alive]
      dsimp only
      by_cases owner : e.value.client_id = client.client_id
      · rw [if_neg (not_not.2 owner)]
        cases binding : RefreshTokenGrant.check_binding client e.value jkt with
        | error err => exact ⟨rfl, quietUnless fun fits => by simp [fits.binding] at binding⟩
        | ok u =>
          have fits : RefreshTokenGrant.Presentable client jkt e.value := ⟨owner, binding⟩
          dsimp only
          cases used : e.value.used with
          | true => exact ⟨rfl, .reuse t e sent stored alive used fits rfl⟩
          | false =>
            cases granted : RefreshTokenGrant.requested_scope form e.value with
            | error err => exact ⟨rfl, quietUnless fun _ => used⟩
            | ok scope =>
              simp only [Bool.false_eq_true, ↓reduceIte, Prog.run_call, mark_alive stored alive used, Bool.not_true]
              obtain ⟨clock, same | ⟨n, next, saved⟩⟩ := reissue_tokens p uuid client jkt e.value scope
                (RefreshTokenGrant.new_refresh uuid scope)
                (withTokens m (m.store.refresh_tokens.set t (marked e (RefreshTokenGrant.new_refresh uuid scope))))
              · exact ⟨clock, .rotation t e scope sent stored alive used fits (.inl same)⟩
              · have drawn : n = uuid .rotated_token := by
                  unfold RefreshTokenGrant.new_refresh at next
                  split at next <;> simp_all
                subst drawn
                refine ⟨clock, .rotation t e scope sent stored alive used fits (.inr ⟨next, ?_⟩)⟩
                rw [saved, next]
                rfl
      · rw [if_pos owner]
        exact ⟨rfl, quietUnless fun fits => absurd fits.client_id owner⟩
    · have dead : ∀ e, m.store.refresh_tokens.get t = some e → e.alive m.clock = false := by
        intro e stored
        by_contra alive
        exact live ⟨e, stored, by simpa using alive⟩
      rw [read_dead dead]
      refine ⟨rfl, .none (trims_get_alive _ _ _) fun t' e sent' stored _ alive => ?_⟩
      obtain rfl : t = t' := Option.some.inj (sent.symm.trans sent')
      simp [dead e stored] at alive

/-- A revocation removes at most the token it names, live and the client's own. -/
theorem revoke_effect (client : Client) (form : Form) (m : Mem) :
    let out := (Prog.run exec (revoke_as client form) m).2
    out.clock = m.clock ∧
    (Trims m.clock m.store.refresh_tokens out.store.refresh_tokens ∨
      ∃ t e, form.get "token" = some t ∧ m.store.refresh_tokens.get t = some e ∧ e.alive m.clock ∧
        e.value.client_id = client.client_id ∧ out.store.refresh_tokens = m.store.refresh_tokens.remove t) := by
  unfold revoke_as
  cases sent : form.get "token" with
  | none => exact ⟨rfl, .inl (.refl _ _)⟩
  | some t =>
    dsimp only
    have access : ∃ m1, (Prog.run exec (revoke_access_as client t) m).2 = m1 ∧ m1.clock = m.clock ∧
        m1.store.refresh_tokens = m.store.refresh_tokens := by
      refine ⟨_, rfl, ?_⟩
      simp only [revoke_access_as, store, Prog.call_bind, Prog.ret_bind, Prog.run_call]
      cases (exec (.store (.get_access_token t)) m).1 with
      | none => exact ⟨rfl, rfl⟩
      | some a => dsimp only; split <;> exact ⟨rfl, rfl⟩
    obtain ⟨m1, ran, clock, same⟩ := access
    rw [Prog.run_bind, ran, Prog.run_bind, ← clock, ← same]
    simp only [revoke_refresh_as, store, Prog.call_bind, Prog.ret_bind, Prog.run_call]
    by_cases live : ∃ e, m1.store.refresh_tokens.get t = some e ∧ e.alive m1.clock = true
    · obtain ⟨e, stored, alive⟩ := live
      rw [read_alive stored alive]
      dsimp only
      by_cases owner : e.value.client_id = client.client_id
      · rw [if_pos owner]
        exact ⟨rfl, .inr ⟨t, e, rfl, stored, alive, owner, rfl⟩⟩
      · rw [if_neg owner]
        exact ⟨rfl, .inl (.refl _ _)⟩
    · rw [read_dead fun e stored => by by_contra alive; exact live ⟨e, stored, by simpa using alive⟩]
      exact ⟨rfl, .inl (trims_get_alive _ _ _)⟩

/-! ### The family stays connected -/

/-- A token that could still be rotated. -/
def LiveIn (s : State) (t : String) : Prop :=
  ∃ e, s.tokens.get t = some e ∧ e.alive s.mem.clock ∧ e.value.used = false

/-- Every token is of the family, at most one is unused, and while one is live
    every unexpired used one leads on to a token that lives at least as long. -/
structure Connected (ent : Entropy) (root : RefreshToken) (s : State) : Prop where
  family : ∀ {t e}, s.tokens.get t = some e → e.value.family_id = root.family_id ∧
    e.value.client_id = root.client_id ∧ e.value.jkt = root.jkt
  drawn : ∀ {t e}, s.tokens.get t = some e → ∃ i d, i < s.served ∧ t = ent.uuid i d
  bounded : ∀ {t e}, s.tokens.get t = some e → e.expires_at ≤ s.mem.clock + REFRESH_TTL_SECS
  unique : ∀ {t u e f}, s.tokens.get t = some e → s.tokens.get u = some f → e.value.used = false →
    f.value.used = false → t = u
  linked : (∃ u, LiveIn s u) → ∀ {t e}, s.tokens.get t = some e → e.alive s.mem.clock → e.value.used = true →
    ∃ n f, e.value.replaced_by = some n ∧ s.tokens.get n = some f ∧ e.expires_at ≤ f.expires_at

private theorem alive_of_le {e f : Expiring RefreshToken} {now later : Nat} (le : e.expires_at ≤ f.expires_at)
    (time : now ≤ later) (alive : e.alive later = true) : f.alive now = true := by
  simp only [Expiring.alive, decide_eq_true_eq] at *
  omega

/-- From an unexpired token the path leads to the live one. -/
private theorem Connected.path {ent : Entropy} {root : RefreshToken} {s : State} (connected : Connected ent root s)
    {u : String} (live : LiveIn s u) {k : Nat} {t : String} {e : Expiring RefreshToken}
    (stored : s.tokens.get t = some e) (alive : e.alive s.mem.clock = true) (within : chainWithin s.tokens k t) :
    PathTo s.tokens k t u := by
  induction k generalizing t e with
  | zero => simp [chainWithin, stored] at within
  | succ k ih =>
    cases used : e.value.used with
    | false =>
      obtain ⟨f, storedU, -, unused⟩ := live
      exact .inl (connected.unique stored storedU used unused)
    | true =>
      obtain ⟨n, f, link, next, longer⟩ := connected.linked ⟨u, live⟩ stored alive used
      simp only [chainWithin, stored, link] at within
      exact .inr ⟨e, n, stored, link, ih next (alive_of_le longer le_rfl alive) within⟩

/-- Losing expired tokens, to the clock or to a sweep, keeps the family connected. -/
private theorem Connected.trim {ent : Entropy} {root : RefreshToken} {s s' : State}
    (connected : Connected ent root s) (served : s.served ≤ s'.served) (clock : s.mem.clock ≤ s'.mem.clock)
    (trims : Trims s'.mem.clock s.tokens s'.tokens) : Connected ent root s' := by
  have was : ∀ {t e}, s'.tokens.get t = some e → s.tokens.get t = some e := by
    intro t e stored
    obtain same | ⟨gone, -⟩ := trims t
    · rw [← same, stored]
    · rw [gone] at stored
      cases stored
  refine ⟨fun stored => connected.family (was stored), fun stored => ?_, fun stored => ?_,
    fun a b => connected.unique (was a) (was b), ?_⟩
  · obtain ⟨i, d, earlier, draw⟩ := connected.drawn (was stored)
    exact ⟨i, d, earlier.trans_le served, draw⟩
  · exact (connected.bounded (was stored)).trans (Nat.add_le_add_right clock _)
  · rintro ⟨u, f, storedU, aliveU, unused⟩ t e stored alive used
    obtain ⟨n, f', link, next, longer⟩ := connected.linked
      ⟨u, f, was storedU, alive_of_le le_rfl clock aliveU, unused⟩ (was stored) (alive_of_le le_rfl clock alive) used
    obtain same | ⟨-, expired⟩ := trims n
    · exact ⟨n, f', link, same.trans next, longer⟩
    · have still : f'.alive s'.mem.clock = true := alive_of_le longer le_rfl alive
      simp [expired f' next] at still

/-- Without a live token the family is connected as long as its tokens are old ones. -/
private theorem Connected.dead {ent : Entropy} {root : RefreshToken} {s s' : State} (connected : Connected ent root s)
    (served : s.served ≤ s'.served) (clock : s'.mem.clock = s.mem.clock)
    (was : ∀ {t e}, s'.tokens.get t = some e → ∃ e', s.tokens.get t = some e' ∧ e.expires_at = e'.expires_at ∧
      e.value.family_id = e'.value.family_id ∧ e.value.client_id = e'.value.client_id ∧ e.value.jkt = e'.value.jkt ∧
      (e.value.used = false → e'.value.used = false))
    (none : ∀ u, ¬ LiveIn s' u) : Connected ent root s' := by
  refine ⟨fun stored => ?_, fun stored => ?_, fun stored => ?_, fun a b unusedA unusedB => ?_, ?_⟩
  · obtain ⟨e', before, -, family, client, key, -⟩ := was stored
    rw [family, client, key]
    exact connected.family before
  · obtain ⟨e', before, -⟩ := was stored
    obtain ⟨i, d, earlier, draw⟩ := connected.drawn before
    exact ⟨i, d, earlier.trans_le served, draw⟩
  · obtain ⟨e', before, expires, -⟩ := was stored
    rw [expires, clock]
    exact connected.bounded before
  · obtain ⟨a', beforeA, -, -, -, -, freshA⟩ := was a
    obtain ⟨b', beforeB, -, -, -, -, freshB⟩ := was b
    exact connected.unique beforeA beforeB (freshA unusedA) (freshB unusedB)
  · rintro ⟨u, live⟩
    exact absurd live (none u)

/-- A walk from an unexpired token takes the live one with it. -/
private theorem Connected.walk {ent : Entropy} {root : RefreshToken} {s s' : State} (connected : Connected ent root s)
    (served : s.served ≤ s'.served) (clock : s'.mem.clock = s.mem.clock) {t : String} {e : Expiring RefreshToken}
    (stored : s.tokens.get t = some e) (alive : e.alive s.mem.clock = true)
    (within : chainWithin s.tokens FAMILY_GUARD t)
    (walked : s'.tokens = revoke_chain FAMILY_GUARD (some t) s.tokens) :
    Connected ent root s' ∧ ∀ u, ¬ LiveIn s' u := by
  have none : ∀ u, ¬ LiveIn s' u := by
    rintro u ⟨f, storedU, aliveU, unused⟩
    have live : LiveIn s u := ⟨f, revoke_chain_some (walked ▸ storedU), clock ▸ aliveU, unused⟩
    rw [walked, walk_removes (connected.path live stored alive within)] at storedU
    cases storedU
  refine ⟨connected.dead served clock (fun stored => ?_) none, none⟩
  exact ⟨_, revoke_chain_some (walked ▸ stored), rfl, rfl, rfl, rfl, id⟩

/-- Removing the unused token leaves no live one. -/
private theorem Connected.revoke {ent : Entropy} {root : RefreshToken} {s s' : State}
    (connected : Connected ent root s) (served : s.served ≤ s'.served) (clock : s'.mem.clock = s.mem.clock)
    {t : String} {e : Expiring RefreshToken} (stored : s.tokens.get t = some e) (unused : e.value.used = false)
    (removed : s'.tokens = s.tokens.remove t) : Connected ent root s' := by
  have was : ∀ {x f}, s'.tokens.get x = some f → x ≠ t ∧ s.tokens.get x = some f := by
    intro x f storedX
    rw [removed, Table.get_remove] at storedX
    split at storedX
    · cases storedX
    · exact ⟨‹_›, storedX⟩
  refine connected.dead served clock (fun storedX => ⟨_, (was storedX).2, rfl, rfl, rfl, rfl, id⟩) ?_
  rintro u ⟨f, storedU, -, unusedU⟩
  exact (was storedU).1 (connected.unique (was storedU).2 stored unusedU unused)

private theorem Connected.mark {ent : Entropy} {root : RefreshToken} {s s' : State} (connected : Connected ent root s)
    (served : s.served ≤ s'.served) (clock : s'.mem.clock = s.mem.clock) {t : String} {e : Expiring RefreshToken}
    (stored : s.tokens.get t = some e) (unused : e.value.used = false) (next : Option String)
    (marks : s'.tokens = s.tokens.set t (marked e next)) : Connected ent root s' := by
  refine connected.dead served clock (fun {x f} storedX => ?_) ?_
  · rw [marks, Table.get_set] at storedX
    split at storedX
    · rename_i same
      cases storedX
      exact ⟨e, same ▸ stored, rfl, rfl, rfl, rfl, fun fresh => by simp [marked] at fresh⟩
    · exact ⟨f, storedX, rfl, rfl, rfl, rfl, id⟩
  · rintro u ⟨f, storedU, -, unusedU⟩
    rw [marks, Table.get_set] at storedU
    split at storedU
    · cases storedU
      simp [marked] at unusedU
    · exact absurd (connected.unique storedU stored unusedU unused) ‹_›

/-- A rotation hands the live end on to the successor. -/
private theorem Connected.rotate {ent : Entropy} {root : RefreshToken} {s s' : State}
    (connected : Connected ent root s) (served : s'.served = s.served + 1) (clock : s'.mem.clock = s.mem.clock)
    {t : String} {e : Expiring RefreshToken} (stored : s.tokens.get t = some e) (alive : e.alive s.mem.clock = true)
    (unused : e.value.used = false) {client : Client} (owner : e.value.client_id = client.client_id) {scope : String}
    (rotated : s'.tokens = (s.tokens.set t (marked e (some (ent.uuid s.served .rotated_token)))).set
      (ent.uuid s.served .rotated_token)
      ⟨RefreshTokenGrant.successor client e.value scope (ent.uuid s.served .rotated_token),
        s.mem.clock + REFRESH_TTL_SECS⟩) : Connected ent root s' := by
  generalize draw : ent.uuid s.served .rotated_token = n at rotated
  have fresh : ∀ {x f}, s.tokens.get x = some f → x ≠ n := by
    intro x f storedX same
    obtain ⟨i, d, earlier, drawn⟩ := connected.drawn storedX
    exact absurd (ent.distinct (drawn.symm.trans (same.trans draw.symm))).1 earlier.ne
  -- Every token after the rotation is the successor, the marked one, or an old one.
  have cases : ∀ {x f}, s'.tokens.get x = some f →
      (x = n ∧ f = ⟨RefreshTokenGrant.successor client e.value scope n, s.mem.clock + REFRESH_TTL_SECS⟩) ∨
      (x = t ∧ f = marked e (some n)) ∨ (x ≠ t ∧ s.tokens.get x = some f) := by
    intro x f storedX
    rw [rotated, Table.get_set] at storedX
    split at storedX
    · exact .inl ⟨‹_›, (Option.some.inj storedX).symm⟩
    · rw [Table.get_set] at storedX
      split at storedX
      · exact .inr (.inl ⟨‹_›, (Option.some.inj storedX).symm⟩)
      · exact .inr (.inr ⟨‹_›, storedX⟩)
  have old := connected.family stored
  have bound : e.expires_at ≤ s.mem.clock + REFRESH_TTL_SECS := connected.bounded stored
  have atNew : s'.tokens.get n =
      some ⟨RefreshTokenGrant.successor client e.value scope n, s.mem.clock + REFRESH_TTL_SECS⟩ := by
    rw [rotated, Table.get_set_self]
  have present : ∀ {x f}, s.tokens.get x = some f → ∃ f', s'.tokens.get x = some f' ∧ f'.expires_at = f.expires_at := by
    intro x f storedX
    rw [rotated, Table.get_set_ne _ (fresh storedX)]
    by_cases same : x = t
    · subst same
      rw [stored] at storedX
      cases storedX
      exact ⟨_, Table.get_set_self _ _ _, rfl⟩
    · exact ⟨f, by rw [Table.get_set_ne _ same, storedX], rfl⟩
  refine ⟨fun storedX => ?_, fun storedX => ?_, fun storedX => ?_, fun a b unusedA unusedB => ?_, ?_⟩
  · obtain ⟨-, rfl⟩ | ⟨-, rfl⟩ | ⟨-, before⟩ := cases storedX
    · exact ⟨old.1, owner.symm.trans old.2.1, old.2.2⟩
    · exact old
    · exact connected.family before
  · obtain ⟨rfl, -⟩ | ⟨rfl, -⟩ | ⟨-, before⟩ := cases storedX
    · exact ⟨s.served, .rotated_token, by omega, draw.symm⟩
    · obtain ⟨i, d, earlier, drawn⟩ := connected.drawn stored
      exact ⟨i, d, by omega, drawn⟩
    · obtain ⟨i, d, earlier, drawn⟩ := connected.drawn before
      exact ⟨i, d, by omega, drawn⟩
  · rw [clock]
    obtain ⟨-, rfl⟩ | ⟨-, rfl⟩ | ⟨-, before⟩ := cases storedX
    · exact le_rfl
    · exact bound
    · exact connected.bounded before
  · obtain ⟨rfl, -⟩ | ⟨-, rfl⟩ | ⟨otherA, beforeA⟩ := cases a
    · obtain ⟨rfl, -⟩ | ⟨-, rfl⟩ | ⟨otherB, beforeB⟩ := cases b
      · rfl
      · simp [marked] at unusedB
      · exact absurd (connected.unique beforeB stored unusedB unused) otherB
    · simp [marked] at unusedA
    · exact absurd (connected.unique beforeA stored unusedA unused) otherA
  · rintro - x f storedX aliveX usedX
    obtain ⟨-, rfl⟩ | ⟨-, rfl⟩ | ⟨-, before⟩ := cases storedX
    · simp [RefreshTokenGrant.successor] at usedX
    · exact ⟨n, _, rfl, atNew, bound⟩
    · obtain ⟨y, g, link, next, longer⟩ := connected.linked ⟨t, e, stored, alive, unused⟩ before (clock ▸ aliveX) usedX
      obtain ⟨g', after, same⟩ := present next
      exact ⟨y, g', link, after, same ▸ longer⟩

/-- Every step that meets the condition keeps the family connected. -/
theorem connected_act (p : Provider) (ent : Entropy) {root : RefreshToken} {s : State}
    (connected : Connected ent root s) {a : Act} (orderly : Orderly s a) : Connected ent root (act p ent s a) := by
  cases a with
  | refresh client form jkt =>
    obtain ⟨clock, effect⟩ := handle_effect p (ent.uuid s.served) client form jkt s.mem
    cases effect with
    | none trims => exact connected.trim (Nat.le_succ _) clock.ge (clock.symm ▸ trims)
    | reuse t e sent stored alive used fits walked =>
      obtain ⟨-, within⟩ := orderly t sent e stored used fits
      have kept : Connected ent root (act p ent s (.refresh client form jkt)) ∧ _ :=
        connected.walk (Nat.le_succ _) clock stored alive within walked
      exact kept.1
    | rotation t e scope sent stored alive unused fits rotated =>
      obtain marks | ⟨-, saved⟩ := rotated
      · exact connected.mark (Nat.le_succ _) clock stored unused _ marks
      · exact connected.rotate rfl clock stored alive unused fits.client_id saved
  | revoke client form =>
    obtain ⟨clock, trims | ⟨t, e, sent, stored, alive, owner, removed⟩⟩ := revoke_effect client form s.mem
    · exact connected.trim (Nat.le_succ _) clock.ge (clock.symm ▸ trims)
    · exact connected.revoke (Nat.le_succ _) clock stored (orderly t sent e stored alive owner) removed
  | sweep => exact connected.trim le_rfl le_rfl (trims_retain _ _)
  | tick t => exact connected.trim le_rfl (le_max_left _ _) (.refl _ _)

/-- The state after a run. -/
def run (p : Provider) (ent : Entropy) (s : State) (acts : List Act) : State := acts.foldl (act p ent) s

theorem connected_run (p : Provider) (ent : Entropy) {root : RefreshToken} {s : State} {acts : List Act}
    (connected : Connected ent root s) (orderly : OrderlyRun p ent s acts) :
    Connected ent root (run p ent s acts) := by
  induction acts generalizing s with
  | nil => exact connected
  | cons a rest ih => exact ih (connected_act p ent connected orderly.1) orderly.2

/-- The record that starts a family. -/
def rootRecord (ent : Entropy) (owner : Client) (account_id scope : String) (resource acr : Option String)
    (auth_time : Option Nat) (jkt : Option String) : RefreshToken :=
  ⟨ent.uuid 0 .refresh_token, owner.client_id, account_id, scope, resource, jkt, acr, auth_time,
    ent.uuid 0 .family_id, false, none⟩

/-- The first token alone is connected, and a public client has none without a key. -/
theorem connected_issued (ent : Entropy) {m : Mem} (empty : m.store.refresh_tokens = ∅) (owner : Client)
    (account_id scope : String) (resource acr : Option String) (auth_time : Option Nat) (jkt : Option String) :
    Connected ent (rootRecord ent owner account_id scope resource acr auth_time jkt)
      (issued ent m owner account_id scope resource acr auth_time jkt) ∧
    ((jkt = none → owner.is_public = false) ∨
      (issued ent m owner account_id scope resource acr auth_time jkt).tokens = ∅) := by
  have none : ∀ s : State, s.tokens = ∅ →
      Connected ent (rootRecord ent owner account_id scope resource acr auth_time jkt) s := by
    intro s blank
    refine ⟨?_, ?_, ?_, ?_, ?_⟩
    all_goals simp [blank, LiveIn]
  unfold issued maybe_issue_refresh
  cases has_scope scope "offline_access" with
  | false => exact ⟨none _ empty, .inr empty⟩
  | true =>
    cases keyless : (jkt.isNone && owner.is_public) with
    | true => exact ⟨none _ empty, .inr empty⟩
    | false =>
      refine ⟨?_, .inl fun unbound => by simpa [unbound] using keyless⟩
      have only : ∀ {t e}, (m.store.refresh_tokens.set (ent.uuid 0 .refresh_token)
          ⟨rootRecord ent owner account_id scope resource acr auth_time jkt, m.clock + REFRESH_TTL_SECS⟩).get t = some e →
          t = ent.uuid 0 .refresh_token ∧
          e = ⟨rootRecord ent owner account_id scope resource acr auth_time jkt, m.clock + REFRESH_TTL_SECS⟩ := by
        intro t e stored
        rw [Table.get_set, empty] at stored
        split at stored
        · exact ⟨‹_›, (Option.some.inj stored).symm⟩
        · cases stored
      refine ⟨fun stored => ?_, fun stored => ?_, fun stored => ?_, fun a b _ _ => ?_, fun _ {t e} stored _ used => ?_⟩
      · obtain ⟨-, rfl⟩ := only stored
        exact ⟨rfl, rfl, rfl⟩
      · exact ⟨0, .refresh_token, Nat.zero_lt_one, (only stored).1⟩
      · obtain ⟨-, rfl⟩ := only stored
        exact le_rfl
      · exact (only a).1.trans (only b).1.symm
      · obtain ⟨-, rfl⟩ := only stored
        cases used

/-- With no token stored, no run creates one. -/
private theorem tokens_empty (p : Provider) (ent : Entropy) {s : State} (empty : s.tokens = ∅) (acts : List Act)
    (t : String) : (run p ent s acts).tokens.get t = none := by
  suffices all : ∀ (acts : List Act) (s : State), (∀ x, s.tokens.get x = none) → ∀ x, (run p ent s acts).tokens.get x = none from
    all acts s (fun x => by rw [empty]; rfl) t
  intro acts
  induction acts with
  | nil => exact fun s blank => blank
  | cons a rest ih =>
    intro s blank
    refine ih _ fun x => ?_
    have trimmed : ∀ {now after}, Trims now s.tokens after → after.get x = none := by
      intro now after trims
      obtain same | ⟨gone, -⟩ := trims x
      · exact same.trans (blank x)
      · exact gone
    have absent : ∀ {y e}, s.tokens.get y = some e → False := fun stored => by simp [blank] at stored
    cases a with
    | refresh client form jkt =>
      obtain ⟨-, effect⟩ := handle_effect p (ent.uuid s.served) client form jkt s.mem
      cases effect with
      | none trims => exact trimmed trims
      | reuse y e sent stored => exact (absent stored).elim
      | rotation y e scope sent stored => exact (absent stored).elim
    | revoke client form =>
      obtain ⟨-, trims | ⟨y, e, sent, stored, -⟩⟩ := revoke_effect client form s.mem
      · exact trimmed trims
      · exact (absent stored).elim
    | sweep => exact trimmed (trims_retain _ _)
    | tick => exact blank x

/-- No token of a family is live. -/
def FamilyDead (s : State) (family_id : String) : Prop :=
  ∀ t e, s.tokens.get t = some e → e.value.family_id = family_id → e.alive s.mem.clock → e.value.used = true

/-- In every run whose steps all meet the condition, after the owner presents a
    rotated token with its key no token of that family is live. -/
theorem reuse_kills_family (p : Provider) (ent : Entropy) {m : Mem} (empty : m.store.refresh_tokens = ∅)
    (owner : Client) (account_id scope : String) (resource acr : Option String) (auth_time : Option Nat)
    (key : Option String) (acts : List Act) {form : Form} {jkt : Option String}
    (orderly : OrderlyRun p ent (issued ent m owner account_id scope resource acr auth_time key)
      (acts ++ [.refresh owner form jkt]))
    {t : String} {e : Expiring RefreshToken} (sent : form.get "refresh_token" = some t)
    (stored : (run p ent (issued ent m owner account_id scope resource acr auth_time key) acts).tokens.get t = some e)
    (used : e.value.used = true) (keyed : ∀ k, e.value.jkt = some k → jkt = some k) :
    FamilyDead (run p ent (issued ent m owner account_id scope resource acr auth_time key)
      (acts ++ [.refresh owner form jkt])) e.value.family_id := by
  obtain ⟨first, bound⟩ := connected_issued ent empty owner account_id scope resource acr auth_time key
  generalize issued ent m owner account_id scope resource acr auth_time key = start at *
  have split : ∀ (acts : List Act) (s : State), OrderlyRun p ent s (acts ++ [.refresh owner form jkt]) →
      OrderlyRun p ent s acts ∧ Orderly (run p ent s acts) (.refresh owner form jkt) := by
    intro acts
    induction acts with
    | nil => exact fun s both => ⟨trivial, both.1⟩
    | cons a rest ih => exact fun s both => ⟨⟨both.1, (ih _ both.2).1⟩, (ih _ both.2).2⟩
  obtain ⟨before, last⟩ := split acts start orderly
  have connected := connected_run p ent first before
  have final : run p ent start (acts ++ [.refresh owner form jkt]) =
      act p ent (run p ent start acts) (.refresh owner form jkt) := by
    simp [run, List.foldl_append]
  rw [final]
  generalize reached : run p ent start acts = s at *
  have record := connected.family stored
  have confidential : e.value.jkt = none → owner.is_public = false := by
    intro unbound
    obtain known | blank := bound
    · exact known (record.2.2.symm.trans unbound)
    · have absent := tokens_empty p ent blank acts t
      rw [reached, stored] at absent
      cases absent
  have fits : RefreshTokenGrant.Presentable owner jkt e.value :=
    ⟨record.2.1, RefreshTokenGrant.check_binding_ok.2 ⟨keyed, confidential⟩⟩
  obtain ⟨alive, within⟩ := last t sent e stored used fits
  obtain ⟨clock, effect⟩ := handle_effect p (ent.uuid s.served) owner form jkt s.mem
  cases effect with
  | none trims quiet => exact absurd fits (quiet t e sent stored used alive)
  | reuse t' e' sent' stored' alive' used' fits' walked =>
    obtain rfl : t = t' := Option.some.inj (sent.symm.trans sent')
    have killed : Connected ent _ (act p ent s (.refresh owner form jkt)) ∧ _ :=
      connected.walk (Nat.le_succ _) clock stored alive within walked
    intro x f storedX _ aliveX
    by_contra fresh
    exact killed.2 x ⟨f, storedX, aliveX, by simpa using fresh⟩
  | rotation t' e' scope' sent' stored' alive' unused' =>
    obtain rfl : t = t' := Option.some.inj (sent.symm.trans sent')
    obtain rfl : e = e' := Option.some.inj (stored.symm.trans stored')
    simp [used] at unused'

/-- One token of a confidential client, at time 0. -/
def firstToken : State :=
  issued .unary { clock := 0 } Reference.rp "alice" "openid offline_access" none none none none

theorem reuse_kills_family_rotated_once :
    FamilyDead (run Reference.provider .unary firstToken
      ([.refresh Reference.rp [("refresh_token", "r")] none] ++
        [.refresh Reference.rp [("refresh_token", "r")] none])) "f" :=
  reuse_kills_family Reference.provider .unary rfl Reference.rp "alice" "openid offline_access" none none none none
    [.refresh Reference.rp [("refresh_token", "r")] none] (by decide +kernel)
    (t := "r") (e := ⟨⟨"r", "rp", "alice", "openid offline_access", none, none, none, none, "f", true, some "1n"⟩, 1209600⟩)
    rfl (by decide +kernel) rfl (by simp)

/-- Two rotations, a revocation of the token between them, and then the first
    token again: it is known as used, and the last one stays live. -/
theorem reuse_after_revocation_spares_family :
    (run Reference.provider .unary firstToken
      [.refresh Reference.rp [("refresh_token", "r")] none, .refresh Reference.rp [("refresh_token", "1n")] none,
        .revoke Reference.rp [("token", "1n")]]).tokens.get "r" =
      some ⟨⟨"r", "rp", "alice", "openid offline_access", none, none, none, none, "f", true, some "1n"⟩, 1209600⟩ ∧
    ¬ FamilyDead (run Reference.provider .unary firstToken
      [.refresh Reference.rp [("refresh_token", "r")] none, .refresh Reference.rp [("refresh_token", "1n")] none,
        .revoke Reference.rp [("token", "1n")], .refresh Reference.rp [("refresh_token", "r")] none]) "f" := by
  refine ⟨by decide +kernel, fun dead => ?_⟩
  have live := dead "11n"
    ⟨⟨"11n", "rp", "alice", "openid offline_access", none, none, none, none, "f", false, none⟩, 1209600⟩
    (by decide +kernel) rfl rfl
  cases live

end RustOp.RefreshFamily
