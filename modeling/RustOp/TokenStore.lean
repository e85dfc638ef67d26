import RustOp.Memory
import Mathlib

/-!
The contract of a token store: what its records look like to the grants while
no time passes, whichever backend keeps them. A backend shows its unexpired
records as a `View`; every operation of the contract answers from the view and
changes it as stated. Time, sweeps and the server's own clean-up only ever
forget records.
-/
namespace RustOp
open RustOp.Effects RustOp.Memory

/-- The records a store would still answer with. -/
@[ext] structure View where
  access : String → Option AccessToken
  refresh : String → Option RefreshToken
  code : String → Option CodeRecord

namespace View

def setAccess (v : View) (t : String) (r : Option AccessToken) : View :=
  { v with access := Function.update v.access t r }
def setRefresh (v : View) (t : String) (r : Option RefreshToken) : View :=
  { v with refresh := Function.update v.refresh t r }
def setCode (v : View) (c : String) (r : Option CodeRecord) : View :=
  { v with code := Function.update v.code c r }

/-- Drops a token that may not be named. -/
def dropAccess (v : View) : Option String → View
  | some t => v.setAccess t none
  | none => v
def dropRefresh (v : View) : Option String → View
  | some t => v.setRefresh t none
  | none => v

@[simp] theorem setAccess_access (v : View) (t : String) (r : Option AccessToken) :
    (v.setAccess t r).access = Function.update v.access t r := rfl
@[simp] theorem setAccess_refresh (v : View) (t : String) (r : Option AccessToken) :
    (v.setAccess t r).refresh = v.refresh := rfl
@[simp] theorem setAccess_code (v : View) (t : String) (r : Option AccessToken) :
    (v.setAccess t r).code = v.code := rfl
@[simp] theorem setRefresh_access (v : View) (t : String) (r : Option RefreshToken) :
    (v.setRefresh t r).access = v.access := rfl
@[simp] theorem setRefresh_refresh (v : View) (t : String) (r : Option RefreshToken) :
    (v.setRefresh t r).refresh = Function.update v.refresh t r := rfl
@[simp] theorem setRefresh_code (v : View) (t : String) (r : Option RefreshToken) :
    (v.setRefresh t r).code = v.code := rfl
@[simp] theorem setCode_access (v : View) (c : String) (r : Option CodeRecord) :
    (v.setCode c r).access = v.access := rfl
@[simp] theorem setCode_refresh (v : View) (c : String) (r : Option CodeRecord) :
    (v.setCode c r).refresh = v.refresh := rfl
@[simp] theorem setCode_code (v : View) (c : String) (r : Option CodeRecord) :
    (v.setCode c r).code = Function.update v.code c r := rfl

@[simp] theorem dropAccess_refresh (v : View) (t : Option String) : (v.dropAccess t).refresh = v.refresh := by
  cases t <;> rfl
@[simp] theorem dropAccess_code (v : View) (t : Option String) : (v.dropAccess t).code = v.code := by
  cases t <;> rfl
@[simp] theorem dropRefresh_access (v : View) (t : Option String) : (v.dropRefresh t).access = v.access := by
  cases t <;> rfl
@[simp] theorem dropRefresh_code (v : View) (t : Option String) : (v.dropRefresh t).code = v.code := by
  cases t <;> rfl

theorem dropAccess_access (v : View) (t : Option String) (x : String) :
    (v.dropAccess t).access x = if t = some x then none else v.access x := by
  cases t with
  | none => simp [dropAccess]
  | some a => simp [dropAccess, Function.update_apply, eq_comm]

theorem dropRefresh_refresh (v : View) (t : Option String) (x : String) :
    (v.dropRefresh t).refresh x = if t = some x then none else v.refresh x := by
  cases t with
  | none => simp [dropRefresh]
  | some a => simp [dropRefresh, Function.update_apply, eq_comm]

/-- `v` knows nothing that `w` does not. -/
structure Forgets (v w : View) : Prop where
  access : ∀ t r, v.access t = some r → w.access t = some r
  refresh : ∀ t r, v.refresh t = some r → w.refresh t = some r
  code : ∀ c r, v.code c = some r → w.code c = some r

theorem Forgets.refl (v : View) : Forgets v v := ⟨fun _ _ h => h, fun _ _ h => h, fun _ _ h => h⟩

end View

/-- A backend that keeps the contract. `Ok` is what the backend needs of its
    state, and `Env` is what can happen to it between requests. -/
structure TokenStore (σ : Type) (h : Prog.Handler Backend σ) where
  clock : σ → Nat
  view : σ → View
  Ok : σ → Prop
  Env : σ → σ → Prop
  ok_exec : ∀ {s}, Ok s → ∀ o, Ok (h o s).2
  ok_env : ∀ {s s'}, Ok s → Env s s' → Ok s'
  env_forgets : ∀ {s s'}, Ok s → Env s s' → (view s').Forgets (view s)
  now_eq : ∀ s, h .now s = (clock s, s)
  clock_exec : ∀ o s, clock (h o s).2 = clock s
  get_access : ∀ {s}, Ok s → ∀ t, (h (.store (.get_access_token t)) s).1 = (view s).access t ∧
    view (h (.store (.get_access_token t)) s).2 = view s
  revoke_access : ∀ {s}, Ok s → ∀ t,
    view (h (.store (.revoke_access_token t)) s).2 = (view s).setAccess t none
  save_access : ∀ {s}, Ok s → ∀ t, t.authorization_details = none →
    view (h (.store (.save_access_token t)) s).2 = (view s).setAccess t.token (some t)
  get_refresh : ∀ {s}, Ok s → ∀ t, (h (.store (.get_refresh_token t)) s).1 = (view s).refresh t ∧
    view (h (.store (.get_refresh_token t)) s).2 = view s
  revoke_refresh : ∀ {s}, Ok s → ∀ t,
    view (h (.store (.revoke_refresh_token t)) s).2 = (view s).setRefresh t none
  save_refresh : ∀ {s}, Ok s → ∀ t,
    view (h (.store (.save_refresh_token t)) s).2 = (view s).setRefresh t.token (some t)
  /-- An unused token is marked, and the caller told; a used one is left alone. -/
  mark_refresh : ∀ {s}, Ok s → ∀ t n r, (view s).refresh t = some r →
    (r.used = true → h (.store (.mark_refresh_used t n)) s = (false, s)) ∧
    (r.used = false → (h (.store (.mark_refresh_used t n)) s).1 = true ∧
      ∃ n', view (h (.store (.mark_refresh_used t n)) s).2 =
        (view s).setRefresh t (some { r with used := true, replaced_by := n' }))
  revoke_family : ∀ {s}, Ok s → ∀ t, ∃ kept : String → Bool, kept t = false ∧
    view (h (.store (.revoke_refresh_family t)) s).2 =
      { view s with refresh := fun x => if kept x then (view s).refresh x else none }
  take_unknown : ∀ {s}, Ok s → ∀ c, (view s).code c = none →
    (h (.store (.take_code c)) s).1 = none ∧ view (h (.store (.take_code c)) s).2 = view s
  take_fresh : ∀ {s}, Ok s → ∀ c r, (view s).code c = some r → r.used = false →
    (h (.store (.take_code c)) s).1 = some r.code ∧
    view (h (.store (.take_code c)) s).2 = (view s).setCode c (some { r with used := true })
  /-- A replay revokes what the record names. A backend may then clear the record. -/
  take_used : ∀ {s}, Ok s → ∀ c r, (view s).code c = some r → r.used = true →
    (h (.store (.take_code c)) s).1 = none ∧
    ∃ r', r'.code = r.code ∧ r'.used = true ∧
      (r'.issued_access = r.issued_access ∨ r'.issued_access = none) ∧
      (r'.issued_refresh = r.issued_refresh ∨ r'.issued_refresh = none) ∧
      view (h (.store (.take_code c)) s).2 =
        (((view s).dropAccess r.issued_access).dropRefresh r.issued_refresh).setCode c (some r')
  link_issued : ∀ {s}, Ok s → ∀ c a t r, (view s).code c = some r → r.issued_refresh = none →
    view (h (.store (.link_issued_tokens c a t)) s).2 =
      (view s).setCode c (some { r with issued_access := some a, issued_refresh := t })
  /-- A saved code is kept, unless it is expired from the start. A backend may
      not be able to represent its expiry. -/
  save_code : ∀ {s}, Ok s → ∀ c, (∃ t, view (h (.store (.save_code c)) s).2 =
      (view s).setCode c.code (some ⟨{ c with expires_at := t }, false, none, none⟩)) ∨
    view (h (.store (.save_code c)) s).2 = (view s).setCode c.code none

/-! ### Memory keeps the contract -/

namespace Memory
variable {T : Type}

theorem live_eq_some {now : Nat} {map : Table String (Expiring T)} {key : String} {v : T} :
    live now map key = some v ↔ ∃ e, map.get key = some e ∧ e.alive now ∧ e.value = v := by
  simp [live, Option.filter_eq_some_iff, and_assoc]

theorem live_eq_none {now : Nat} {map : Table String (Expiring T)} {key : String} :
    live now map key = none ↔ ∀ e, map.get key = some e → e.alive now = false := by
  simp [live]

theorem live_set (now : Nat) (map : Table String (Expiring T)) (key : String) (e : Expiring T) :
    live now (map.set key e) = Function.update (live now map) key (if e.alive now then some e.value else none) := by
  funext x
  by_cases same : x = key
  · subst same
    simp [live, Option.filter]
  · simp [live, Table.get_set_ne _ same, same]

/-- Replacing a value under an unexpired time keeps it alive. -/
theorem live_replace {now expires_at : Nat} (alive : now < expires_at) (map : Table String (Expiring T))
    (key : String) (v : T) :
    live now (map.set key ⟨v, expires_at⟩) = Function.update (live now map) key (some v) := by
  simp [live_set, Expiring.alive, alive]

theorem live_remove (now : Nat) (map : Table String (Expiring T)) (key : String) :
    live now (map.remove key) = Function.update (live now map) key none := by
  funext x
  by_cases same : x = key
  · subst same
    simp [live]
  · simp [live, Table.get_remove_ne _ same, same]

theorem get_alive_fst (now : Nat) (map : Table String (Expiring T)) (key : String) :
    (get_alive now key map).1 = live now map key := by
  unfold get_alive live
  cases map.get key with
  | none => rfl
  | some e => cases alive : e.alive now <;> simp [alive, Option.filter]

/-- Dropping what is expired leaves every live value. -/
theorem live_get_alive (now : Nat) (map : Table String (Expiring T)) (key : String) :
    live now (get_alive now key map).2 = live now map := by
  unfold get_alive
  cases stored : map.get key with
  | none => rfl
  | some e =>
    cases alive : e.alive now with
    | true => simp [alive]
    | false =>
      have absent : live now map key = none := live_eq_none.2 fun e' stored' => by
        rw [stored] at stored'; cases stored'; exact alive
      simp only [alive, Bool.false_eq_true, ↓reduceIte, live_remove]
      rw [← absent, Function.update_eq_self]

theorem live_later {t now : Nat} (later : now ≤ t) {map : Table String (Expiring T)} {key : String} {v : T}
    (alive : live t map key = some v) : live now map key = some v := by
  obtain ⟨e, stored, holds, rfl⟩ := live_eq_some.1 alive
  refine live_eq_some.2 ⟨e, stored, ?_, rfl⟩
  simp only [Expiring.alive, decide_eq_true_eq] at holds ⊢
  omega

theorem live_retain (now : Nat) (map : Table String (Expiring T)) (key : String) :
    live now (retain_alive now map) key = live now map key := by
  simp [live, retain_alive, Table.get_retain, Option.filter_filter, Expiring.alive]

/-- The records of the memory store that have not expired. -/
def view (m : Mem) : View where
  access := live m.clock m.store.access_tokens
  refresh := live m.clock m.store.refresh_tokens
  code := live m.clock m.store.codes

/-- Between requests the clock moves on, or the sweeper removes what has expired. -/
inductive Env : Mem → Mem → Prop where
  | tick (m : Mem) (t : Nat) (later : m.clock ≤ t) : Env m { m with clock := t }
  | sweep (m : Mem) : Env m (exec (.store .sweep_expired) m).2

/-- A walk removes some keys and leaves the others as they are. -/
theorem revoke_chain_kept (guard : Nat) (start : Option String) (map : Table String (Expiring RefreshToken)) :
    ∃ kept : String → Bool, ∀ x,
      (revoke_chain guard start map).get x = if kept x then map.get x else none := by
  induction guard generalizing start map with
  | zero => exact ⟨fun _ => true, fun x => by simp [revoke_chain]⟩
  | succ guard ih =>
    cases start with
    | none => exact ⟨fun _ => true, fun x => by simp [revoke_chain]⟩
    | some t =>
      obtain ⟨kept, walk⟩ := ih ((map.get t).bind fun e => e.value.replaced_by) (map.remove t)
      refine ⟨fun x => kept x && x != t, fun x => ?_⟩
      rw [revoke_chain, walk, Table.get_remove]
      by_cases same : x = t <;> simp [same]

theorem revoke_chain_start (guard : Nat) (t : String) (map : Table String (Expiring RefreshToken)) :
    (revoke_chain (guard + 1) (some t) map).get t = none := by
  obtain ⟨kept, walk⟩ := revoke_chain_kept guard ((map.get t).bind fun e => e.value.replaced_by) (map.remove t)
  rw [revoke_chain, walk]
  simp

private theorem take_unknown {m : Mem} {c : String} (absent : (view m).code c = none) :
    (exec (.store (.take_code c)) m).1 = none ∧ view (exec (.store (.take_code c)) m).2 = view m := by
  have expired := live_eq_none.1 absent
  cases stored : m.store.codes.get c with
  | none => simp [exec, MemoryStore.exec, MemoryStore.take_code, stored]
  | some e =>
    have dead := expired e stored
    have same : live m.clock (m.store.codes.remove c) = live m.clock m.store.codes := by
      rw [live_remove, ← show live m.clock m.store.codes c = none from absent, Function.update_eq_self]
    simp [exec, MemoryStore.exec, MemoryStore.take_code, stored, dead, view, same]

/-- The memory store keeps the contract in every state. -/
def tokenStore : TokenStore Mem exec where
  clock := Mem.clock
  view := view
  Ok := fun _ => True
  Env := Env
  ok_exec := fun _ _ => trivial
  ok_env := fun _ _ => trivial
  env_forgets := by
    rintro s s' - (⟨t, later⟩ | ⟨⟩)
    · exact ⟨fun _ _ => live_later later, fun _ _ => live_later later, fun _ _ => live_later later⟩
    · refine ⟨fun t r alive => ?_, fun t r alive => ?_, fun c r alive => ?_⟩ <;>
        simpa only [view, exec, MemoryStore.exec, live_retain] using alive
  now_eq := fun _ => rfl
  clock_exec := fun o s => by cases o <;> rfl
  get_access := fun {s} _ t => by
    simp [exec, MemoryStore.exec, view, get_alive_fst, live_get_alive]
  revoke_access := fun {s} _ t => by
    simp [exec, MemoryStore.exec, view, View.setAccess, live_remove]
  save_access := fun {s} _ t _ => by
    simp [exec, MemoryStore.exec, view, View.setAccess, live_set, Expiring.alive, ACCESS_TTL_SECS]
  get_refresh := fun {s} _ t => by
    simp [exec, MemoryStore.exec, view, get_alive_fst, live_get_alive]
  revoke_refresh := fun {s} _ t => by
    simp [exec, MemoryStore.exec, view, View.setRefresh, live_remove]
  save_refresh := fun {s} _ t => by
    simp [exec, MemoryStore.exec, view, View.setRefresh, live_set, Expiring.alive, REFRESH_TTL_SECS]
  mark_refresh := fun {s} _ t n r present => by
    obtain ⟨e, stored, alive, rfl⟩ := live_eq_some.1 present
    refine ⟨fun used => ?_, fun unused => ?_⟩
    · simp [exec, MemoryStore.exec, MemoryStore.mark_refresh_used, stored, used]
    · simp only [exec, MemoryStore.exec, MemoryStore.mark_refresh_used, stored, unused, alive, Bool.not_false,
        Bool.and_self, ↓reduceIte, true_and]
      exact ⟨n, by simp only [view, View.setRefresh, live_replace (of_decide_eq_true alive)]⟩
  revoke_family := fun {s} _ t => by
    obtain ⟨kept, walk⟩ := revoke_chain_kept FAMILY_GUARD (some t) s.store.refresh_tokens
    refine ⟨fun x => kept x && x != t, by simp, ?_⟩
    simp only [exec, MemoryStore.exec, view, View.mk.injEq, true_and, and_true]
    funext x
    by_cases same : x = t
    · subst same
      simp [live, FAMILY_GUARD, revoke_chain_start]
    · simp only [live, walk]
      by_cases stays : kept x <;> simp [same, stays]
  take_unknown := fun {s} _ c absent => take_unknown absent
  take_fresh := fun {s} _ c r present unused => by
    obtain ⟨e, stored, alive, rfl⟩ := live_eq_some.1 present
    simp only [exec, MemoryStore.exec, MemoryStore.take_code, stored, alive, unused, Bool.not_true,
      Bool.false_eq_true, ↓reduceIte, true_and]
    simp only [view, View.setCode, live_replace (of_decide_eq_true alive)]
  take_used := fun {s} _ c r present used => by
    obtain ⟨e, stored, alive, rfl⟩ := live_eq_some.1 present
    refine ⟨by simp [exec, MemoryStore.exec, MemoryStore.take_code, stored, alive, used],
      { e.value with issued_access := none, issued_refresh := none }, rfl, used, .inr rfl, .inr rfl, ?_⟩
    simp only [exec, MemoryStore.exec, MemoryStore.take_code, stored, alive, used, Bool.not_true,
      Bool.false_eq_true, ↓reduceIte]
    simp only [view, View.setCode, live_replace (of_decide_eq_true alive)]
    cases e.value.issued_access <;> cases e.value.issued_refresh <;>
      simp [View.dropAccess, View.dropRefresh, View.setAccess, View.setRefresh, live_remove]
  link_issued := fun {s} _ c a t r present _ => by
    obtain ⟨e, stored, alive, rfl⟩ := live_eq_some.1 present
    simp only [exec, MemoryStore.exec, MemoryStore.link_issued_tokens, stored]
    simp only [view, View.setCode, live_replace (of_decide_eq_true alive)]
  save_code := fun {s} _ c => by
    simp only [exec, MemoryStore.exec, MemoryStore.save_code, view, View.setCode, live_set]
    cases (⟨⟨c, false, none, none⟩, c.expires_at⟩ : Expiring CodeRecord).alive s.clock with
    | true => exact .inl ⟨c.expires_at, rfl⟩
    | false => exact .inr rfl

end Memory
end RustOp
