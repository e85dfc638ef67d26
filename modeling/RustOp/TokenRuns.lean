import RustOp.GrantSpecs

/-!
Sequential runs of the token endpoint over any store that keeps the contract:
codes are saved, redeemed and replayed, refresh tokens rotated and revoked, and
between requests the clock moves and records expire. The log keeps every
request with the store before and after it.
-/
namespace RustOp
open RustOp.Effects RustOp.Text RustOp.Memory

/-- A request to the token endpoint after the client was authenticated, a
    revocation, or a code saved by the authorization endpoint. -/
inductive Event where
  | redeem (client : Client) (form : Form) (jkt : Option String)
  | refresh (client : Client) (form : Form) (jkt : Option String)
  | revoke (client : Client) (form : Form)
  | issue (c : AuthorizationCode)

/-- A request, the draws it used, and the store around it. -/
structure Entry (σ : Type) where
  number : Nat
  pre : σ
  event : Event
  answer : Option (Except OAuthError TokenResponse)
  post : σ

structure World (σ : Type) where
  state : σ
  served : Nat
  log : List (Entry σ)

variable {σ : Type} {h : Prog.Handler Backend σ}

/-- The answer to a request and the store after it. -/
def serve (h : Prog.Handler Backend σ) (p : Provider) (uuid : Draw → String) (s : σ) :
    Event → Option (Except OAuthError TokenResponse) × σ
  | .redeem client form jkt =>
    let out := Prog.run h (AuthorizationCodeGrant.handle p uuid client form jkt) s
    (some out.1, out.2)
  | .refresh client form jkt =>
    let out := Prog.run h (RefreshTokenGrant.handle p uuid client form jkt) s
    (some out.1, out.2)
  | .revoke client form => (none, (Prog.run h (revoke_as client form) s).2)
  | .issue c => (none, (h (.store (.save_code { c with code := uuid .code })) s).2)

/-- The world after a request. -/
def World.after (h : Prog.Handler Backend σ) (p : Provider) (ent : Entropy) (w : World σ) (e : Event) : World σ where
  state := (serve h p (ent.uuid w.served) w.state e).2
  served := w.served + 1
  log := ⟨w.served, w.state, e, (serve h p (ent.uuid w.served) w.state e).1,
    (serve h p (ent.uuid w.served) w.state e).2⟩ :: w.log

inductive World.Step (S : TokenStore σ h) (p : Provider) (ent : Entropy) : World σ → World σ → Prop where
  | serve (w : World σ) (e : Event) : Step S p ent w (w.after h p ent e)
  | env (w : World σ) (s : σ) (changes : S.Env w.state s) : Step S p ent w { w with state := s }

/-- Nothing was issued yet. -/
structure World.Start (S : TokenStore σ h) (w : World σ) : Prop where
  ok : S.Ok w.state
  access : ∀ t, (S.view w.state).access t = none
  refresh : ∀ t, (S.view w.state).refresh t = none
  code : ∀ c, (S.view w.state).code c = none
  log : w.log = []

/-- Reached from a start by requests and by what happens between them. -/
def World.Reachable (S : TokenStore σ h) (p : Provider) (ent : Entropy) (w : World σ) : Prop :=
  ∃ start, World.Start S start ∧ Relation.ReflTransGen (World.Step S p ent) start w

/-! ### What one request changes -/

/-- An earlier and a later record of one refresh token: at most its use
    differs, and a used token stays used. -/
structure SameGrant (a b : RefreshToken) : Prop where
  eq : b = { a with used := b.used, replaced_by := b.replaced_by }
  used : a.used = true → b.used = true

theorem SameGrant.refl (a : RefreshToken) : SameGrant a a := ⟨rfl, id⟩

theorem SameGrant.trans {a b c : RefreshToken} (ab : SameGrant a b) (bc : SameGrant b c) : SameGrant a c :=
  ⟨by rw [bc.eq, ab.eq], bc.used ∘ ab.used⟩

/-- The next record of a code is of the same code, stays used, and names what
    the earlier one named or less, unless the request itself redeemed it. -/
structure CodeKept (r r' : CodeRecord) : Prop where
  code : r'.code = r.code
  used : r.used = true → r'.used = true
  unused : r'.used = false → r' = r
  access : r.used = true → r'.issued_access = r.issued_access ∨ r'.issued_access = none
  refresh : r.used = true → r'.issued_refresh = r.issued_refresh ∨ r'.issued_refresh = none

/-- The records after a request: new ones carry its own draws, and the others
    were there before. -/
structure Delta (uuid : Draw → String) (v v' : View) : Prop where
  access : ∀ {t r}, v'.access t = some r → v.access t = some r ∨ t = uuid .access_token
  refresh : ∀ {t r'}, v'.refresh t = some r' →
    (∃ r, v.refresh t = some r ∧ SameGrant r r') ∨
    ((t = uuid .refresh_token ∨ t = uuid .rotated_token) ∧ r'.token = t)
  code : ∀ {c r'}, v'.code c = some r' →
    (∃ r, v.code c = some r ∧ CodeKept r r') ∨
    (c = uuid .code ∧ r'.used = false ∧ r'.issued_access = none ∧ r'.issued_refresh = none)

theorem CodeKept.refl (r : CodeRecord) : CodeKept r r := ⟨rfl, id, fun _ => rfl, fun _ => .inl rfl, fun _ => .inl rfl⟩

theorem Delta.of_forgets {uuid : Draw → String} {v v' : View} (less : v'.Forgets v) : Delta uuid v v' where
  access := fun present => .inl (less.access _ _ present)
  refresh := fun present => .inl ⟨_, less.refresh _ _ present, .refl _⟩
  code := fun present => .inl ⟨_, less.code _ _ present, .refl _⟩

namespace Delta
variable {uuid : Draw → String} {v w : View}

theorem setAccess (delta : Delta uuid v w) (r : Option AccessToken) :
    Delta uuid v (w.setAccess (uuid .access_token) r) where
  access := by
    intro t x present
    by_cases drawn : t = uuid .access_token
    · exact .inr drawn
    · rw [View.setAccess_access, Function.update_of_ne drawn] at present
      exact delta.access present
  refresh := delta.refresh
  code := delta.code

theorem setRefresh (delta : Delta uuid v w) {t : String} {r' : RefreshToken}
    (source : (∃ r, v.refresh t = some r ∧ SameGrant r r') ∨
      ((t = uuid .refresh_token ∨ t = uuid .rotated_token) ∧ r'.token = t)) :
    Delta uuid v (w.setRefresh t (some r')) where
  access := delta.access
  refresh := by
    intro x y present
    by_cases same : x = t
    · subst same
      rw [View.setRefresh_refresh, Function.update_self] at present
      cases present
      exact source
    · rw [View.setRefresh_refresh, Function.update_of_ne same] at present
      exact delta.refresh present
  code := delta.code

theorem setCode (delta : Delta uuid v w) {c : String} {r r' : CodeRecord} (known : v.code c = some r)
    (kept : CodeKept r r') : Delta uuid v (w.setCode c (some r')) where
  access := delta.access
  refresh := delta.refresh
  code := by
    intro x y present
    by_cases same : x = c
    · subst same
      rw [View.setCode_code, Function.update_self] at present
      cases present
      exact .inl ⟨r, known, kept⟩
    · rw [View.setCode_code, Function.update_of_ne same] at present
      exact delta.code present

theorem refl : Delta uuid v v := .of_forgets (.refl v)

end Delta

theorem View.Forgets.dropAccess {v w : View} (less : v.Forgets w) (t : Option String) : (v.dropAccess t).Forgets w where
  access := by
    intro x r present
    rw [View.dropAccess_access] at present
    split at present
    · cases present
    · exact less.access x r present
  refresh := by simpa using less.refresh
  code := by simpa using less.code

theorem View.Forgets.dropRefresh {v w : View} (less : v.Forgets w) (t : Option String) :
    (v.dropRefresh t).Forgets w where
  access := by simpa using less.access
  refresh := by
    intro x r present
    rw [View.dropRefresh_refresh] at present
    split at present
    · cases present
    · exact less.refresh x r present
  code := by simpa using less.code

private theorem codeKept_fresh {r r' : CodeRecord} (fresh : r.used = false) (same : r'.code = r.code)
    (taken : r'.used = true) : CodeKept r r' :=
  ⟨same, by simp [fresh], by simp [taken], by simp [fresh], by simp [fresh]⟩

theorem AuthorizationCodeGrant.Outcome.delta {p : Provider} {uuid : Draw → String} {client : Client} {form : Form}
    {jkt : Option String} {now : Nat} {v v' : View} {answer : Except OAuthError TokenResponse}
    (out : Outcome p uuid client form jkt now v answer v') : Delta uuid v v' := by
  have saved : ∀ c r, v.code c = some r → r.used = false → Delta uuid v (accessView uuid client jkt v c r) := by
    intro c r known fresh
    have taken : Delta uuid v (v.setCode c (some { r with used := true })) :=
      Delta.refl.setCode known (codeKept_fresh fresh rfl rfl)
    exact taken.setAccess _
  cases out with
  | missing => exact .refl
  | unknown => exact .refl
  | replayed c r r' e sent known used same still access refresh =>
    exact (Delta.of_forgets (((View.Forgets.refl v).dropAccess _).dropRefresh _)).setCode known
      ⟨same, fun _ => still, by simp [still], fun _ => access, fun _ => refresh⟩
  | refused c r e sent known fresh => exact Delta.refl.setCode known (codeKept_fresh fresh rfl rfl)
  | unsigned c r e sent known fresh => exact saved c r known fresh
  | redeemed c r alg sent known fresh =>
    unfold redeemedView
    split
    · exact ((saved c r known fresh).setRefresh (.inr ⟨.inl rfl, rfl⟩)).setCode known (codeKept_fresh fresh rfl rfl)
    · exact (saved c r known fresh).setCode known (codeKept_fresh fresh rfl rfl)

theorem RefreshTokenGrant.Outcome.delta {p : Provider} {uuid : Draw → String} {client : Client} {form : Form}
    {jkt : Option String} {now : Nat} {v v' : View} {answer : Except OAuthError TokenResponse}
    (out : Outcome p uuid client form jkt now v answer v') : Delta uuid v v' := by
  have marked : ∀ t pre scope link, v.refresh t = some pre →
      Delta uuid v (markedView uuid client jkt v t pre scope link) := by
    intro t pre scope link known
    have marks : Delta uuid v (v.setRefresh t (some { pre with used := true, replaced_by := link })) :=
      Delta.refl.setRefresh (.inl ⟨pre, known, rfl, fun _ => rfl⟩)
    exact marks.setAccess _
  cases out with
  | missing => exact .refl
  | unknown => exact .refl
  | refused => exact .refl
  | reused t pre kept e sent known =>
    refine .of_forgets ⟨fun _ _ present => present, fun x r present => ?_, fun _ _ present => present⟩
    dsimp only at present
    split at present
    · exact present
    · cases present
  | unsigned t pre scope link e sent known => exact marked t pre scope link known
  | rotated t pre scope link alg sent known =>
    unfold rotatedView
    cases next : new_refresh uuid scope with
    | none => exact marked t pre scope link known
    | some n =>
      have drawn : n = uuid .rotated_token := by
        unfold new_refresh at next
        split at next <;> simp_all
      exact (marked t pre scope link known).setRefresh (.inr ⟨.inr drawn, rfl⟩)

/-! ### What holds in every reachable world -/

section
variable (S : TokenStore σ h) (p : Provider) (ent : Entropy)

/-- A code that was not taken has issued nothing. -/
def Unlinked (v : View) : Prop :=
  ∀ c r, v.code c = some r → r.used = false → r.issued_access = none ∧ r.issued_refresh = none

/-- Every record carries a draw of an earlier request, and the log tells how
    each request came out. -/
structure World.Sound (w : World σ) : Prop where
  ok : S.Ok w.state
  unlinked : Unlinked (S.view w.state)
  access : ∀ {t r}, (S.view w.state).access t = some r → ∃ i, i < w.served ∧ t = ent.uuid i .access_token
  refresh : ∀ {t r}, (S.view w.state).refresh t = some r →
    ∃ i, i < w.served ∧ (t = ent.uuid i .refresh_token ∨ t = ent.uuid i .rotated_token)
  keyed : ∀ {t r}, (S.view w.state).refresh t = some r → r.token = t
  code : ∀ {c r}, (S.view w.state).code c = some r → ∃ i, i < w.served ∧ c = ent.uuid i .code
  numbered : ∀ e ∈ w.log, e.number < w.served
  distinct : w.log.Pairwise fun a b => a.number ≠ b.number
  served : ∀ e ∈ w.log, S.Ok e.pre ∧ Unlinked (S.view e.pre) ∧
    (e.answer, e.post) = serve h p (ent.uuid e.number) e.pre e.event

variable {S p ent}

/-- What one request leaves. -/
theorem serve_delta (uuid : Draw → String) {s : σ} (ok : S.Ok s) (unlinked : Unlinked (S.view s)) (e : Event) :
    S.Ok (serve h p uuid s e).2 ∧ Delta uuid (S.view s) (S.view (serve h p uuid s e).2) := by
  cases e with
  | redeem client form jkt =>
    obtain ⟨answer, s', ran, okDone, -, out⟩ := AuthorizationCodeGrant.run_handle S p uuid client form jkt ok
      fun c r known fresh => (unlinked c r known fresh).2
    simp only [serve, ran]
    exact ⟨okDone, out.delta⟩
  | refresh client form jkt =>
    obtain ⟨answer, s', ran, okDone, -, out⟩ := RefreshTokenGrant.run_handle S p uuid client form jkt ok
    simp only [serve, ran]
    exact ⟨okDone, out.delta⟩
  | revoke client form =>
    obtain ⟨answer, s', ran, okDone, -, dropped⟩ := run_revoke_as S client form ok
    simp only [serve, ran]
    refine ⟨okDone, ?_⟩
    obtain same | ⟨token, -, same⟩ := dropped
    · rw [same]
      exact .refl
    · rw [same]
      exact .of_forgets (((View.Forgets.refl _).dropAccess _).dropRefresh _)
  | issue c =>
    refine ⟨S.ok_exec ok _, ?_⟩
    have saved := S.save_code ok { c with code := uuid .code }
    have news : ∀ r : Option CodeRecord, (∀ x, r = some x → x.used = false ∧ x.issued_access = none ∧ x.issued_refresh = none) →
        Delta uuid (S.view s) ((S.view s).setCode (uuid .code) r) := by
      intro r blank
      refine ⟨fun present => .inl present, fun present => .inl ⟨_, present, .refl _⟩, ?_⟩
      intro x y present
      by_cases same : x = uuid .code
      · subst same
        rw [View.setCode_code, Function.update_self] at present
        exact .inr ⟨rfl, blank y present⟩
      · rw [View.setCode_code, Function.update_of_ne same] at present
        exact .inl ⟨y, present, .refl y⟩
    simp only [serve]
    obtain ⟨t, same⟩ | same := saved
    · rw [same]
      exact news _ fun x is => by cases is; exact ⟨rfl, rfl, rfl⟩
    · rw [same]
      exact news _ fun x is => by cases is

namespace World

theorem Sound.after {w : World σ} (sound : w.Sound S p ent) (e : Event) : (w.after h p ent e).Sound S p ent := by
  obtain ⟨okDone, delta⟩ := serve_delta (p := p) (ent.uuid w.served) sound.ok sound.unlinked e
  refine ⟨okDone, ?_, ?_, ?_, ?_, ?_, ?_, ?_, ?_⟩
  · intro c r present unused
    obtain ⟨r0, known, kept⟩ | ⟨-, -, blank⟩ := delta.code present
    · rw [kept.unused unused]
      exact sound.unlinked c r0 known (by rw [← kept.unused unused]; exact unused)
    · exact blank
  · intro t r present
    obtain known | drawn := delta.access present
    · obtain ⟨i, earlier, draw⟩ := sound.access known
      exact ⟨i, Nat.lt_succ_of_lt earlier, draw⟩
    · exact ⟨w.served, Nat.lt_succ_self _, drawn⟩
  · intro t r present
    obtain ⟨r0, known, -⟩ | ⟨drawn, -⟩ := delta.refresh present
    · obtain ⟨i, earlier, draw⟩ := sound.refresh known
      exact ⟨i, Nat.lt_succ_of_lt earlier, draw⟩
    · exact ⟨w.served, Nat.lt_succ_self _, drawn⟩
  · intro t r present
    obtain ⟨r0, known, same⟩ | ⟨-, keyed⟩ := delta.refresh present
    · rw [← sound.keyed known, same.eq]
    · exact keyed
  · intro c r present
    obtain ⟨r0, known, -⟩ | ⟨drawn, -⟩ := delta.code present
    · obtain ⟨i, earlier, draw⟩ := sound.code known
      exact ⟨i, Nat.lt_succ_of_lt earlier, draw⟩
    · exact ⟨w.served, Nat.lt_succ_self _, drawn⟩
  · intro x listed
    obtain rfl | older := List.mem_cons.1 listed
    · exact Nat.lt_succ_self _
    · exact Nat.lt_succ_of_lt (sound.numbered x older)
  · refine List.pairwise_cons.2 ⟨fun x older => ?_, sound.distinct⟩
    exact (sound.numbered x older).ne'
  · intro x listed
    obtain rfl | older := List.mem_cons.1 listed
    · exact ⟨sound.ok, sound.unlinked, rfl⟩
    · exact sound.served x older

theorem Sound.env {w : World σ} (sound : w.Sound S p ent) {s : σ} (changes : S.Env w.state s) :
    Sound S p ent { w with state := s } := by
  have less := S.env_forgets sound.ok changes
  exact ⟨S.ok_env sound.ok changes, fun c r present => sound.unlinked c r (less.code c r present),
    fun present => sound.access (less.access _ _ present), fun present => sound.refresh (less.refresh _ _ present),
    fun present => sound.keyed (less.refresh _ _ present), fun present => sound.code (less.code _ _ present),
    sound.numbered, sound.distinct, sound.served⟩

theorem Sound.start {w : World σ} (start : Start S w) : w.Sound S p ent where
  ok := start.ok
  unlinked := fun c r present => by rw [start.code] at present; cases present
  access := fun present => by rw [start.access] at present; cases present
  refresh := fun present => by rw [start.refresh] at present; cases present
  keyed := fun present => by rw [start.refresh] at present; cases present
  code := fun present => by rw [start.code] at present; cases present
  numbered := by simp [start.log]
  distinct := by simp [start.log]
  served := by simp [start.log]

/-- What holds at the start and is kept by requests and by the environment
    holds in every reachable world. -/
theorem Reachable.induct {I : World σ → Prop} (start : ∀ w, Start S w → I w)
    (serve : ∀ w e, w.Sound S p ent → I w → I (w.after h p ent e))
    (env : ∀ w s, w.Sound S p ent → S.Env w.state s → I w → I { w with state := s })
    {w : World σ} (reached : w.Reachable S p ent) : w.Sound S p ent ∧ I w := by
  obtain ⟨first, begins, steps⟩ := reached
  induction steps with
  | refl => exact ⟨.start begins, start first begins⟩
  | tail _ step ih =>
    cases step with
    | serve e => exact ⟨ih.1.after e, serve _ e ih.1 ih.2⟩
    | env s changes => exact ⟨ih.1.env changes, env _ s ih.1 changes ih.2⟩

theorem Reachable.sound {w : World σ} (reached : w.Reachable S p ent) : w.Sound S p ent :=
  (reached.induct (I := fun _ => True) (fun _ _ => trivial) (fun _ _ _ _ => trivial) fun _ _ _ _ _ => trivial).1

/-- Two entries of one number are the same entry. -/
theorem Sound.entry_unique {w : World σ} (sound : w.Sound S p ent) {a b : Entry σ} (ha : a ∈ w.log) (hb : b ∈ w.log)
    (same : a.number = b.number) : a = b := by
  have : Std.Symm fun a b : Entry σ => a.number ≠ b.number := ⟨fun _ _ ne => ne.symm⟩
  by_contra differ
  exact sound.distinct.forall ha hb differ same

/-- The outcome of a logged refresh request. -/
theorem Sound.refresh_outcome {w : World σ} (sound : w.Sound S p ent) {e : Entry σ} (listed : e ∈ w.log)
    {client : Client} {form : Form} {jkt : Option String} {answer : Except OAuthError TokenResponse}
    (event : e.event = .refresh client form jkt) (answered : e.answer = some answer) :
    RefreshTokenGrant.Outcome p (ent.uuid e.number) client form jkt (S.clock e.pre) (S.view e.pre) answer
      (S.view e.post) := by
  obtain ⟨ok, -, logged⟩ := sound.served e listed
  obtain ⟨result, s', ran, -, -, out⟩ := RefreshTokenGrant.run_handle S p (ent.uuid e.number) client form jkt ok
  rw [event] at logged
  simp only [serve, ran, answered, Prod.mk.injEq, Option.some.injEq] at logged
  rw [logged.1, logged.2]
  exact out

theorem Sound.redeem_outcome {w : World σ} (sound : w.Sound S p ent) {e : Entry σ} (listed : e ∈ w.log)
    {client : Client} {form : Form} {jkt : Option String} {answer : Except OAuthError TokenResponse}
    (event : e.event = .redeem client form jkt) (answered : e.answer = some answer) :
    AuthorizationCodeGrant.Outcome p (ent.uuid e.number) client form jkt (S.clock e.pre) (S.view e.pre) answer
      (S.view e.post) := by
  obtain ⟨ok, unlinked, logged⟩ := sound.served e listed
  obtain ⟨result, s', ran, -, -, out⟩ := AuthorizationCodeGrant.run_handle S p (ent.uuid e.number) client form jkt ok
    fun c r known fresh => (unlinked c r known fresh).2
  rw [event] at logged
  simp only [serve, ran, answered, Prod.mk.injEq, Option.some.injEq] at logged
  rw [logged.1, logged.2]
  exact out

end World

/-- A request leaves the record of a code alone unless it presents the code or
    creates it. -/
theorem serve_code (uuid : Draw → String) {s : σ} (ok : S.Ok s) (unlinked : Unlinked (S.view s)) {e : Event}
    {c : String} (notSent : ∀ client form jkt, e = .redeem client form jkt → form.get "code" ≠ some c)
    (other : c ≠ uuid .code) : (S.view (serve h p uuid s e).2).code c = (S.view s).code c := by
  cases e with
  | redeem client form jkt =>
    obtain ⟨answer, s', ran, -, -, out⟩ := AuthorizationCodeGrant.run_handle S p uuid client form jkt ok
      fun c r known fresh => (unlinked c r known fresh).2
    simp only [serve, ran]
    have apart := notSent client form jkt rfl
    generalize S.view s' = v' at out
    have ne : ∀ c', form.get "code" = some c' → c ≠ c' := fun c' sent same => apart (same ▸ sent)
    cases out with
    | missing => rfl
    | unknown => rfl
    | replayed c' r r' e sent => simp [ne c' sent]
    | refused c' r e sent => simp [ne c' sent]
    | unsigned c' r e sent => simp [AuthorizationCodeGrant.accessView, ne c' sent]
    | redeemed c' r alg sent =>
      unfold AuthorizationCodeGrant.redeemedView AuthorizationCodeGrant.accessView
      split <;> simp [ne c' sent]
  | refresh client form jkt =>
    obtain ⟨answer, s', ran, -, -, out⟩ := RefreshTokenGrant.run_handle S p uuid client form jkt ok
    simp only [serve, ran]
    generalize S.view s' = v' at out
    cases out with
    | rotated t pre scope link alg =>
      unfold RefreshTokenGrant.rotatedView RefreshTokenGrant.markedView
      cases RefreshTokenGrant.new_refresh uuid scope <;> rfl
    | _ => rfl
  | revoke client form =>
    obtain ⟨answer, s', ran, -, -, dropped⟩ := run_revoke_as S client form ok
    simp only [serve, ran]
    obtain same | ⟨token, -, same⟩ := dropped <;> simp [same]
  | issue x =>
    simp only [serve]
    obtain ⟨t, same⟩ | same := S.save_code ok { x with code := uuid .code } <;> simp [same, other]

end
end RustOp
