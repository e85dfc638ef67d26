import RustOp.Deployment

/-!
Replaying an authorization code. The record of a code names the two tokens of
the first response and nothing that rotation made of them, and a store may have
dropped the record; so a replay revokes everything that stems from the code
exactly when nothing else of it is live and the record is still there.
-/
namespace RustOp
open RustOp.Effects RustOp.Text RustOp.Memory

variable {σ : Type} {h : Prog.Handler Backend σ}

/-- A token of either kind. -/
inductive Issued where
  | access (t : String)
  | refresh (t : String)
deriving DecidableEq

/-- An access token the store would answer with, or a refresh token that could
    still be rotated. -/
def Live (v : View) : Issued → Prop
  | .access t => ∃ r, v.access t = some r
  | .refresh t => ∃ r, v.refresh t = some r ∧ r.used = false

/-- The request presented this code. -/
def Event.PresentsCode (c : String) : Event → Prop
  | .redeem _ form _ => form.get "code" = some c
  | _ => False

/-- The request presented this refresh token. -/
def Event.PresentsRefresh (t : String) : Event → Prop
  | .refresh _ form _ => form.get "refresh_token" = some t
  | _ => False

/-- The request took the code: it presented it while it was unused. -/
def Entry.Takes (S : TokenStore σ h) (e : Entry σ) (c : String) : Prop :=
  e.event.PresentsCode c ∧ ∃ r, (S.view e.pre).code c = some r ∧ r.used = false

/-- What stems from a code: the tokens drawn by a request that presented it, and
    those drawn by a request that presented a refresh token of these. Draws of a
    request that failed are never live. -/
inductive Stems (ent : Entropy) (log : List (Entry σ)) (c : String) : Issued → Prop where
  | access {e : Entry σ} (listed : e ∈ log) (sent : e.event.PresentsCode c) :
      Stems ent log c (.access (ent.uuid e.number .access_token))
  | refresh {e : Entry σ} (listed : e ∈ log) (sent : e.event.PresentsCode c) :
      Stems ent log c (.refresh (ent.uuid e.number .refresh_token))
  | rotated_access {e : Entry σ} {t : String} (parent : Stems ent log c (.refresh t)) (listed : e ∈ log)
      (sent : e.event.PresentsRefresh t) : Stems ent log c (.access (ent.uuid e.number .access_token))
  | rotated_refresh {e : Entry σ} {t : String} (parent : Stems ent log c (.refresh t)) (listed : e ∈ log)
      (sent : e.event.PresentsRefresh t) : Stems ent log c (.refresh (ent.uuid e.number .rotated_token))

/-- The tokens of the response that redeemed the code. -/
inductive FirstIssued (log : List (Entry σ)) (c : String) : Issued → Prop where
  | access {e : Entry σ} {resp : TokenResponse} (listed : e ∈ log) (sent : e.event.PresentsCode c)
      (answer : e.answer = some (.ok resp)) : FirstIssued log c (.access resp.access_token)
  | refresh {e : Entry σ} {resp : TokenResponse} {t : String} (listed : e ∈ log) (sent : e.event.PresentsCode c)
      (answer : e.answer = some (.ok resp)) (token : resp.refresh_token = some t) :
      FirstIssued log c (.refresh t)

section
variable (S : TokenStore σ h) (ent : Entropy)

/-- What the record of a code knows about its redemption. -/
structure Recorded (log : List (Entry σ)) (served : Nat) (v : View) (c : String) : Prop where
  /-- A taken code existed, under the draw of an earlier request. -/
  drawn : ∀ e ∈ log, e.Takes S c → ∃ i, i < served ∧ c = ent.uuid i .code
  used : ∀ e ∈ log, e.Takes S c → ∀ r, v.code c = some r → r.used = true
  /-- The record names every live token of the first response, and only these. -/
  names : ∀ r, v.code c = some r → ∀ x, FirstIssued log c x → Live v x →
    match x with
    | .access t => r.issued_access = some t
    | .refresh t => r.issued_refresh = some t
  access : ∀ r, v.code c = some r → ∀ t, r.issued_access = some t → FirstIssued log c (.access t)
  refresh : ∀ r, v.code c = some r → ∀ t, r.issued_refresh = some t → FirstIssued log c (.refresh t)

variable {S ent} {p : Provider}

/-- Only the request that took a code is answered with tokens. -/
private theorem takes_of_ok {w : World σ} (sound : w.Sound S p ent) {e : Entry σ} (listed : e ∈ w.log) {c : String}
    (sent : e.event.PresentsCode c) {resp : TokenResponse} (answer : e.answer = some (.ok resp)) :
    e.Takes S c ∧ resp.access_token = ent.uuid e.number .access_token ∧
      ∀ t, resp.refresh_token = some t → t = ent.uuid e.number .refresh_token := by
  cases event : e.event with
  | redeem client form jkt =>
    have presented : form.get "code" = some c := by rw [event] at sent; exact sent
    have out := sound.redeem_outcome listed event answer
    generalize S.view e.post = v' at out
    cases out with
    | redeemed c' r alg sent' known fresh =>
      obtain rfl : c = c' := Option.some.inj (presented.symm.trans sent')
      refine ⟨⟨sent, r, known, fresh⟩, rfl, fun t token => ?_⟩
      unfold AuthorizationCodeGrant.response AuthorizationCodeGrant.issuedRefresh at token
      dsimp only at token
      split at token
      · exact (Option.some.inj token).symm
      · cases token
  | refresh => rw [event] at sent; exact sent.elim
  | revoke => rw [event] at sent; exact sent.elim
  | issue => rw [event] at sent; exact sent.elim

/-- A token of the first response that is live after a request was live before it. -/
private theorem live_before {w : World σ} (sound : w.Sound S p ent) {c : String} {x : Issued}
    (issued : FirstIssued w.log c x) (e : Event) (live : Live (S.view (w.after h p ent e).state) x) :
    Live (S.view w.state) x := by
  obtain ⟨-, delta⟩ := serve_delta (p := p) (ent.uuid w.served) sound.ok sound.unlinked e
  cases issued with
  | access listed sent answer =>
    obtain ⟨r, present⟩ := live
    obtain known | drawn := delta.access present
    · exact ⟨r, known⟩
    · rw [(takes_of_ok sound listed sent answer).2.1] at drawn
      exact absurd (ent.distinct drawn).1 (sound.numbered _ listed).ne
  | refresh listed sent answer token =>
    obtain ⟨r', present, unused⟩ := live
    obtain ⟨r, known, same⟩ | ⟨drawn, -⟩ := delta.refresh present
    · refine ⟨r, known, ?_⟩
      by_contra used
      simp [same.used (by simpa using used)] at unused
    · rw [(takes_of_ok sound listed sent answer).2.2 _ token] at drawn
      obtain drawn | drawn := drawn <;> exact absurd (ent.distinct drawn).1 (sound.numbered _ listed).ne

private theorem FirstIssued.cons {log : List (Entry σ)} {c : String} {x : Issued} (issued : FirstIssued log c x)
    (e : Entry σ) : FirstIssued (e :: log) c x := by
  cases issued with
  | access listed sent answer => exact .access (List.mem_cons_of_mem e listed) sent answer
  | refresh listed sent answer token => exact .refresh (List.mem_cons_of_mem e listed) sent answer token

/-- A request that does not present the code adds nothing to its response. -/
private theorem FirstIssued.uncons {log : List (Entry σ)} {c : String} {x : Issued} {e : Entry σ}
    (issued : FirstIssued (e :: log) c x) (other : ∀ resp, e.answer = some (.ok resp) → ¬ e.event.PresentsCode c) :
    FirstIssued log c x := by
  cases issued with
  | access listed sent answer =>
    obtain rfl | older := List.mem_cons.1 listed
    · exact absurd sent (other _ answer)
    · exact .access older sent answer
  | refresh listed sent answer token =>
    obtain rfl | older := List.mem_cons.1 listed
    · exact absurd sent (other _ answer)
    · exact .refresh older sent answer token

private theorem FirstIssued.taken {w : World σ} (sound : w.Sound S p ent) {c : String} {x : Issued}
    (issued : FirstIssued w.log c x) : ∃ e ∈ w.log, e.Takes S c := by
  cases issued with
  | access listed sent answer => exact ⟨_, listed, (takes_of_ok sound listed sent answer).1⟩
  | refresh listed sent answer => exact ⟨_, listed, (takes_of_ok sound listed sent answer).1⟩

private theorem Recorded.env {w : World σ} {c : String} (recorded : Recorded S ent w.log w.served (S.view w.state) c)
    {s : σ} (less : (S.view s).Forgets (S.view w.state)) : Recorded S ent w.log w.served (S.view s) c where
  drawn := recorded.drawn
  used := fun e listed takes r known => recorded.used e listed takes r (less.code c r known)
  names := by
    intro r known x issued live
    refine recorded.names r (less.code c r known) x issued ?_
    cases x with
    | access t => exact live.imp fun r' present => less.access t r' present
    | refresh t => exact live.imp fun r' present => ⟨less.refresh t r' present.1, present.2⟩
  access := fun r known => recorded.access r (less.code c r known)
  refresh := fun r known => recorded.refresh r (less.code c r known)

/-- A request that does not present the code leaves its record as it is, or
    creates it blank. -/
private theorem Recorded.after_other {w : World σ} (sound : w.Sound S p ent) {c : String}
    (recorded : Recorded S ent w.log w.served (S.view w.state) c) {e : Event} (other : ¬ e.PresentsCode c) :
    Recorded S ent (w.after h p ent e).log (w.after h p ent e).served (S.view (w.after h p ent e).state) c := by
  have noTake : ∀ {x}, x ∈ (w.after h p ent e).log → x.Takes S c → x ∈ w.log := by
    intro x listed takes
    obtain rfl | older := List.mem_cons.1 listed
    · exact absurd takes.1 other
    · exact older
  have noToken : ∀ {x}, FirstIssued (w.after h p ent e).log c x → FirstIssued w.log c x :=
    fun issued => issued.uncons fun _ _ => other
  have drawn : ∀ x ∈ (w.after h p ent e).log, x.Takes S c → ∃ i, i < w.served + 1 ∧ c = ent.uuid i .code := by
    intro x listed takes
    obtain ⟨i, earlier, draw⟩ := recorded.drawn x (noTake listed takes) takes
    exact ⟨i, Nat.lt_succ_of_lt earlier, draw⟩
  by_cases created : c = ent.uuid w.served .code
  · have untaken : ∀ x ∈ w.log, ¬ x.Takes S c := by
      intro x listed takes
      obtain ⟨i, earlier, draw⟩ := recorded.drawn x listed takes
      exact absurd (ent.distinct (draw.symm.trans created)).1 earlier.ne
    have blank : ∀ r, (S.view (w.after h p ent e).state).code c = some r →
        r.issued_access = none ∧ r.issued_refresh = none := by
      intro r known
      obtain ⟨r0, before, -⟩ | ⟨-, -, empty⟩ :=
        (serve_delta (p := p) (ent.uuid w.served) sound.ok sound.unlinked e).2.code known
      · obtain ⟨i, earlier, draw⟩ := sound.code before
        exact absurd (ent.distinct (draw.symm.trans created)).1 earlier.ne
      · exact empty
    refine ⟨drawn, fun x listed takes => absurd takes (untaken x (noTake listed takes)), ?_, ?_, ?_⟩
    · intro r known x issued live
      obtain ⟨f, listed, takes⟩ := (noToken issued).taken sound
      exact absurd takes (untaken f listed)
    · intro r known t named
      simp [(blank r known).1] at named
    · intro r known t named
      simp [(blank r known).2] at named
  · have same : (S.view (w.after h p ent e).state).code c = (S.view w.state).code c :=
      serve_code (ent.uuid w.served) sound.ok sound.unlinked
        (fun client form jkt is sent => other (by rw [is]; exact sent)) created
    refine ⟨drawn, ?_, ?_, ?_, ?_⟩
    · intro x listed takes r known
      exact recorded.used x (noTake listed takes) takes r (same ▸ known)
    · intro r known x issued live
      exact recorded.names r (same ▸ known) x (noToken issued) (live_before sound (noToken issued) e live)
    · intro r known t named
      exact (recorded.access r (same ▸ known) t named).cons _
    · intro r known t named
      exact (recorded.refresh r (same ▸ known) t named).cons _

/-- A request that presents the code: nothing, a replay, or its only redemption. -/
private theorem Recorded.after_sent {w : World σ} (sound : w.Sound S p ent) {c : String}
    (recorded : Recorded S ent w.log w.served (S.view w.state) c) {client : Client} {form : Form}
    {jkt : Option String} (sent : form.get "code" = some c) :
    Recorded S ent (w.after h p ent (.redeem client form jkt)).log (w.after h p ent (.redeem client form jkt)).served
      (S.view (w.after h p ent (.redeem client form jkt)).state) c := by
  have before : ∀ x, FirstIssued w.log c x →
      Live (S.view (w.after h p ent (.redeem client form jkt)).state) x → Live (S.view w.state) x :=
    fun x issued live => live_before sound issued _ live
  obtain ⟨answer, s', ran, -, -, out⟩ := AuthorizationCodeGrant.run_handle S p (ent.uuid w.served) client form jkt
    sound.ok fun c r known fresh => (sound.unlinked c r known fresh).2
  have state : (w.after h p ent (.redeem client form jkt)).state = s' := by simp [World.after, serve, ran]
  have log : (w.after h p ent (.redeem client form jkt)).log =
      ⟨w.served, w.state, .redeem client form jkt, some answer, s'⟩ :: w.log := by simp [World.after, serve, ran]
  rw [state] at before
  rw [state, log]
  clear state log ran
  generalize S.view s' = v' at out before
  -- Only a fresh record can be taken, and then no earlier request took it.
  have drawn : ∀ x ∈ (⟨w.served, w.state, .redeem client form jkt, some answer, s'⟩ :: w.log : List (Entry σ)),
      x.Takes S c → ∃ i, i < w.served + 1 ∧ c = ent.uuid i .code := by
    intro x listed takes
    obtain rfl | older := List.mem_cons.1 listed
    · obtain ⟨r, known, -⟩ := takes.2
      obtain ⟨i, earlier, draw⟩ := sound.code known
      exact ⟨i, Nat.lt_succ_of_lt earlier, draw⟩
    · obtain ⟨i, earlier, draw⟩ := recorded.drawn x older takes
      exact ⟨i, Nat.lt_succ_of_lt earlier, draw⟩
  have noFirst : ∀ r x, (S.view w.state).code c = some r → r.used = false → ¬ FirstIssued w.log c x := by
    intro r x known fresh issued
    obtain ⟨e, listed, takes⟩ := issued.taken sound
    simp [recorded.used e listed takes r known] at fresh
  cases out with
  | missing e absent => simp [sent] at absent
  | unknown c' e sent' absent =>
    obtain rfl : c = c' := Option.some.inj (sent.symm.trans sent')
    refine ⟨drawn, ?_, ?_, ?_, ?_⟩ <;> simp [absent]
  | replayed c' r r' e sent' known used same still access refresh =>
    obtain rfl : c = c' := Option.some.inj (sent.symm.trans sent')
    refine ⟨drawn, ?_, ?_, ?_, ?_⟩
    · intro x listed takes r1 known1
      simp only [View.setCode_code, Function.update_self, Option.some.injEq] at known1
      rw [← known1, still]
    · intro r1 known1 x issued live
      have old : FirstIssued w.log c x := issued.uncons fun _ ok => by cases ok
      have named := recorded.names r known x old (before x old live)
      cases x with
      | access t =>
        obtain ⟨a, present⟩ := live
        simp [View.dropAccess_access, named] at present
      | refresh t =>
        obtain ⟨a, present, -⟩ := live
        simp [View.dropRefresh_refresh, named] at present
    · intro r1 known1 t named
      simp only [View.setCode_code, Function.update_self, Option.some.injEq] at known1
      rw [← known1] at named
      obtain kept | cleared := access
      · exact (recorded.access r known t (kept ▸ named)).cons _
      · simp [cleared] at named
    · intro r1 known1 t named
      simp only [View.setCode_code, Function.update_self, Option.some.injEq] at known1
      rw [← known1] at named
      obtain kept | cleared := refresh
      · exact (recorded.refresh r known t (kept ▸ named)).cons _
      · simp [cleared] at named
  | refused c' r e sent' known fresh =>
    obtain rfl : c = c' := Option.some.inj (sent.symm.trans sent')
    have empty := sound.unlinked c r known fresh
    refine ⟨drawn, ?_, ?_, ?_, ?_⟩
    · simp
    · intro r1 known1 x issued
      exact absurd (issued.uncons fun _ ok => by cases ok) (noFirst r x known fresh)
    · simp [empty.1]
    · simp [empty.2]
  | unsigned c' r e sent' known fresh =>
    obtain rfl : c = c' := Option.some.inj (sent.symm.trans sent')
    have empty := sound.unlinked c r known fresh
    refine ⟨drawn, ?_, ?_, ?_, ?_⟩
    · simp [AuthorizationCodeGrant.accessView]
    · intro r1 known1 x issued
      exact absurd (issued.uncons fun _ ok => by cases ok) (noFirst r x known fresh)
    · simp [AuthorizationCodeGrant.accessView, empty.1]
    · simp [AuthorizationCodeGrant.accessView, empty.2]
  | redeemed c' r alg sent' known fresh =>
    obtain rfl : c = c' := Option.some.inj (sent.symm.trans sent')
    have first := fun x => @FirstIssued.access σ (⟨w.served, w.state, .redeem client form jkt, some (.ok x), s'⟩ :: w.log)
      c _ x List.mem_cons_self sent rfl
    refine ⟨drawn, ?_, ?_, ?_, ?_⟩
    · simp [AuthorizationCodeGrant.redeemedView]
    · intro r1 known1 x issued live
      simp only [AuthorizationCodeGrant.redeemedView, View.setCode_code, Function.update_self,
        Option.some.injEq] at known1
      rw [← known1]
      cases issued with
      | access listed presents ok =>
        obtain rfl | older := List.mem_cons.1 listed
        · cases ok
          rfl
        · exact absurd (.access older presents ok) (noFirst r _ known fresh)
      | refresh listed presents ok token =>
        obtain rfl | older := List.mem_cons.1 listed
        · cases ok
          exact token
        · exact absurd (.refresh older presents ok token) (noFirst r _ known fresh)
    · intro r1 known1 t named
      simp only [AuthorizationCodeGrant.redeemedView, View.setCode_code, Function.update_self,
        Option.some.injEq] at known1
      rw [← known1] at named
      obtain rfl := Option.some.inj named
      exact first _
    · intro r1 known1 t named
      simp only [AuthorizationCodeGrant.redeemedView, View.setCode_code, Function.update_self,
        Option.some.injEq] at known1
      rw [← known1] at named
      exact @FirstIssued.refresh σ _ c _ _ t List.mem_cons_self sent rfl named

private theorem reachable_recorded {w : World σ} (reached : w.Reachable S p ent) (c : String) :
    Recorded S ent w.log w.served (S.view w.state) c := by
  refine (reached.induct (I := fun w => Recorded S ent w.log w.served (S.view w.state) c) ?_ ?_ ?_).2
  · intro w start
    refine ⟨?_, ?_, ?_, ?_, ?_⟩ <;> simp [start.log, start.code]
  · intro w e sound recorded
    by_cases other : e.PresentsCode c
    · cases e with
      | redeem client form jkt => exact recorded.after_sent sound other
      | refresh => exact other.elim
      | revoke => exact other.elim
      | issue => exact other.elim
    · exact recorded.after_other sound other
  · intro w s sound changes recorded
    exact recorded.env (S.env_forgets sound.ok changes)

/-- After a replay nothing that stems from the code is live, exactly if before
    it only tokens of the first response were, and the store still had the
    record of the code, unless nothing was live anyway. -/
theorem replay_revokes_iff {w : World σ} (reached : w.Reachable S p ent) {c : String}
    (redeemed : ∃ e ∈ w.log, e.Takes S c) (client : Client) {form : Form} (jkt : Option String)
    (sent : form.get "code" = some c) :
    (∀ x, Stems ent w.log c x → ¬ Live (S.view (w.after h p ent (.redeem client form jkt)).state) x) ↔
      (∀ x, Stems ent w.log c x → Live (S.view w.state) x → FirstIssued w.log c x) ∧
      ((∃ r, (S.view w.state).code c = some r) ∨ ∀ x, Stems ent w.log c x → ¬ Live (S.view w.state) x) := by
  have sound := reached.sound
  have recorded := reachable_recorded reached c
  obtain ⟨first, listed, takes⟩ := redeemed
  obtain ⟨answer, s', ran, -, -, out⟩ := AuthorizationCodeGrant.run_handle S p (ent.uuid w.served) client form jkt
    sound.ok fun c r known fresh => (sound.unlinked c r known fresh).2
  have state : (w.after h p ent (.redeem client form jkt)).state = s' := by simp [World.after, serve, ran]
  rw [state]
  generalize S.view s' = v' at out
  have never : ∀ r, (S.view w.state).code c = some r → r.used = false → False := by
    intro r known fresh
    simp [recorded.used first listed takes r known] at fresh
  cases out with
  | missing e absent => simp [sent] at absent
  | unknown c' e sent' absent =>
    obtain rfl : c = c' := Option.some.inj (sent.symm.trans sent')
    constructor
    · exact fun dead => ⟨fun x stems live => absurd live (dead x stems), .inr dead⟩
    · rintro ⟨-, ⟨r, known⟩ | dead⟩
      · simp [absent] at known
      · exact dead
  | replayed c' r r' e sent' known used same still access refresh =>
    obtain rfl : c = c' := Option.some.inj (sent.symm.trans sent')
    constructor
    · intro dead
      refine ⟨fun x stems live => ?_, .inl ⟨r, known⟩⟩
      have gone := dead x stems
      cases x with
      | access t =>
        refine recorded.access r known t ?_
        by_contra other
        exact gone (live.imp fun a present => by simpa [View.dropAccess_access, other] using present)
      | refresh t =>
        refine recorded.refresh r known t ?_
        by_contra other
        exact gone (live.imp fun a present => by simpa [View.dropRefresh_refresh, other] using present)
    · rintro ⟨only, -⟩ x stems live
      have was : Live (S.view w.state) x := by
        cases x with
        | access t =>
          refine live.imp fun a present => ?_
          simp only [View.setCode_access, View.dropRefresh_access, View.dropAccess_access] at present
          split at present
          · cases present
          · exact present
        | refresh t =>
          refine live.imp fun a present => ?_
          simp only [View.setCode_refresh, View.dropRefresh_refresh, View.dropAccess_refresh] at present
          split at present
          · cases present.1
          · exact present
      have named := recorded.names r known x (only x stems was) was
      cases x with
      | access t =>
        obtain ⟨a, present⟩ := live
        simp [View.dropAccess_access, named] at present
      | refresh t =>
        obtain ⟨a, present, -⟩ := live
        simp [View.dropRefresh_refresh, named] at present
  | refused c' r e sent' known fresh =>
    obtain rfl : c = c' := Option.some.inj (sent.symm.trans sent')
    exact (never r known fresh).elim
  | unsigned c' r e sent' known fresh =>
    obtain rfl : c = c' := Option.some.inj (sent.symm.trans sent')
    exact (never r known fresh).elim
  | redeemed c' r alg sent' known fresh =>
    obtain rfl : c = c' := Option.some.inj (sent.symm.trans sent')
    exact (never r known fresh).elim

end

/-- The same for either store: in every sequential run, a replay leaves nothing
    of the code live exactly under this condition on the records before it. -/
theorem code_replay_revokes_iff (d : Deployment) {p : Provider} {ent : Entropy} {w : World d.State}
    (reached : w.Reachable d.tokens p ent) {c : String} (redeemed : ∃ e ∈ w.log, e.Takes d.tokens c) (client : Client)
    {form : Form} (jkt : Option String) (sent : form.get "code" = some c) :
    (∀ x, Stems ent w.log c x → ¬ Live (d.tokens.view (w.after d.handler p ent (.redeem client form jkt)).state) x) ↔
      (∀ x, Stems ent w.log c x → Live (d.tokens.view w.state) x → FirstIssued w.log c x) ∧
      ((∃ r, (d.tokens.view w.state).code c = some r) ∨ ∀ x, Stems ent w.log c x → ¬ Live (d.tokens.view w.state) x) :=
  replay_revokes_iff reached redeemed client jkt sent

open Reference

private theorem redeemed_takes :
    ∃ e ∈ (Deployment.firestore.after provider .unary redeemed).log, e.Takes Deployment.firestore.tokens "c" :=
  ⟨_, List.mem_cons_self, rfl, ⟨offlineCode, false, none, none⟩, by decide +kernel, rfl⟩

theorem code_replay_revokes_iff_redeemed_once :
    (∀ x, Stems .unary (Deployment.firestore.after provider .unary redeemed).log "c" x →
      ¬ Live (Deployment.firestore.tokens.view ((Deployment.firestore.after provider .unary redeemed).after
        Deployment.firestore.handler provider .unary (.redeem rp redeemForm none)).state) x) ↔
      (∀ x, Stems .unary (Deployment.firestore.after provider .unary redeemed).log "c" x →
        Live (Deployment.firestore.tokens.view (Deployment.firestore.after provider .unary redeemed).state) x →
        FirstIssued (Deployment.firestore.after provider .unary redeemed).log "c" x) ∧
      ((∃ r, (Deployment.firestore.tokens.view (Deployment.firestore.after provider .unary redeemed).state).code "c" =
        some r) ∨ ∀ x, Stems .unary (Deployment.firestore.after provider .unary redeemed).log "c" x →
          ¬ Live (Deployment.firestore.tokens.view (Deployment.firestore.after provider .unary redeemed).state) x) :=
  code_replay_revokes_iff .firestore (Deployment.reachable_after _ _ _ _) redeemed_takes rp none rfl

/-- The refresh token of a code is rotated, then the code is replayed: in either
    store the rotated token stems from the code and stays live. -/
theorem replay_after_rotation_spares_successor :
    (Stems .unary (Deployment.memory.after provider .unary rotated).log "c" (.refresh "11n") ∧
      Live (Deployment.memory.tokens.view
        (Deployment.memory.after provider .unary (rotated ++ [.redeem rp redeemForm none])).state) (.refresh "11n")) ∧
    Stems .unary (Deployment.firestore.after provider .unary rotated).log "c" (.refresh "11n") ∧
      Live (Deployment.firestore.tokens.view
        (Deployment.firestore.after provider .unary (rotated ++ [.redeem rp redeemForm none])).state) (.refresh "11n") := by
  refine ⟨⟨?_, ?_⟩, ?_, ?_⟩
  · have first : Stems .unary (Deployment.memory.after provider .unary rotated).log "c" (.refresh "1r") :=
      .refresh (List.mem_cons_of_mem _ List.mem_cons_self) rfl
    exact .rotated_refresh first List.mem_cons_self rfl
  · exact ⟨⟨"11n", "rp", "alice", "openid offline_access", none, none, none, some 0, "1f", false, none⟩,
      by decide +kernel, rfl⟩
  · have first : Stems .unary (Deployment.firestore.after provider .unary rotated).log "c" (.refresh "1r") :=
      .refresh (List.mem_cons_of_mem _ List.mem_cons_self) rfl
    exact .rotated_refresh first List.mem_cons_self rfl
  · exact ⟨⟨"11n", "rp", "alice", "openid offline_access", none, none, none, some 0, "1f", false, none⟩,
      by decide +kernel, rfl⟩

end RustOp
