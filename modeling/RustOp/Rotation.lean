import RustOp.Deployment

/-!
Rotation carries an authorization on unchanged: along a chain of rotated
refresh tokens, in any sequential run, every token keeps the root's client,
account, resource, key and authentication context, and scopes only shrink.
-/
namespace RustOp
open RustOp.Effects RustOp.Text RustOp.Memory

variable {σ : Type} {h : Prog.Handler Backend σ}

/-- The fields a rotation must not change. -/
structure SameAuthorization (root r : RefreshToken) : Prop where
  client_id : r.client_id = root.client_id
  account_id : r.account_id = root.account_id
  resource : r.resource = root.resource
  acr : r.acr = root.acr
  auth_time : r.auth_time = root.auth_time
  jkt : r.jkt = root.jkt
  family_id : r.family_id = root.family_id

/-- A successful refresh request that presented `t`. -/
structure Entry.Rotates (e : Entry σ) (client : Client) (form : Form) (jkt : Option String) (t : String)
    (resp : TokenResponse) : Prop where
  event : e.event = .refresh client form jkt
  sent : form.get "refresh_token" = some t
  answer : e.answer = some (.ok resp)

/-- The refresh token that a successful redemption by `client` created. -/
structure Entry.Roots (S : TokenStore σ h) (e : Entry σ) (client : Client) (root : RefreshToken) : Prop where
  event : ∃ form jkt, e.event = .redeem client form jkt
  answer : ∃ resp, e.answer = some (.ok resp) ∧ resp.refresh_token = some root.token
  saved : (S.view e.post).refresh root.token = some root

/-- The records of a chain, as each was saved: the root, and the successor of
    every successful rotation of one of them. -/
inductive Chain (S : TokenStore σ h) (log : List (Entry σ)) (root : RefreshToken) : RefreshToken → Prop where
  | root : Chain S log root root
  | hop {cur new : RefreshToken} {e : Entry σ} {client : Client} {form : Form} {jkt : Option String}
      {resp : TokenResponse} (chain : Chain S log root cur) (listed : e ∈ log)
      (rotates : e.Rotates client form jkt cur.token resp) (next : resp.refresh_token = some new.token)
      (saved : (S.view e.post).refresh new.token = some new) : Chain S log root new

/-- What a successful rotation of `cur` gives, measured against the root. -/
structure Carries (S : TokenStore σ h) (root cur : RefreshToken) (e : Entry σ) (client : Client)
    (resp : TokenResponse) : Prop where
  client_id : client.client_id = root.client_id
  /-- The access token belongs to the root's authorization, at a scope within
      the presented token's. -/
  access : ∃ minted, (S.view e.post).access resp.access_token = some minted ∧
    minted.client_id = root.client_id ∧ minted.account_id = root.account_id ∧ minted.aud = root.resource ∧
    minted.acr = root.acr ∧ minted.auth_time = root.auth_time ∧ minted.scope = resp.scope ∧
    (root.jkt.isSome → minted.jkt = root.jkt)
  scope : scopeValues resp.scope ⊆ scopeValues cur.scope
  /-- A successor exactly while the scope still asks for one. -/
  offline : resp.refresh_token.isSome ↔ "offline_access" ∈ scopeValues resp.scope
  refresh : ∀ t, resp.refresh_token = some t → ∃ new, (S.view e.post).refresh t = some new ∧ new.token = t ∧
    SameAuthorization root new ∧ new.scope = resp.scope
  bound : client.is_public → root.jkt.isSome

section
variable (S : TokenStore σ h) (ent : Entropy)

/-- `r` is the record that some request of the log saved under its own draw. -/
def BornBy (log : List (Entry σ)) (r : RefreshToken) : Prop :=
  ∃ e ∈ log, (S.view e.post).refresh r.token = some r ∧
    (r.token = ent.uuid e.number .refresh_token ∨ r.token = ent.uuid e.number .rotated_token)

/-- Every record of the view is a born one, up to its use. -/
def AllBorn (log : List (Entry σ)) (v : View) : Prop :=
  ∀ t r, v.refresh t = some r → ∃ b, b.token = t ∧ BornBy S ent log b ∧ SameGrant b r

variable {S ent} {p : Provider}

private theorem BornBy.cons {log : List (Entry σ)} {r : RefreshToken} (born : BornBy S ent log r) (e : Entry σ) :
    BornBy S ent (e :: log) r := by
  obtain ⟨x, listed, saved⟩ := born
  exact ⟨x, List.mem_cons_of_mem e listed, saved⟩

private theorem AllBorn.cons {log : List (Entry σ)} {v : View} (born : AllBorn S ent log v) (e : Entry σ) :
    AllBorn S ent (e :: log) v := by
  intro t r present
  obtain ⟨b, key, was, same⟩ := born t r present
  exact ⟨b, key, was.cons e, same⟩

/-- Every record, now and before each logged request, was born in the run. -/
private theorem reachable_born {w : World σ} (reached : w.Reachable S p ent) :
    AllBorn S ent w.log (S.view w.state) ∧ ∀ e ∈ w.log, AllBorn S ent w.log (S.view e.pre) := by
  refine (reached.induct (I := fun w => AllBorn S ent w.log (S.view w.state) ∧
    ∀ e ∈ w.log, AllBorn S ent w.log (S.view e.pre)) ?_ ?_ ?_).2
  · intro w start
    refine ⟨fun t r present => ?_, by simp [start.log]⟩
    rw [start.refresh] at present
    cases present
  · intro w e sound ⟨now, before⟩
    obtain ⟨-, delta⟩ := serve_delta (p := p) (ent.uuid w.served) sound.ok sound.unlinked e
    refine ⟨fun t r present => ?_, fun x listed => ?_⟩
    · obtain ⟨r0, known, same⟩ | ⟨drawn, key⟩ := delta.refresh present
      · obtain ⟨b, key, was, grant⟩ := now t r0 known
        exact ⟨b, key, was.cons _, grant.trans same⟩
      · exact ⟨r, key, ⟨_, List.mem_cons_self, by rw [key]; exact present, by rw [key]; exact drawn⟩, .refl r⟩
    · obtain rfl | older := List.mem_cons.1 listed
      · exact now.cons _
      · exact (before x older).cons _
  · intro w s sound changes ⟨now, before⟩
    have less := S.env_forgets sound.ok changes
    exact ⟨fun t r present => now t r (less.refresh t r present), before⟩

/-- One token has one birth. -/
private theorem BornBy.unique {w : World σ} (sound : w.Sound S p ent) {a b : RefreshToken}
    (bornA : BornBy S ent w.log a) (bornB : BornBy S ent w.log b) (same : a.token = b.token) : a = b := by
  obtain ⟨e, listedE, savedA, drawnA⟩ := bornA
  obtain ⟨f, listedF, savedB, drawnB⟩ := bornB
  have numbers : e.number = f.number := by
    obtain drawnA | drawnA := drawnA <;> obtain drawnB | drawnB := drawnB <;>
      exact (ent.distinct (drawnA.symm.trans (same.trans drawnB))).1
  rw [sound.entry_unique listedE listedF numbers, same, savedB] at savedA
  exact (Option.some.inj savedA).symm

/-- A rotated view holds the new access token, and the successor if there is one. -/
private theorem rotatedView_access (uuid : Draw → String) (client : Client) (jkt : Option String) (v : View)
    (t : String) (pre : RefreshToken) (scope : String) (link : Option String) :
    (RefreshTokenGrant.rotatedView uuid client jkt v t pre scope link).access (uuid .access_token) =
      some (rotatedAccess client pre scope jkt (uuid .access_token)) := by
  unfold RefreshTokenGrant.rotatedView RefreshTokenGrant.markedView
  cases RefreshTokenGrant.new_refresh uuid scope <;> simp

private theorem rotatedView_refresh {uuid : Draw → String} (client : Client) (jkt : Option String) (v : View)
    (t : String) (pre : RefreshToken) {scope n : String} (link : Option String)
    (next : RefreshTokenGrant.new_refresh uuid scope = some n) :
    (RefreshTokenGrant.rotatedView uuid client jkt v t pre scope link).refresh n =
      some (RefreshTokenGrant.successor client pre scope n) := by
  simp [RefreshTokenGrant.rotatedView, next]

private theorem new_refresh_isSome {uuid : Draw → String} {scope : String} :
    (RefreshTokenGrant.new_refresh uuid scope).isSome ↔ "offline_access" ∈ scopeValues scope := by
  rw [← has_scope_iff]
  unfold RefreshTokenGrant.new_refresh
  split <;> simp_all

/-- The successor of a rotation is the request's own draw. -/
private theorem rotates_draw {w : World σ} (sound : w.Sound S p ent) {e : Entry σ} (listed : e ∈ w.log)
    {client : Client} {form : Form} {jkt : Option String} {t n : String} {resp : TokenResponse}
    (rotates : e.Rotates client form jkt t resp) (next : resp.refresh_token = some n) :
    n = ent.uuid e.number .rotated_token := by
  have out := sound.refresh_outcome listed rotates.event rotates.answer
  generalize S.view e.post = v' at out
  cases out with
  | rotated t pre scope link alg =>
    unfold RefreshTokenGrant.response RefreshTokenGrant.new_refresh at next
    dsimp only at next
    split at next
    · exact (Option.some.inj next).symm
    · cases next

/-- One rotation of a chain's token carries the root's authorization on. -/
private theorem rotation_carries {w : World σ} (sound : w.Sound S p ent)
    (before : ∀ e ∈ w.log, AllBorn S ent w.log (S.view e.pre)) {root cur : RefreshToken}
    (born : BornBy S ent w.log cur) (same : SameAuthorization root cur) {e : Entry σ} (listed : e ∈ w.log)
    {client : Client} {form : Form} {jkt : Option String} {resp : TokenResponse}
    (rotates : e.Rotates client form jkt cur.token resp) : Carries S root cur e client resp := by
  have out := sound.refresh_outcome listed rotates.event rotates.answer
  generalize view : S.view e.post = v' at out
  cases out with
  | rotated t pre scope link alg sent known unused fits granted signs =>
    obtain rfl : cur.token = t := Option.some.inj (rotates.sent.symm.trans sent)
    obtain ⟨b, key, bornB, grant⟩ := before e listed cur.token pre known
    obtain rfl : b = cur := bornB.unique sound born key
    have kept : SameAuthorization root pre := by
      rw [grant.eq]
      exact ⟨same.client_id, same.account_id, same.resource, same.acr, same.auth_time, same.jkt, same.family_id⟩
    have scopes : pre.scope = b.scope := by rw [grant.eq]
    have owner : client.client_id = root.client_id := fits.client_id.symm.trans kept.client_id
    have binding := RefreshTokenGrant.check_binding_ok.1 fits.binding
    refine ⟨owner, ⟨_, by rw [view]; exact rotatedView_access _ _ _ _ _ _ _ _, owner, kept.account_id, kept.resource,
      kept.acr, kept.auth_time, rfl, ?_⟩, ?_, new_refresh_isSome, ?_, ?_⟩
    · intro isBound
      obtain ⟨k, boundTo⟩ := Option.isSome_iff_exists.1 isBound
      rw [boundTo]
      exact binding.1 k (kept.jkt.trans boundTo)
    · rw [← scopes]
      exact RefreshTokenGrant.requested_scope_subset granted
    · intro n next
      refine ⟨_, by rw [view]; exact rotatedView_refresh client jkt _ _ pre link next, rfl, ?_, rfl⟩
      exact ⟨owner, kept.account_id, kept.resource, kept.acr, kept.auth_time, kept.jkt, kept.family_id⟩
    · intro isPublic
      by_contra unbound
      have none : root.jkt = none := by simpa using unbound
      have := binding.2 (kept.jkt.trans none)
      simp [this] at isPublic

/-- The root of a chain was born, under the owner's name, and bound for a public client. -/
private theorem roots_born {w : World σ} (sound : w.Sound S p ent) {e : Entry σ} (listed : e ∈ w.log)
    {owner : Client} {root : RefreshToken} (roots : e.Roots S owner root) :
    BornBy S ent w.log root ∧ root.client_id = owner.client_id ∧ (owner.is_public → root.jkt.isSome) := by
  obtain ⟨form, jkt, event⟩ := roots.event
  obtain ⟨resp, answer, token⟩ := roots.answer
  have out := sound.redeem_outcome listed event answer
  have saved := roots.saved
  generalize S.view e.post = v' at out saved
  cases out with
  | redeemed c r alg sent known fresh accepted signs =>
    unfold AuthorizationCodeGrant.response AuthorizationCodeGrant.issuedRefresh at token
    dsimp only at token
    split at token
    · rename_i wants
      have drawn : ent.uuid e.number .refresh_token = root.token := Option.some.inj token
      refine ⟨⟨e, listed, roots.saved, .inl drawn.symm⟩, ?_⟩
      simp only [AuthorizationCodeGrant.redeemedView, wants, ↓reduceIte, View.setCode_refresh,
        View.setRefresh_refresh, drawn, Function.update_self, Option.some.injEq] at saved
      rw [← saved]
      refine ⟨rfl, fun isPublic => ?_⟩
      simp only [wantsRefresh, isPublic, Bool.and_true, Bool.and_eq_true, Bool.not_eq_true',
        Option.isNone_eq_false_iff] at wants
      exact wants.2
    · cases token

/-- Rotation preserves the authorization, whatever else the run does: for every
    record of a chain, it and every successful request that presents it. -/
theorem chain_carries {w : World σ} (reached : w.Reachable S p ent) {e : Entry σ} (listed : e ∈ w.log)
    {owner : Client} {root cur : RefreshToken} (roots : e.Roots S owner root) (chain : Chain S w.log root cur) :
    SameAuthorization root cur ∧ scopeValues cur.scope ⊆ scopeValues root.scope ∧
    root.client_id = owner.client_id ∧ (owner.is_public → root.jkt.isSome) ∧
    ∀ f ∈ w.log, ∀ client form jkt resp, f.Rotates client form jkt cur.token resp →
      Carries S root cur f client resp := by
  have sound := reached.sound
  have before := (reachable_born reached).2
  obtain ⟨bornRoot, owned, bound⟩ := roots_born sound listed roots
  have along : BornBy S ent w.log cur ∧ SameAuthorization root cur ∧
      scopeValues cur.scope ⊆ scopeValues root.scope := by
    induction chain with
    | root => exact ⟨bornRoot, ⟨rfl, rfl, rfl, rfl, rfl, rfl, rfl⟩, subset_rfl⟩
    | hop chain listedF rotates next saved ih =>
      obtain ⟨born, same, within⟩ := ih
      have carries := rotation_carries sound before born same listedF rotates
      obtain ⟨new, savedNew, -, sameNew, scopeNew⟩ := carries.refresh _ next
      obtain rfl := Option.some.inj (saved.symm.trans savedNew)
      refine ⟨⟨_, listedF, saved, .inr ?_⟩, sameNew, ?_⟩
      · exact rotates_draw sound listedF rotates next
      · rw [scopeNew]
        exact carries.scope.trans within
  exact ⟨along.2.1, along.2.2, owned, bound, fun f listedF client form jkt resp rotates =>
    rotation_carries sound before along.1 along.2.1 listedF rotates⟩

end

/-- The same for either store. -/
theorem rotation_preserves_authorization (d : Deployment) {p : Provider} {ent : Entropy} {w : World d.State}
    (reached : w.Reachable d.tokens p ent) {e : Entry d.State} (listed : e ∈ w.log) {owner : Client}
    {root cur : RefreshToken} (roots : e.Roots d.tokens owner root) (chain : Chain d.tokens w.log root cur) :
    SameAuthorization root cur ∧ scopeValues cur.scope ⊆ scopeValues root.scope ∧
    root.client_id = owner.client_id ∧ (owner.is_public → root.jkt.isSome) ∧
    ∀ f ∈ w.log, ∀ client form jkt resp, f.Rotates client form jkt cur.token resp →
      Carries d.tokens root cur f client resp :=
  chain_carries reached listed roots chain

open Reference

/-- The records of a code's first refresh token and of its successor. -/
def firstRecord : RefreshToken :=
  ⟨"1r", "rp", "alice", "openid offline_access", none, none, none, some 0, "1f", false, none⟩
def nextRecord : RefreshToken :=
  ⟨"11n", "rp", "alice", "openid offline_access", none, none, none, some 0, "1f", false, none⟩

/-- The requests that created them. -/
def redemption : Entry Firestore.Db :=
  Deployment.firestore.entry provider .unary [.issue offlineCode] (.redeem rp redeemForm none)
def rotation : Entry Firestore.Db :=
  Deployment.firestore.entry provider .unary redeemed (.refresh rp [("refresh_token", "1r")] none)

private theorem log_rotated : (Deployment.firestore.after provider .unary rotated).log =
    rotation :: redemption :: (Deployment.firestore.after provider .unary [.issue offlineCode]).log := by
  unfold rotated
  rw [Deployment.log_after]
  unfold redeemed
  rw [Deployment.log_after]
  rfl

/-- A request that was answered with this refresh token. -/
private theorem answered {σ : Type} {e : Entry σ} {t : String}
    (test : e.answer.any (fun | .ok resp => resp.refresh_token == some t | .error _ => false) = true) :
    ∃ resp, e.answer = some (.ok resp) ∧ resp.refresh_token = some t := by
  cases answer : e.answer with
  | none => simp [answer] at test
  | some result =>
    cases result with
    | error err => simp [answer] at test
    | ok resp => exact ⟨resp, rfl, by simpa [answer] using test⟩

theorem rotation_preserves_authorization_rotated_once :
    SameAuthorization firstRecord nextRecord ∧ scopeValues nextRecord.scope ⊆ scopeValues firstRecord.scope ∧
    firstRecord.client_id = rp.client_id ∧ (rp.is_public → firstRecord.jkt.isSome) ∧
    ∀ f ∈ (Deployment.firestore.after provider .unary rotated).log, ∀ client form jkt resp,
      f.Rotates client form jkt nextRecord.token resp →
      Carries Deployment.firestore.tokens firstRecord nextRecord f client resp := by
  obtain ⟨resp, answer, token⟩ := answered (e := rotation) (t := "11n") (by decide +kernel)
  refine rotation_preserves_authorization .firestore (Deployment.reachable_after _ _ _ _) (e := redemption)
    (by rw [log_rotated]; simp) ⟨⟨redeemForm, none, rfl⟩, answered (by decide +kernel), by decide +kernel⟩ ?_
  exact .hop .root (by rw [log_rotated]; simp) ⟨rfl, rfl, answer⟩ token (by decide +kernel)

end RustOp
