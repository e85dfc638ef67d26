import RustOp.Effects.LastWrite
import RustOp.Firestore.Contract
import RustOp.Firestore.Recorded
import RustOp.Web.UserInfo
import RustOp.Web.SiteReference

/-!
What userinfo answers after any number of requests. Users submit what they like,
under any name; what they get back is what the provider knows of the account, and
the editable fields as they were written last.
-/
namespace RustOp.Web.TruthfulClaims
open RustOp.Effects RustOp.Firestore RustOp.Text registration ProfileRace

/-! ### Requests -/

/-- Requests of users that save or show claims. -/
inductive Request where
  | profile_put (headers : Headers) (body : String)
  | register (req : RegVerifyReq)
  | userinfo_get (headers : Headers)
  | userinfo_post (headers : Headers) (body : String)

/-- A request on Firestore. -/
def Request.handle (p : ProfileSite) (jwks : String → String → Option JwkPub) : Request → Prog Fs Response
  | .profile_put headers body => (oidc.profile_put p headers body).lower (production jwks)
  | .register req => register_passkey_verify p.toSite req
  | .userinfo_get headers => (oidc.userinfo_get p.toServer headers).lower (production jwks)
  | .userinfo_post headers body => (oidc.userinfo_post p.toServer headers body).lower (production jwks)

/-- What a request submits for a profile. -/
def Request.updates (p : ProfileSite) : Request → Table String String
  | .profile_put _ body => (p.string_map_from_str body).toOption.getD ∅
  | .register req =>
    match normalize_name req.name with
    | .ok (some name) => (∅ : Table String String).set "name" name
    | _ => ∅
  | .userinfo_get _ | .userinfo_post .. => ∅

/-! ### Writes -/

/-- The account whose profile is written. -/
def saved_profile : FsOp → Option String
  | .set_doc .profiles id _ => some id
  | _ => none

/-- What updates write to the fields of a profile: only editable ones count. -/
def submitted (updates : Table String String) (id : String) : List ((String × String) × String) :=
  (updates.pairs.filter fun e => e.1 ∈ EDITABLE).map fun e => ((id, e.1), e.2)

/-- What a request with these updates wrote to fields of profiles, for the requests
    to Firestore that took effect. -/
def written (updates : Table String String) (done : List FsOp) : List ((String × String) × String) :=
  (done.filterMap saved_profile).flatMap (submitted updates)

/-- A field of the profile of an account. -/
def profile_field (db : Db) (key : String × String) : Option String := (stored key.1 db).get key.2

/-- A field depends on the document of its account only. -/
theorem profile_field_of_same {db db' : Db} {key : String × String}
    (same : db'.docs.get (.profiles, key.1) = db.docs.get (.profiles, key.1)) : profile_field db key = profile_field db' key := by
  rw [profile_field, profile_field, stored, stored, same]

theorem mem_submitted {updates : Table String String} {id v : String} {key : String × String} :
    (key, v) ∈ submitted updates id ↔ key.1 = id ∧ key.2 ∈ EDITABLE ∧ updates.get key.2 = some v := by
  obtain ⟨id', k⟩ := key
  simp only [submitted, List.mem_map, List.mem_filter, decide_eq_true_eq, Prod.mk.injEq, Table.get_eq_some_iff]
  constructor
  · rintro ⟨e, ⟨listed, editable⟩, ⟨rfl, rfl⟩, rfl⟩
    exact ⟨rfl, editable, listed⟩
  · rintro ⟨rfl, editable, listed⟩
    exact ⟨(k, v), ⟨listed, editable⟩, ⟨rfl, rfl⟩, rfl⟩

theorem lastWrite_submitted (updates : Table String String) (id : String) {key : String × String} (editable : key.2 ∈ EDITABLE) :
    Table.lastWrite (submitted updates id) key = if key.1 = id then updates.get key.2 else none := by
  refine Option.ext fun v => ?_
  constructor
  · intro last
    obtain ⟨own, -, sent⟩ := mem_submitted.mp (Table.mem_of_lastWrite last)
    rw [if_pos own]
    exact sent
  · intro sent
    split at sent
    · rename_i own
      obtain ⟨w, last, among⟩ := Table.exists_lastWrite (mem_submitted.mpr ⟨own, editable, sent⟩)
      obtain ⟨-, -, sent'⟩ := mem_submitted.mp among
      rw [last, ← sent, ← sent']
    · cases sent

section saves
variable {updates : Table String String}

/-- The editable fields of all profiles are as they were, but for what the updates
    wrote. -/
def Saves (updates : Table String String) (s s' : Journaled) : Prop :=
  ∃ ops, s'.done = s.done ++ ops ∧ ∀ key : String × String, key.2 ∈ EDITABLE →
    profile_field s'.db key = (Table.lastWrite (written updates ops) key).or (profile_field s.db key)

theorem Saves.refl (s : Journaled) : Saves updates s s := ⟨[], by simp, fun _ _ => rfl⟩

theorem Saves.trans (a b c : Journaled) (ab : Saves updates a b) (bc : Saves updates b c) : Saves updates a c := by
  obtain ⟨ops, done, fields⟩ := ab
  obtain ⟨ops', done', fields'⟩ := bc
  refine ⟨ops ++ ops', by rw [done', done, List.append_assoc], fun key editable => ?_⟩
  have both : written updates (ops ++ ops') = written updates ops ++ written updates ops' := by simp [written]
  rw [fields' key editable, fields key editable, both, Table.lastWrite_append, Option.or_assoc]

/-- No profile is written. -/
def Quiet (o : FsOp) : Prop := ∀ id, o.writes ≠ some (.profiles, id)

theorem quiet_reads (o : FsOp) (reads : o.writes = none) : Quiet o := by
  intro id writes
  rw [reads] at writes
  cases writes

theorem Quiet.saved {o : FsOp} (quiet : Quiet o) : saved_profile o = none := by
  unfold saved_profile
  split
  · rename_i id f
    exact absurd rfl (quiet id)
  · rfl

theorem Quiet.saves {o : FsOp} {s s' : Journaled} {r : o.Res} (quiet : Quiet o) (does : recorded o s r s') : Saves updates s s' := by
  rcases recorded_effect does with rfl | rfl
  · exact .refl _
  · refine ⟨[o], rfl, fun key editable => ?_⟩
    have nothing : written updates [o] = [] := by simp [written, quiet.saved]
    rw [nothing, profile_field, stored, exec_frame (quiet key.1)]
    rfl

theorem saves_of_uses {α : Type} {p : Prog Fs α} (uses : p.Uses Quiet) : p.Relates recorded (Saves updates) :=
  .of_uses Saves.refl Saves.trans (fun _ _ _ _ quiet does => quiet.saves does) uses

/-- A profile that was read is the stored one. -/
theorem get_profile_read {id : String} {db db' : Db} {read : Except String (Table String String)}
    (ran : Runs sem (get_profile id) db read db') : db' = db ∧ ∀ profile, read = .ok profile → profile = stored id db := by
  obtain ⟨doc, s₁, got, rest⟩ := runs_call.mp ran
  obtain ⟨rfl, rfl⟩ := runs_ret.mp rest
  obtain ⟨rfl, current⟩ := sem_get_doc got
  refine ⟨rfl, fun profile answer => ?_⟩
  cases doc with
  | error e => cases answer
  | ok found =>
    rw [← Except.ok.inj answer, current found rfl]
    rfl

/-- Saving a profile writes the editable ones among its updates. -/
theorem save_profile_saves (id : String) (updates : Table String String) :
    (save_profile id updates.pairs).Relates recorded (Saves updates) := by
  intro s a s' ran
  obtain ⟨read, s₁, got, rest⟩ := runs_bind.mp ran
  have before : Saves updates s s₁ := saves_of_uses (get_profile_uses quiet_reads id) _ _ _ got
  obtain ⟨same, current⟩ := get_profile_read (runs_recorded.mpr ⟨s₁.done, got⟩)
  cases read with
  | error e =>
    obtain ⟨-, rfl⟩ := runs_ret.mp rest
    exact before
  | ok profile =>
    obtain ⟨wrote, s₂, put, ended⟩ := runs_call.mp rest
    obtain ⟨-, rfl⟩ := runs_ret.mp ended
    refine before.trans _ _ _ ?_
    rcases recorded_effect put with rfl | rfl
    · exact .refl _
    · refine ⟨[.set_doc .profiles id (merged id profile updates)], rfl, fun key editable => ?_⟩
      have last : Table.lastWrite (written updates [.set_doc .profiles id (merged id profile updates)]) key =
          if key.1 = id then updates.get key.2 else none := by
        simp [written, saved_profile, lastWrite_submitted updates id editable]
      rw [last]
      by_cases own : key.1 = id
      · obtain ⟨id', k⟩ := key
        obtain rfl : id' = id := own
        have held : profile = stored id' s₁.db := by rw [current profile rfl, same]
        rw [if_pos rfl, profile_field, profile_field, ← held]
        exact stored_write id' _ _ _ editable
      · have other : (exec (.set_doc .profiles id (merged id profile updates)) s₁.db).2.docs.get (.profiles, key.1) =
            s₁.db.docs.get (.profiles, key.1) := exec_frame (by simpa [FsOp.writes] using Ne.symm own) _
        rw [if_neg own, Option.none_or]
        exact (profile_field_of_same other).symm

end saves

/-! ### What requests do -/

section requests
variable {p : ProfileSite} {jwks : String → String → Option JwkPub} {updates : Table String String}

/-- Looks at access tokens and the clock, and claims proofs. -/
def Asks : HostOp → Prop
  | .backend (.store (.get_access_token _)) => True
  | .backend .now => True
  | .claim .. => True
  | _ => False

/-- Nothing but nonces is written. -/
def Calm (o : FsOp) : Prop := ∀ key, o.writes = some key → key.1 = .nonces

theorem calm_reads (o : FsOp) (reads : o.writes = none) : Calm o := by
  intro key writes
  rw [reads] at writes
  cases writes

theorem Calm.quiet {o : FsOp} (calm : Calm o) : Quiet o := by
  intro id writes
  cases calm _ writes

private theorem dpop_asks (p : Server) (proof htm htu : String) (expected_ath : Option String) :
    (Es256Dpop.verify p proof htm htu expected_ath).Uses Asks := by
  unfold Es256Dpop.verify
  split
  · trivial
  · split
    · trivial
    · refine ⟨trivial, fun now => ?_⟩
      dsimp only [Prog.bind]
      split
      · trivial
      · refine ⟨trivial, fun fresh => ?_⟩
        cases fresh <;> trivial

private theorem authenticate_asks (p : Server) (headers : Headers) (method path_suffix : String) (body_token : Option String) :
    (authenticate_token p headers method path_suffix body_token).Uses Asks := by
  unfold authenticate_token
  split
  · rename_i scheme token shown
    refine ⟨trivial, fun found => ?_⟩
    cases found with
    | none => trivial
    | some at_ =>
      dsimp only [Prog.bind]
      split
      · trivial
      · refine Prog.Uses.bind ?_ fun r => ?_
        · unfold check_proof
          split
          · trivial
          · split
            · trivial
            · refine (dpop_asks _ _ _ _ _).bind fun r => ?_
              cases r with
              | error e => trivial
              | ok got =>
                dsimp only
                split <;> trivial
        · cases r <;> trivial
  · trivial

private theorem asks_calm (o : HostOp) (asks : Asks o) : (production jwks o).Uses Calm := by
  unfold Asks at asks
  split at asks
  · exact get_unexpired_uses calm_reads _ _ _
  · exact ⟨nofun, fun _ => trivial⟩
  · rename_i jti key ttl
    refine ⟨nofun, fun t => ⟨fun k writes => by cases writes; rfl, fun r => ?_⟩⟩
    cases r <;> trivial
  · exact asks.elim

theorem authenticate_calm (p : Server) (headers : Headers) (method path_suffix : String) (body_token : Option String) :
    ((authenticate_token p headers method path_suffix body_token).lower (production jwks)).Uses Calm :=
  (authenticate_asks p headers method path_suffix body_token).lower asks_calm

private theorem authenticate_saves (p : Server) (headers : Headers) (method path_suffix : String) (body_token : Option String) :
    ((authenticate_token p headers method path_suffix body_token).lower (production jwks)).Relates recorded (Saves updates) :=
  saves_of_uses ((authenticate_calm p headers method path_suffix body_token).mono fun _ calm => calm.quiet)

private theorem returns {α : Type} (a : α) : (Prog.ret a : Prog Fs α).Relates recorded (Saves updates) :=
  .ret Saves.refl a

private theorem userinfo_saves (p : Server) (headers : Headers) (method : String) (body_token : Option String) :
    ((oidc.userinfo_respond p headers method body_token).lower (production jwks)).Relates recorded (Saves updates) := by
  unfold oidc.userinfo_respond
  rw [Prog.lower_bind]
  refine (authenticate_saves _ _ _ _ _).bind Saves.trans fun r => ?_
  cases r with
  | error r => exact returns _
  | ok at_ =>
    dsimp only
    rw [Prog.lower_bind, lower_firestore]
    exact (saves_of_uses (FirestoreStore.find_account_uses quiet_reads _)).bind Saves.trans fun account => returns _

private theorem profile_put_saves (headers : Headers) (body : String) :
    ((oidc.profile_put p headers body).lower (production jwks)).Relates recorded
      (Saves ((p.string_map_from_str body).toOption.getD ∅)) := by
  unfold oidc.profile_put
  rw [Prog.lower_bind]
  refine (authenticate_saves _ _ _ _ _).bind Saves.trans fun r => ?_
  cases r with
  | error r => exact returns _
  | ok at_ =>
    dsimp only
    split
    · exact returns _
    · rw [lower_firestore]
      unfold profile_put
      cases p.string_map_from_str body with
      | error e => exact returns _
      | ok updates =>
        refine (save_profile_saves _ updates).bind Saves.trans fun saved => ?_
        cases saved with
        | error e => exact returns _
        | ok u => exact (saves_of_uses (get_profile_uses quiet_reads _)).bind Saves.trans fun profile => returns _

private theorem register_as_saves (home email1 : String) (name : Option String)
    (response : Option (String × Except String webauthn.RegOutcome))
    (named : ∀ n, name = some n → updates = (∅ : Table String String).set "name" n) :
    (register_as home name email1 response).Relates recorded (Saves updates) := by
  unfold register_as
  split
  · rename_i challenge verified
    refine (saves_of_uses (consume_webauthn_challenge_uses quiet_reads fun id writes => by cases writes)).bind Saves.trans
      fun consumed => ?_
    rcases consumed with e | _ | t
    · exact returns _
    · exact returns _
    · dsimp only
      split
      · exact returns _
      · cases verified with
        | error e => exact returns _
        | ok outcome =>
          refine (saves_of_uses (save_credential_uses quiet_reads (fun f id writes => by cases writes) (fun f id writes => by cases writes) _)).bind Saves.trans fun saved => ?_
          cases saved with
          | error e => exact returns _
          | ok u =>
            refine Prog.Relates.bind ?_ Saves.trans fun _ => returns _
            cases name with
            | none => exact returns _
            | some n =>
              rw [named n rfl]
              exact (save_profile_saves t.account_id ((∅ : Table String String).set "name" n)).bind Saves.trans fun _ => returns _
  · exact returns _

private theorem register_saves (req : RegVerifyReq) :
    (register_passkey_verify p.toSite req).Relates recorded (Saves ((Request.register req).updates p)) := by
  unfold register_passkey_verify
  split
  · exact returns _
  · unfold register_with
    refine (saves_of_uses (refuse_invite_uses quiet_reads _)).bind Saves.trans fun refused => ?_
    cases refused with
    | some r => exact returns _
    | none =>
      cases normalized : normalize_name req.name with
      | error e => exact returns _
      | ok name =>
        refine (saves_of_uses (require_name_uses quiet_reads _ _)).bind Saves.trans fun required => ?_
        cases required with
        | some r => exact returns _
        | none =>
          refine (saves_of_uses (consume_email_challenge_uses quiet_reads fun id writes => by cases writes)).bind Saves.trans
            fun consumed => ?_
          rcases consumed with e | _ | email1
          · exact returns _
          · exact returns _
          · refine register_as_saves _ _ _ _ fun n is => ?_
            rw [is] at normalized
            simp only [Request.updates, normalized]

/-- A request writes to profiles what it submits, and nothing else. -/
theorem handle_saves (r : Request) : (r.handle p jwks).Relates recorded (Saves (r.updates p)) := by
  cases r with
  | profile_put headers body => exact profile_put_saves headers body
  | register req => exact register_saves req
  | userinfo_get headers => exact userinfo_saves _ _ _ _
  | userinfo_post headers body => exact userinfo_saves _ _ _ _

end requests

/-! ### What userinfo answers -/

/-- The address that the index has for an account. -/
def indexed (db : Db) (account_id : String) : Option String :=
  ((db.docs.get (.accountsByUuid, account_id)).bind Db.readable).bind fun f => field_str f "email"

/-- What is known of an account: a claim and its value. -/
inductive Known (db : Db) (account_id : String) : String → Json → Prop where
  | sub : Known db account_id "sub" (.str account_id)
  | email (e : String) (is : indexed db account_id = some e) : Known db account_id "email" (.str e)
  | email_verified (e : String) (is : indexed db account_id = some e) : Known db account_id "email_verified" (.bool true)
  | profile (k v : String) (editable : k ∈ EDITABLE) (is : profile_field db (account_id, k) = some v) :
    Known db account_id k (.str v)

theorem Known.of_same {db db' : Db} {sub k : String} {v : Json} (known : Known db sub k v) (index : indexed db sub = indexed db' sub)
    (profile : ∀ k, profile_field db (sub, k) = profile_field db' (sub, k)) : Known db' sub k v := by
  cases known with
  | sub => exact .sub
  | email e address => exact .email e (index ▸ address)
  | email_verified e address => exact .email_verified e (index ▸ address)
  | profile k t editable held => exact .profile k t editable (profile k ▸ held)

private theorem subject_known {db : Db} {sub k : String} {v : Json}
    (is : ((∅ : Table String Json).set "sub" (.str sub)).get k = some v) : Known db sub k v := by
  rw [Table.get_set, Table.get_empty] at is
  split at is
  · rename_i same
    subst same
    obtain rfl := Option.some.inj is
    exact .sub
  · cases is

private theorem address_known {db : Db} {sub e : String} (address : indexed db sub = some e) {base : Table String Json}
    (known : ∀ k v, base.get k = some v → Known db sub k v) (k : String) (v : Json)
    (is : ((base.set "email" (.str e)).set "email_verified" (.bool true)).get k = some v) : Known db sub k v := by
  rw [Table.get_set, Table.get_set] at is
  split at is
  · rename_i same
    subst same
    obtain rfl := Option.some.inj is
    exact .email_verified e address
  · split at is
    · rename_i same
      subst same
      obtain rfl := Option.some.inj is
      exact .email e address
    · exact known k v is

/-- A profile adds editable fields only. -/
private theorem profile_known {db : Db} {sub : String} {base : Table String Json} {saved : Table String String}
    (held : ∀ k v, saved.get k = some v → k ∈ EDITABLE ∧ profile_field db (sub, k) = some v)
    (known : ∀ k v, base.get k = some v → Known db sub k v) (k : String) (v : Json)
    (is : (saved.pairs.foldl (fun t e => t.set e.1 (.str e.2)) base).get k = some v) : Known db sub k v := by
  rw [Table.get_foldl_set] at is
  cases found : saved.get k with
  | some t =>
    rw [found] at is
    obtain rfl := Option.some.inj is
    obtain ⟨editable, stored⟩ := held k t found
    exact .profile k t editable stored
  | none =>
    rw [found] at is
    exact known k v is

/-- An address that was found is the indexed one. -/
theorem find_email_read {id : String} {db db' : Db} {read : Except String (Option String)}
    (ran : Runs sem (find_email_by_account_id id) db read db') :
    db' = db ∧ ∀ e, read = .ok (some e) → indexed db id = some e := by
  obtain ⟨doc, s₁, got, rest⟩ := runs_call.mp ran
  obtain ⟨rfl, rfl⟩ := runs_ret.mp rest
  obtain ⟨rfl, current⟩ := sem_get_doc got
  refine ⟨rfl, fun e answer => ?_⟩
  cases doc with
  | error e => cases answer
  | ok found => rw [indexed, ← current found rfl, ← Except.ok.inj answer]

/-- An account that was looked up has only known claims, and the subject. -/
theorem find_account_known {sub : String} {db db' : Db} {account : Account}
    (ran : Runs sem (FirestoreStore.find_account sub) db account db') :
    account.claims.get "sub" = some (.str sub) ∧ ∀ k v, account.claims.get k = some v → Known db sub k v := by
  obtain ⟨read, s₁, got, ran⟩ := runs_bind.mp ran
  obtain ⟨asked, s₂, looked, rest⟩ := runs_bind.mp ran
  obtain ⟨rfl, -⟩ := runs_ret.mp rest
  obtain ⟨rfl, current⟩ := get_profile_read got
  obtain ⟨-, address⟩ := find_email_read looked
  have held : ∀ k v, (read.toOption.getD ∅).get k = some v → k ∈ EDITABLE ∧ profile_field s₁ (sub, k) = some v := by
    intro k v is
    cases read with
    | error e => cases is
    | ok profile =>
      obtain rfl := current profile rfl
      refine ⟨?_, is⟩
      by_contra other
      rw [Except.toOption, Option.getD_some, stored, get_profile_of, if_neg other] at is
      cases is
  have unnamed : (read.toOption.getD ∅).get "sub" = none := by
    by_contra named
    obtain ⟨v, is⟩ := Option.ne_none_iff_exists'.mp named
    exact absurd (held _ _ is).1 (by decide)
  rcases asked with e | _ | e
  · refine ⟨?_, profile_known held fun k v is => subject_known is⟩
    rw [Table.get_foldl_set, unnamed]
    simp
  · refine ⟨?_, profile_known held fun k v is => subject_known is⟩
    rw [Table.get_foldl_set, unnamed]
    simp
  · refine ⟨?_, profile_known held (address_known (address e rfl) fun k v is => subject_known is)⟩
    rw [Table.get_foldl_set, unnamed]
    simp [Table.get_set]

/-! ### Who asks -/

/-- A token that was looked up is stored. -/
theorem get_access_token_found {token : String} {db db' : Db} {at_ : AccessToken}
    (ran : Runs sem (FirestoreStore.get_access_token token) db (some at_) db') :
    (Prog.run exec (FirestoreStore.get_access_token token) db).1 = some at_ := by
  have stored : (Prog.run exec (FirestoreStore.get_access_token token) db).1 =
      (unexpired db .accessTokens token).map (AccessToken.from_fields token) := by
    simp [FirestoreStore.get_access_token, run_get_unexpired]
  obtain ⟨found, s₁, got, rest⟩ := runs_bind.mp ran
  obtain ⟨is, -⟩ := runs_ret.mp rest
  rw [stored, is]
  obtain ⟨read, s₂, looked, got⟩ := runs_call.mp got
  obtain ⟨rfl, current⟩ := sem_get_doc looked
  rcases read with e | _ | f
  · obtain ⟨rfl, -⟩ := runs_ret.mp got
    cases is
  · obtain ⟨rfl, -⟩ := runs_ret.mp got
    cases is
  · obtain ⟨t, s₃, clock, got⟩ := runs_call.mp got
    obtain ⟨rfl, rfl⟩ := sem_now clock
    rw [unexpired, ← current _ rfl]
    change Runs sem (if expired_at f s₃.clock = true then Prog.ret none else Prog.ret (some f)) s₃ found s₁ at got
    split at got
    · obtain ⟨rfl, -⟩ := runs_ret.mp got
      cases is
    · rename_i young
      obtain ⟨rfl, -⟩ := runs_ret.mp got
      simp [young]

/-- Whoever gets in shows a token that is stored, and neither profiles nor the index
    of accounts change on the way. -/
theorem authenticated {p : Server} {jwks : String → String → Option JwkPub} {headers : Headers} {method path_suffix : String}
    {body_token : Option String} {db db' : Db} {at_ : AccessToken}
    (ran : Runs sem ((authenticate_token p headers method path_suffix body_token).lower (production jwks)) db (.ok at_) db') :
    (∃ scheme token, presented_token headers body_token = some (scheme, token) ∧
      (Prog.run exec (FirestoreStore.get_access_token token) db).1 = some at_) ∧
    ∀ col id, col ≠ .nonces → db'.docs.get (col, id) = db.docs.get (col, id) := by
  refine ⟨?_, fun col id other => ?_⟩
  · unfold authenticate_token at ran
    cases shown : presented_token headers body_token with
    | none =>
      rw [shown] at ran
      cases (runs_ret.mp ran).1
    | some presented =>
      obtain ⟨scheme, token⟩ := presented
      refine ⟨scheme, token, rfl, ?_⟩
      rw [shown] at ran
      dsimp only at ran
      rw [Prog.lower_bind] at ran
      obtain ⟨found, s₁, looked, ran⟩ := runs_bind.mp ran
      obtain ⟨found', s₂, got, same⟩ := runs_bind.mp looked
      obtain ⟨rfl, rfl⟩ := runs_ret.mp same
      cases found with
      | none => cases (runs_ret.mp ran).1
      | some at' =>
        dsimp only at ran
        have is : at' = at_ := by
          cases bound : at'.jkt with
          | none =>
            rw [bound] at ran
            exact (Except.ok.inj (runs_ret.mp ran).1).symm
          | some jkt =>
            rw [bound] at ran
            dsimp only at ran
            rw [Prog.lower_bind] at ran
            obtain ⟨checked, s₃, -, ran⟩ := runs_bind.mp ran
            cases checked with
            | error r => cases (runs_ret.mp ran).1
            | ok u => exact (Except.ok.inj (runs_ret.mp ran).1).symm
        rw [← is]
        exact get_access_token_found got
  · exact (authenticate_calm p headers method path_suffix body_token).runs
      (I := fun s => s.docs.get (col, id) = db.docs.get (col, id))
      (fun o s r s' calm same does => (sem_frame (fun writes => other (calm _ writes)) does).trans same) ran rfl

private theorem refusal {α : Type} {p : Prog Fs (Except Response α)} {db db' : Db} {r : Response} {message : String}
    (is : p = .ret (.error (.text 401 message))) (ran : Runs sem p db (.error r) db') : ∃ message, r = .text 401 message := by
  subst is
  exact ⟨message, Except.error.inj (runs_ret.mp ran).1⟩

private theorem check_proof_refuses {p : Server} {jwks : String → String → Option JwkPub} {headers : Headers}
    {method path_suffix scheme token jkt : String} {db db' : Db} {r : Response}
    (ran : Runs sem ((check_proof p headers method path_suffix scheme token jkt).lower (production jwks)) db (.error r) db') :
    ∃ message, r = .text 401 message := by
  unfold check_proof at ran
  split at ran
  · exact refusal rfl ran
  · split at ran
    · exact refusal rfl ran
    · rw [Prog.lower_bind] at ran
      obtain ⟨verified, s₁, -, ran⟩ := runs_bind.mp ran
      cases verified with
      | error e => exact refusal rfl ran
      | ok got =>
        dsimp only at ran
        split at ran
        · cases (runs_ret.mp ran).1
        · exact refusal rfl ran

/-- Whoever is turned away is told so. -/
theorem authenticate_refuses {p : Server} {jwks : String → String → Option JwkPub} {headers : Headers} {method path_suffix : String}
    {body_token : Option String} {db db' : Db} {r : Response}
    (ran : Runs sem ((authenticate_token p headers method path_suffix body_token).lower (production jwks)) db (.error r) db') :
    ∃ message, r = .text 401 message := by
  unfold authenticate_token at ran
  split at ran
  · rw [Prog.lower_bind] at ran
    obtain ⟨found, s₁, -, ran⟩ := runs_bind.mp ran
    cases found with
    | none => exact refusal rfl ran
    | some at_ =>
      dsimp only at ran
      split at ran
      · cases (runs_ret.mp ran).1
      · rw [Prog.lower_bind] at ran
        obtain ⟨checked, s₂, rejected, ran⟩ := runs_bind.mp ran
        cases checked with
        | error r' =>
          obtain ⟨is, -⟩ := runs_ret.mp ran
          rw [Except.error.inj is]
          exact check_proof_refuses rejected
        | ok u => cases (runs_ret.mp ran).1
  · exact refusal rfl ran

/-! ### Runs -/

/-- Firestore, and what was written to the fields of profiles so far, oldest first. -/
structure World where
  db : Db
  writes : List ((String × String) × String)

/-- Requests one after the other. Whatever else goes on leaves the profiles alone. -/
inductive Step (p : ProfileSite) (jwks : String → String → Option JwkPub) (w : World) : World → Prop where
  | request (r : Request) {answer : Response} {after : Journaled} (ran : Runs recorded (r.handle p jwks) ⟨w.db, []⟩ answer after) :
    Step p jwks w ⟨after.db, w.writes ++ written (r.updates p) after.done⟩
  | other {db : Db} (untouched : ∀ id, db.docs.get (.profiles, id) = w.db.docs.get (.profiles, id)) :
    Step p jwks w ⟨db, w.writes⟩

/-- What a field of a profile was last set to, after a run that began with these profiles. -/
def lastSet (db : Db) (w : World) (key : String × String) : Option String :=
  (Table.lastWrite w.writes key).or (profile_field db key)

/-- Profiles hold what they were last set to. -/
def Kept (db : Db) (w : World) : Prop := ∀ key : String × String, key.2 ∈ EDITABLE → profile_field w.db key = lastSet db w key

section runs
variable {p : ProfileSite} {jwks : String → String → Option JwkPub} {db : Db} {w w' : World}

theorem Kept.step (kept : Kept db w) (step : Step p jwks w w') : Kept db w' := by
  intro key editable
  cases step with
  | request r ran =>
    obtain ⟨ops, done, fields⟩ := handle_saves r _ _ _ ran
    rw [List.nil_append] at done
    rw [fields key editable, kept key editable, lastSet, lastSet, Table.lastWrite_append, done, Option.or_assoc]
  | other untouched =>
    rw [← profile_field_of_same (untouched key.1), kept key editable]
    rfl

theorem kept_of_run (run : Relation.ReflTransGen (Step p jwks) ⟨db, []⟩ w) : Kept db w := by
  induction run with
  | refl => exact fun key _ => rfl
  | tail _ step ih => exact ih.step step

/-- A field that nobody may edit is known otherwise. -/
private theorem Known.cases {sub k : String} {v : Json} (known : Known db sub k v) (fixed : k ∉ EDITABLE) :
    k = "sub" ∧ v = .str sub ∨ k = "email" ∧ (∃ e, indexed db sub = some e ∧ v = .str e) ∨
      k = "email_verified" ∧ (indexed db sub).isSome ∧ v = .bool true := by
  cases known with
  | sub => exact .inl ⟨rfl, rfl⟩
  | email e address => exact .inr (.inl ⟨rfl, e, address, rfl⟩)
  | email_verified e address => exact .inr (.inr ⟨rfl, by rw [address]; rfl, rfl⟩)
  | profile k t editable => exact absurd editable fixed

/-- An answer about the account of a token, where the fields of profiles were last set
    like this. Nothing else is in it. -/
structure Truthful (db : Db) (last : String × String → Option String) (at_ : AccessToken) (fields : List (String × Json)) : Prop where
  sub : ∀ v, ("sub", v) ∈ fields ↔ v = .str at_.account_id
  email : ∀ v, ("email", v) ∈ fields →
    "email" ∈ split_whitespace at_.scope ∧ ∃ e, indexed db at_.account_id = some e ∧ v = .str e
  email_verified : ∀ v, ("email_verified", v) ∈ fields →
    "email" ∈ split_whitespace at_.scope ∧ (indexed db at_.account_id).isSome ∧ v = .bool true
  others : ∀ k v, (k, v) ∈ fields → k ∉ ["sub", "email", "email_verified"] →
    k ∈ EDITABLE ∧ k ∈ claims.claim_names_for_scopes at_.scope ∧ ∃ t, last (at_.account_id, k) = some t ∧ v = .str t

/-- What is released of an account that has only known claims is truthful. -/
theorem truthful_of_known {last : String × String → Option String} {at_ : AccessToken} {account : Table String Json}
    (subject : account.get "sub" = some (.str at_.account_id)) (known : ∀ k v, account.get k = some v → Known db at_.account_id k v)
    (kept : ∀ key : String × String, key.2 ∈ EDITABLE → profile_field db key = last key) :
    Truthful db last at_ (released at_.scope account).pairs := by
  have shown : ∀ {k : String} {v : Json}, (k, v) ∈ (released at_.scope account).pairs →
      k ∈ claims.claim_names_for_scopes at_.scope ∧ Known db at_.account_id k v := by
    intro k v listed
    rw [← Table.get_eq_some_iff, get_released] at listed
    split at listed
    · rename_i named
      exact ⟨named, known k v listed⟩
    · cases listed
  constructor
  · intro v
    rw [← Table.get_eq_some_iff, get_released, if_pos (claims.mem_claim_names.mpr (.inl rfl)), subject]
    constructor
    · intro same
      exact (Option.some.inj same).symm
    · rintro rfl
      rfl
  · intro v listed
    obtain ⟨named, is⟩ := shown listed
    refine ⟨claims.email_released (by decide) named, ?_⟩
    rcases is.cases (by decide) with ⟨no, -⟩ | ⟨-, address⟩ | ⟨no, -⟩
    · exact absurd no (by decide)
    · exact address
    · exact absurd no (by decide)
  · intro v listed
    obtain ⟨named, is⟩ := shown listed
    refine ⟨claims.email_released (by decide) named, ?_⟩
    rcases is.cases (by decide) with ⟨no, -⟩ | ⟨no, -⟩ | ⟨-, address⟩
    · exact absurd no (by decide)
    · exact absurd no (by decide)
    · exact address
  · intro k v listed other
    obtain ⟨named, is⟩ := shown listed
    cases is with
    | sub => exact absurd (by decide) other
    | email e address => exact absurd (by decide) other
    | email_verified e address => exact absurd (by decide) other
    | profile _ t editable stored => exact ⟨editable, named, t, (kept _ editable).symm.trans stored, rfl⟩

/-- After any run, userinfo answers for the account of the token that is shown: its
    identifier, its indexed address, and the released fields as they were set last. -/
theorem userinfo_truthful {headers : Headers} {method : String} {body_token : Option String} {body : Json} {db' : Db}
    (run : Relation.ReflTransGen (Step p jwks) ⟨db, []⟩ w)
    (answered : Runs sem ((oidc.userinfo_respond p.toServer headers method body_token).lower (production jwks)) w.db
      (.json 200 body) db') :
    ∃ scheme token at_ fields, presented_token headers body_token = some (scheme, token) ∧
      (Prog.run exec (FirestoreStore.get_access_token token) w.db).1 = some at_ ∧ body = .obj fields ∧
      Truthful w.db (lastSet db w) at_ fields := by
  unfold oidc.userinfo_respond at answered
  rw [Prog.lower_bind] at answered
  obtain ⟨entered, s₁, admitted, ran⟩ := runs_bind.mp answered
  cases entered with
  | error r =>
    obtain ⟨is, -⟩ := runs_ret.mp ran
    obtain ⟨message, rfl⟩ := authenticate_refuses admitted
    cases is
  | ok at_ =>
    obtain ⟨⟨scheme, token, presented, stored⟩, untouched⟩ := authenticated admitted
    dsimp only at ran
    rw [Prog.lower_bind, lower_firestore] at ran
    obtain ⟨account, s₂, looked, ended⟩ := runs_bind.mp ran
    obtain ⟨is, -⟩ := runs_ret.mp ended
    obtain ⟨subject, known⟩ := find_account_known looked
    refine ⟨scheme, token, at_, _, presented, stored, (Response.json.inj is).2, ?_⟩
    have index : indexed s₁ at_.account_id = indexed w.db at_.account_id := by
      rw [indexed, indexed, untouched _ _ (by decide)]
    have profile : ∀ k, profile_field s₁ (at_.account_id, k) = profile_field w.db (at_.account_id, k) :=
      fun k => profile_field_of_same (untouched _ _ (by decide)).symm
    exact truthful_of_known subject (fun k v is => (known k v is).of_same index profile) (kept_of_run run)

end runs

/-! ### A forged address -/

section forged
open Reference

/-- The site for users who submit a name and an address. -/
def editing : ProfileSite :=
  { site with string_map_from_str := fun _ => .ok (((∅ : Table String String).set "name" "Alice").set "email" "root@op") }

def bearer : Headers := [("authorization", "Bearer t")]

def visitor : AccessToken := ⟨"t", "rp", "u1", "email profile", none, none, none, none, none, false⟩

/-- The token of a user with an address. -/
def visited : Db :=
  (({ clock := 0 } : Db).write (.accessTokens, "t") (AccessToken.to_fields visitor 300)).write (.accountsByUuid, "u1")
    (.ofEntries [("email", some (.string "alice@op"))])

def unpublished (_ _ : String) : Option JwkPub := none

/-- The documents after the profile was saved. -/
def edited : Journaled := (Prog.run recording ((Request.profile_put bearer "").handle editing unpublished) ⟨visited, []⟩).2


/-- The body of an answer that succeeded. -/
def succeeded : Response → Option Json
  | .json 200 body => some body
  | _ => none

/-- What the user is shown then. -/
def answered : Response × Db := Prog.run exec ((oidc.userinfo_get editing.toServer bearer).lower (production unpublished)) edited.db

/-- Firestore and the writes of that request. -/
def after : World := ⟨edited.db, written ((Request.profile_put bearer "").updates editing) edited.done⟩

theorem userinfo_truthful_forged : ∃ body, answered.1 = .json 200 body ∧ ∃ scheme token at_ fields,
    presented_token bearer none = some (scheme, token) ∧
    (Prog.run exec (FirestoreStore.get_access_token token) after.db).1 = some at_ ∧ body = .obj fields ∧
    Truthful after.db (lastSet visited after) at_ fields := by
  have run : Relation.ReflTransGen (Step editing unpublished) ⟨visited, []⟩ after :=
    .single (.request (.profile_put bearer "") (runs_of_record _ _))
  obtain ⟨body, shown⟩ := Option.isSome_iff_exists.mp (by decide +kernel : (succeeded answered.1).isSome = true)
  have is : answered.1 = .json 200 body := by
    unfold succeeded at shown
    split at shown
    · rename_i body' same
      rw [same, Option.some.inj shown]
    · cases shown
  have ran : Runs (Sem.ofHandler exec) ((oidc.userinfo_respond editing.toServer bearer "GET" none).lower (production unpublished))
      after.db (.json 200 body) answered.2 := runs_ofHandler.mpr (Prod.ext is rfl)
  exact ⟨body, is, userinfo_truthful run (ran.mono fun o s r s' does => .inl does)⟩

end forged
end RustOp.Web.TruthfulClaims
