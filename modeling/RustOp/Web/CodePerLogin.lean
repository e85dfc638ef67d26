import RustOp.Web.GrantedCodes

/-!
A login is good for one code. The request that waits is written by each login and
deleted by whoever resumes it, so that the deletions never outnumber the logins,
however logins, resumptions and failures interleave.
-/
namespace RustOp.Web.CodeFlow
open RustOp.Effects RustOp.Text RustOp.Firestore registration

/-! ### Each request parks at most one interaction -/

/-- Requests to Firestore that store a request which waits. -/
def Parks : FsOp → Prop
  | .set_doc .interactions .. => True
  | _ => False

/-- The operations of a handler that do. -/
def HostParks : HostOp → Prop
  | .backend (.store (.save_interaction _)) => True
  | .firestore o => Parks o
  | _ => False

/-- Two operations of the stores write requests that wait. -/
theorem footprint_interactions {o : BackendOp} {f : FsOp} {uid : String} (printed : Footprint o f)
    (writes : f.writes = some (.interactions, uid)) :
    (∃ i, o = .store (.save_interaction i) ∧ i.uid = uid) ∨ o = .store (.consume_interaction uid) := by
  have elsewhere : ∀ {col : Col} {id : String}, f.writes = some (col, id) → col = .interactions ∧ id = uid := by
    intro col id same
    cases writes.symm.trans same
    exact ⟨rfl, rfl⟩
  have deletes : ∀ {col : Col} {id : String}, f = .delete_doc col id → col = .interactions := fun same =>
    (elsewhere (congrArg FsOp.writes same)).1
  cases o with
  | now => exact printed.elim
  | ciba o =>
    cases o with
    | create | transition_if_pending | consume_if_approved | record_history => cases (elsewhere printed).1
    | delete => cases deletes printed
    | sweep_expired =>
      rcases printed with ⟨_, same⟩ | ⟨_, same⟩
      · cases deletes same
      · cases (elsewhere same).1
    | _ => exact printed.elim
  | store o =>
    cases o with
    | save_interaction i => exact .inl ⟨i, rfl, (elsewhere printed).2⟩
    | consume_interaction id => exact .inr ((elsewhere printed).2 ▸ rfl)
    | save_session | delete_session | save_code | link_issued_tokens | save_access_token | consume_mandate_if_unused
    | save_refresh_token | mark_refresh_used => cases (elsewhere printed).1
    | revoke_access_token | revoke_refresh_token => cases deletes printed
    | revoke_refresh_family =>
      obtain ⟨_, same⟩ := printed
      cases deletes same
    | take_code =>
      rcases printed with same | ⟨_, same⟩ | ⟨_, same⟩
      · cases (elsewhere same).1
      · cases deletes same
      · cases deletes same
    | _ => exact printed.elim

theorem Parks.writes {o : FsOp} (parks : Parks o) : ∃ uid, o.writes = some (.interactions, uid) := by
  unfold Parks at parks
  split at parks
  · exact ⟨_, rfl⟩
  · exact parks.elim

theorem reads_do_not_park (o : FsOp) (reads : o.writes = none) : ¬Parks o := by
  intro parks
  obtain ⟨uid, writes⟩ := parks.writes
  cases reads.symm.trans writes

/-- Only the operation that is meant to parks a request. -/
theorem production_parks (jwks : String → String → Option JwkPub) (o : HostOp) (other : ¬HostParks o) :
    (production jwks o).Uses fun o => ¬Parks o := by
  cases o with
  | firestore o => exact ⟨other, fun _ => trivial⟩
  | resolve_jwk uri kid => trivial
  | claim jti key ttl =>
    refine ⟨id, fun t => ⟨id, fun won => ?_⟩⟩
    rcases won with e | _ | _ <;> trivial
  | backend o =>
    by_cases consumes : ∃ uid, o = .store (.consume_interaction uid)
    · obtain ⟨uid, rfl⟩ := consumes
      refine ⟨id, fun answer => ?_⟩
      rcases answer with e | _ | ⟨f, ut⟩
      · trivial
      · trivial
      · refine ⟨id, fun won => ?_⟩
        rcases won with e | _ | _ <;> trivial
    · refine (production_uses o).mono fun f within parks => ?_
      obtain ⟨uid, writes⟩ := parks.writes
      rcases within with none | printed
      · cases none.symm.trans writes
      · rcases footprint_interactions printed writes with ⟨i, rfl, -⟩ | rfl
        · exact other trivial
        · exact consumes ⟨uid, rfl⟩

/-- The operation that is meant to does it once. -/
theorem production_once (jwks : String → String → Option JwkPub) (o : HostOp) (parks : HostParks o) :
    (production jwks o).Once Parks := by
  unfold HostParks at parks
  split at parks
  · exact ⟨fun no => no.elim, fun t => ⟨fun _ _ => trivial, fun _ => trivial⟩⟩
  · exact ⟨fun _ _ => trivial, fun _ => trivial⟩
  · exact parks.elim

section once
variable {p : Site} {α : Type}

/-- Kinds of operations that neither save a request that waits nor set its document. -/
private theorem never_parks {free : HostOp → Prop} (saves : ∀ i, ¬free (.backend (.store (.save_interaction i))))
    (sets : ∀ uid f, ¬free (.firestore (.set_doc .interactions uid f))) (o : HostOp) (allowed : free o) : ¬HostParks o := by
  intro parks
  unfold HostParks at parks
  split at parks
  · exact saves _ allowed
  · unfold Parks at parks
    split at parks
    · exact sets _ _ allowed
    · exact parks
  · exact parks

private theorem plain_does_not_park : ∀ o : HostOp, Plain o → ¬HostParks o := never_parks (fun _ => id) fun _ _ => id

private theorem of_plain {R : Past Host → α → Prop} {q : Prog Host α} (justified : q.Justified (fun _ => Plain) R []) : q.Uses fun o => ¬HostParks o :=
  justified.uses fun _ => plain_does_not_park

private theorem issue_code_parks (uuid : Draw → String) (req : AddressedRequest) (account_id : String) (auth_time : Option Nat) :
    (issue_code p.toServer uuid req account_id auth_time).Uses fun o => ¬HostParks o := by
  unfold issue_code
  split
  · trivial
  · refine Prog.Uses.bind ?_ fun time => ⟨id, fun t => ⟨id, fun _ => ?_⟩⟩
    · cases auth_time with
      | some t => trivial
      | none => exact ⟨id, fun _ => trivial⟩
    · exact (delete_pushed_uses (fun _ => id) req).bind fun _ => trivial

theorem authorize_once (uuid : Draw → String) (sid raw : Option String) :
    (Web.authorize p.toServer uuid sid raw).Once HostParks := by
  unfold Web.authorize
  refine .bind_second (of_plain (authorize_query_justified (fun _ _ => id) _)) fun r => ?_
  cases r with
  | error answer => trivial
  | ok q =>
    dsimp only
    split
    · trivial
    · refine .bind_second (of_plain (addressee_justified (fun _ _ _ => trivial) _ _ _)) fun r => ?_
      cases r with
      | error answer => trivial
      | ok req =>
        dsimp only
        split
        · trivial
        · split
          · trivial
          · split
            · trivial
            · unfold authorize_session
              refine .bind_second ?_ fun session => .bind_second ⟨id, fun _ => trivial⟩ fun t => ?_
              · cases sid with
                | none => trivial
                | some id => exact ⟨fun no => no, fun _ => trivial⟩
              · split
                · exact .of_uses (issue_code_parks uuid req _ _)
                · trivial
                · exact ⟨fun _ _ => trivial, fun _ => trivial⟩

private theorem find_account_parks (sub : String) : (FirestoreStore.find_account sub).Uses fun o => ¬Parks o := by
  unfold FirestoreStore.find_account
  refine (get_profile_uses reads_do_not_park sub).bind fun _ => ?_
  refine (find_email_by_account_id_uses reads_do_not_park sub).bind fun r => ?_
  rcases r with e | _ | e <;> trivial

private theorem login_as_once (uuid : Draw → String) (uid challenge email : String) (shown : AuthVerifyReq) :
    (login_as p uuid uid challenge email shown).Once HostParks := by
  unfold login_as
  refine .bind_second (firestore_uses (get_credential_uses reads_do_not_park email)) fun r => ?_
  rcases r with e | _ | cred
  · trivial
  · trivial
  · dsimp only
    split
    · trivial
    · split
      · trivial
      · rename_i n verified
        have update : (update_sign_count email n).Uses fun o => ¬Parks o := ⟨id, fun _ => trivial⟩
        refine .bind_second (firestore_uses update) fun _ => ?_
        split
        · trivial
        · split
          · trivial
          · refine .bind_second ⟨id, fun _ => trivial⟩ fun i => ?_
            cases i with
            | none => trivial
            | some i =>
              refine .bind_second (firestore_uses (find_account_parks _)) fun account => .bind_first ?_ fun _ => trivial
              exact ⟨fun no => no.elim, fun t => ⟨fun _ _ => ⟨id, fun _ => trivial⟩, fun _ => .of_uses ⟨id, fun _ => trivial⟩⟩⟩

theorem login_once (uuid : Draw → String) (uid : String) (shown : AuthVerifyReq) :
    (login_passkey_verify p uuid uid shown).Once HostParks := by
  unfold login_passkey_verify
  split
  · trivial
  · split
    · rename_i challenge named
      refine .bind_second (firestore_uses (consume_webauthn_challenge_uses reads_do_not_park id)) fun r => ?_
      rcases r with e | _ | t
      · trivial
      · trivial
      · dsimp only
        split
        · trivial
        · refine .bind_second (firestore_uses ?_) fun email => ?_
          · unfold login_email
            split
            · refine (find_email_by_account_id_uses reads_do_not_park _).bind fun r => ?_
              rcases r with e | _ | e <;> trivial
            · trivial
          · cases email with
            | none => trivial
            | some email =>
              dsimp only
              split
              · trivial
              · exact login_as_once uuid uid challenge email shown
    · trivial

/-- Every request parks at most one request that waits. -/
theorem run_once (uuid : Draw → String) (req : Request) : (req.run p uuid).Once HostParks := by
  have saves : ∀ {codes : Past Host → AuthorizationCode → Prop} {consumes : Past Host → String → Prop} (past : Past Host)
      (o : HostOp), Saves codes (fun _ _ => False) consumes past o → ¬HostParks o := by
    rintro codes consumes past o (plain | ⟨c, rfl, -⟩ | ⟨i, -, no⟩ | ⟨uid, rfl, -⟩)
    · exact plain_does_not_park o plain
    · exact id
    · exact no.elim
    · exact id
  have justified := req.run_justified p uuid
  cases req with
  | authorize sid raw => exact .bind_first (authorize_once uuid sid raw) fun _ => trivial
  | login uid shown => exact login_once uuid uid shown
  | resume q => exact .of_uses (justified.uses saves)
  | cancel uid => exact .of_uses (of_plain justified)
  | token headers form => exact .of_uses (justified.uses fun _ => never_parks (fun _ => id) fun _ _ => id)
  | par headers body =>
    refine .of_uses (justified.uses ?_)
    rintro past o (free | ⟨client, text, params, t, rfl, -⟩)
    · exact never_parks (fun _ => id) (fun _ _ => id) o free
    · exact id

end once

/-! ### Who stores and who deletes a request that waits -/

section origins
variable {p : Site} {ent : Entropy} {jwks : ℕ → String → String → Option JwkPub} {requests : ℕ → Request}

variable (p ent jwks requests) in
/-- A request that waits is stored by the authorization endpoint, as its own, or by
    a login that completes it. -/
inductive Parked (i : ℕ) (now : Past Fs) (w : Interaction) : Prop where
  | asked (sid raw : Option String) (request : requests i = .authorize sid raw) (own : w.uid = ent.uuid i .interaction_uid)
      (blank : w.account_id = none)
  | signed_in (uid : String) (shown : AuthVerifyReq) (above : Past Host) (below : Past Fs) (was : Interaction)
      (account_id : String) (auth_time : Nat) (request : requests i = .login uid shown)
      (implements : Prog.Implements (production (jwks i)) above below) (old : below <:+ now)
      (login : Login p uid shown above was account_id auth_time)
      (now_ : w = { was with account_id := some account_id, auth_time := some auth_time })

theorem parked_of_allowed {i : ℕ} {now : Past Fs} {asked : FsOp} (allowed : Allowed p ent jwks requests i now asked)
    {uid : String} (writes : asked.writes = some (.interactions, uid)) {found : Option Fields} {f : Fields}
    (makes : asked.makes found = some f) : ∃ w t, w.uid = uid ∧ asked = .set_doc .interactions uid f ∧
      f = Interaction.to_fields w t ∧ Parked p ent jwks requests i now w := by
  obtain ⟨above, o, below, implements, lawful, asks⟩ := allowed
  change (requests i).Lawful p (ent.uuid i) above o at lawful
  have flow : FlowCol (Col.interactions, uid).1 := trivial
  have puts : Put o below now asked := host_puts asks flow writes makes
  have saved : ∀ w : Interaction, o = .backend (.store (.save_interaction w)) → Parked p ent jwks requests i now w →
      ∃ w t, w.uid = uid ∧ asked = .set_doc .interactions uid f ∧ f = Interaction.to_fields w t ∧
        Parked p ent jwks requests i now w := by
    rintro w rfl parked
    rcases puts with ⟨_, same, puts⟩ | ⟨wrong, -⟩
    · cases same
      cases puts
      cases writes
      cases makes
      exact ⟨w, _, rfl, rfl, rfl, parked⟩
    · cases wrong
  have other : ∀ b, o = .backend b → (∀ w, b ≠ .store (.save_interaction w)) → False := by
    rintro b rfl differs
    rcases puts with ⟨_, same, puts⟩ | ⟨wrong, -⟩
    · cases same
      cases puts <;> first | exact differs _ rfl | cases writes
    · cases wrong
  cases request : requests i with
  | authorize sid raw =>
    rw [request] at lawful
    rcases lawful with plain | ⟨c, same, -⟩ | ⟨w, same, own, q, req, waits⟩ | ⟨_, -, no⟩
    · exact (plain_puts plain puts flow writes makes).elim
    · exact (other _ same fun _ => by simp).elim
    · refine saved w same (.asked sid raw request own ?_)
      rw [waits.interaction]
    · exact no.elim
  | resume q =>
    rw [request] at lawful
    rcases lawful with plain | ⟨c, same, -⟩ | ⟨_, -, no⟩ | ⟨_, same, -⟩
    · exact (plain_puts plain puts flow writes makes).elim
    · exact (other _ same fun _ => by simp).elim
    · exact no.elim
    · exact (other _ same fun _ => by simp).elim
  | cancel uid =>
    rw [request] at lawful
    exact (plain_puts lawful puts flow writes makes).elim
  | login id verified =>
    rw [request] at lawful
    rcases lawful with free | ⟨w, account_id, auth_time, same, login⟩ | ⟨w, s, same, -⟩
    · exact (login_free_puts free puts flow writes makes).elim
    · exact saved _ same (.signed_in id verified above below w account_id auth_time request implements asks.suffix login rfl)
    · exact (other _ same fun _ => by simp).elim
  | par headers body =>
    rw [request] at lawful
    rcases lawful with free | ⟨client, text, params, t, rfl, -⟩
    · exact (par_free_puts free puts flow writes makes).elim
    · rcases puts with ⟨_, wrong, -⟩ | ⟨same, -⟩
      · cases wrong
      · cases same
        cases writes
  | token headers form =>
    rw [request] at lawful
    rcases puts with ⟨b, rfl, puts⟩ | ⟨rfl, -⟩
    · cases puts <;> first | exact lawful.elim | cases writes
    · cases asked <;> first | exact lawful.elim | cases makes

/-- Only whoever resumes it deletes a request that waits, and has read it completed. -/
theorem consumes_of_allowed {i : ℕ} {now : Past Fs} {uid : String} {ut : Nat}
    (allowed : Allowed p ent jwks requests i now (.delete_doc_if_unchanged .interactions uid ut)) :
    ∃ q above below, requests i = .resume q ∧ Prog.Implements (production (jwks i)) above below ∧ below <:+ now ∧
      Completed uid above := by
  obtain ⟨above, o, below, implements, lawful, asks⟩ := allowed
  change (requests i).Lawful p (ent.uuid i) above o at lawful
  have from_ : o = .backend (.store (.consume_interaction uid)) ∨ o = .firestore (.delete_doc_if_unchanged .interactions uid ut) := by
    cases o with
    | resolve_jwk uri kid => exact asks.elim
    | firestore o =>
      rcases asks with ⟨rfl, -⟩ | ⟨_, rest⟩
      · exact .inr rfl
      · exact rest.elim
    | claim jti key ttl =>
      rcases asks with ⟨wrong, -⟩ | ⟨t, ⟨wrong, -⟩ | ⟨won, rest⟩⟩
      · cases wrong
      · cases wrong
      · rcases won with e | _ | _ <;> exact rest.elim
    | backend b =>
      have printed : Footprint b _ := ((production_uses b).asks asks).resolve_left fun none => by cases none
      rcases footprint_interactions printed rfl with ⟨w, rfl, -⟩ | rfl
      · rcases asks with ⟨wrong, -⟩ | ⟨t, ⟨wrong, -⟩ | ⟨_, rest⟩⟩
        · cases wrong
        · cases wrong
        · exact rest.elim
      · exact .inl rfl
  have quiet : ∀ free : HostOp → Prop, ¬free (.backend (.store (.consume_interaction uid))) →
      ¬free (.firestore (.delete_doc_if_unchanged .interactions uid ut)) → ¬free o := by
    rintro free store direct allowed
    rcases from_ with rfl | rfl
    · exact store allowed
    · exact direct allowed
  have login_free : ¬LoginFree o := quiet LoginFree id (by simp [LoginFree, FsOp.writes])
  cases request : requests i with
  | authorize sid raw =>
    rw [request] at lawful
    rcases lawful with plain | ⟨c, rfl, -⟩ | ⟨w, rfl, -⟩ | ⟨_, -, no⟩
    · exact (quiet Plain id id plain).elim
    · simp at from_
    · simp at from_
    · exact no.elim
  | resume q =>
    rw [request] at lawful
    rcases lawful with plain | ⟨c, rfl, -⟩ | ⟨_, -, no⟩ | ⟨u, rfl, own, completed⟩
    · exact (quiet Plain id id plain).elim
    · simp at from_
    · exact no.elim
    · obtain rfl : u = uid := by simpa using from_
      exact ⟨q, above, below, rfl, implements, asks.suffix, own ▸ completed⟩
  | cancel _ =>
    rw [request] at lawful
    exact (quiet Plain id id lawful).elim
  | login id verified =>
    rw [request] at lawful
    rcases lawful with free | ⟨w, account_id, auth_time, rfl, -⟩ | ⟨w, s, rfl, -⟩
    · exact (login_free free).elim
    · simp at from_
    · simp at from_
  | par headers body =>
    rw [request] at lawful
    rcases lawful with free | ⟨client, text, params, t, rfl, -⟩
    · exact (quiet ParFree id id free).elim
    · simp at from_
  | token headers form =>
    rw [request] at lawful
    exact (quiet TokenFree id id lawful).elim

/-! ### Logins and deletions -/

variable (requests) in
/-- A login stores the request with an account. -/
def completes (uid : String) (e : Occurrence Fs ℕ) : Bool :=
  (match requests e.thread with
    | .login _ _ => true
    | _ => false) &&
  match e.op with
  | .set_doc .interactions id _ => id == uid
  | _ => false

/-- Whoever resumes it has deleted the request. -/
def consumes (uid : String) : Occurrence Fs ℕ → Bool
  | ⟨_, .delete_doc_if_unchanged .interactions id _, .ok true⟩ => id == uid
  | _ => false

theorem completes_eq_true {uid : String} {e : Occurrence Fs ℕ} : completes requests uid e = true ↔
    (∃ id shown, requests e.thread = .login id shown) ∧ ∃ f, e.op = .set_doc .interactions uid f := by
  simp only [completes, Bool.and_eq_true]
  refine and_congr ?_ ?_
  · cases requests e.thread <;> simp
  · split <;> simp_all

theorem consumes_eq_true {uid : String} {e : Occurrence Fs ℕ} :
    consumes uid e = true ↔ ∃ i ut, e = ⟨i, .delete_doc_if_unchanged .interactions uid ut, .ok true⟩ := by
  unfold consumes
  split
  · simp
  · rename_i other
    refine ⟨fun no => (by cases no), ?_⟩
    rintro ⟨i, ut, rfl⟩
    exact absurd rfl (other i uid ut)

variable (ent requests) in
/-- What a stored request says about the run: the authorization endpoint has stored
    it, and an account in it was put there by a login. -/
structure Begun (trace : List (Occurrence Fs ℕ)) (uid : String) (f : Fields) : Prop where
  asked : ∃ j sid raw, requests j = .authorize sid raw ∧ uid = ent.uuid j .interaction_uid ∧
    ∃ e ∈ Pool.past trace j, Parks e.1
  completed : (Interaction.from_fields uid f).account_id.isSome → 0 < trace.countP (completes requests uid)

theorem Begun.later {trace : List (Occurrence Fs ℕ)} {uid : String} {f : Fields} (begun : Begun ent requests trace uid f)
    (e : Occurrence Fs ℕ) : Begun ent requests (e :: trace) uid f := by
  obtain ⟨⟨j, sid, raw, request, own, x, listed, parks⟩, completed⟩ := begun
  refine ⟨⟨j, sid, raw, request, own, x, Pool.past_subset e trace j listed, parks⟩, fun account => ?_⟩
  rw [List.countP_cons]
  have := completed account
  omega

theorem lineage_begun : Lineage FlowCol (Allowed p ent jwks requests)
    fun trace key f => key.1 = .interactions → Begun ent requests trace key.2 f := by
  refine ⟨fun e begun here => (begun here).later e, ?_⟩
  rintro trace i asked ⟨col, uid⟩ found f r allowed shown flow writes - makes (rfl : col = .interactions)
  obtain ⟨w, t, rfl, rfl, rfl, parked⟩ := parked_of_allowed allowed writes makes
  cases parked with
  | asked sid raw request own blank =>
    refine ⟨⟨i, sid, raw, request, own, ⟨_, r⟩, Pool.mem_past.mpr List.mem_cons_self, trivial⟩, fun account => ?_⟩
    rw [RoundTrip.interaction_from_to_fields, blank] at account
    cases account
  | signed_in uid verified above below was account_id auth_time request implements old login now_ =>
    subst now_
    obtain ⟨g, read, same, -⟩ := got_interaction (implements.ran login.interaction)
    obtain rfl : was.uid = uid := by rw [← same]; rfl
    have begun := shown _ (old.subset read) (.interactions, was.uid) g trivial (.get_doc ..) rfl
    refine ⟨(begun.later _).asked, fun _ => ?_⟩
    refine List.countP_pos_iff.mpr ⟨_, List.mem_cons_self, completes_eq_true.mpr ⟨⟨_, _, request⟩, _, rfl⟩⟩

/-- Whether the request is stored. -/
def standing (db : Db) (uid : String) : ℕ := if (db.docs.get (.interactions, uid)).isSome then 1 else 0

theorem standing_le_one (db : Db) (uid : String) : standing db uid ≤ 1 := by
  unfold standing
  split <;> omega

variable (requests) in
/-- Deletions do not outnumber logins, and leave one for a request that is stored. -/
def Balanced (uid : String) (c : Pool Fs Db ℕ (Option String × Response)) : Prop :=
  c.trace.countP (consumes uid) = 0 ∨
    c.trace.countP (consumes uid) + standing c.state uid ≤ c.trace.countP (completes requests uid)

section runs
variable {db : Db} {c : Pool Fs Db ℕ (Option String × Response)} (empty : ∀ key, FlowCol key.1 → db.docs.get key = none)
  (run : Run (pool p ent jwks requests db) c)
include run

include empty in
theorem run_begun : Ordered FlowCol (fun trace key f => key.1 = .interactions → Begun ent requests trace key.2 f) c :=
  Service.run_ordered run lineage_begun empty

/-- No thread parks twice. -/
theorem run_parks_once {K : Occurrence Fs ℕ → Bool} (kind : ∀ e, K e = true → Parks e.op) :
    (∀ i, Pool.OnceBy Parks c i) ∧ ((c.trace.filter K).map (·.thread)).Nodup :=
  Service.run_once run (fun i => (run_once (ent.uuid i) (requests i)).lower (production_once (jwks i)) (production_parks (jwks i))) kind

include empty

/-- What a request reads of a request that waits. -/
private theorem read_begun {i : ℕ} {uid : String} {g : Fields}
    (read : ⟨.get_doc .interactions uid, .ok (some g)⟩ ∈ Pool.past c.trace i) : Begun ent requests c.trace uid g := by
  have lineage : Lineage FlowCol (Allowed p ent jwks requests) _ := lineage_begun
  exact (run_begun empty run).past lineage _ read (.interactions, uid) g trivial (.get_doc ..) rfl

/-- Before a login completes a request, the authorization endpoint has stored it. -/
theorem completed_after_asked {uid : String} (completed : 0 < c.trace.countP (completes requests uid)) :
    ∃ j, uid = ent.uuid j .interaction_uid ∧ ∃ e ∈ Pool.past c.trace j, Parks e.1 := by
  obtain ⟨e, listed, completing⟩ := List.countP_pos_iff.mp completed
  obtain ⟨⟨id, shown, login⟩, f, same⟩ := completes_eq_true.mp completing
  obtain ⟨before, old, allowed⟩ := Service.run_occurred run e listed
  have writes : e.op.writes = some (.interactions, uid) := by rw [same]; rfl
  have makes : e.op.makes none = some f := by rw [same]; rfl
  obtain ⟨w, t, rfl, -, -, parked⟩ := parked_of_allowed allowed writes makes
  cases parked with
  | asked sid raw request own blank =>
    rw [login] at request
    cases request
  | signed_in uid verified above below was account_id auth_time request implements earlier signed now_ =>
    subst now_
    obtain ⟨g, read, rfl, -⟩ := got_interaction (implements.ran signed.interaction)
    have past := old.subset (List.mem_cons_of_mem _ (earlier.subset read))
    obtain ⟨j, _, _, -, own, parks⟩ := (read_begun empty run past).asked
    exact ⟨j, own, parks⟩

theorem run_balanced (uid : String) : Balanced requests uid c := by
  induction run with
  | refl => exact .inl rfl
  | @tail b c prior step ih =>
    obtain ⟨-, did⟩ := (Service.run_honest prior).step step
    cases did with
    | env changes trace threads =>
      have fewer : standing c.state uid ≤ standing b.state uid := by
        unfold standing
        rcases changes.docs (.interactions, uid) trivial with same | gone
        · rw [same]
        · simp [gone]
      unfold Balanced at ih ⊢
      rw [trace]
      omega
    | act e k next allowed does trace threads =>
      unfold Balanced at ih ⊢
      rw [trace, List.countP_cons, List.countP_cons]
      by_cases deletes : consumes uid e = true
      · obtain ⟨i, ut, rfl⟩ := consumes_eq_true.mp deletes
        have logins : 0 < b.trace.countP (completes requests uid) := by
          obtain ⟨q, above, below, request, implements, old, w, got, account⟩ := consumes_of_allowed allowed
          obtain ⟨g, read, rfl, -⟩ := got_interaction (implements.ran got)
          exact (read_begun empty prior (old.subset read)).completed account
        rcases sem_delete_if_unchanged does with ⟨-, refused⟩ | ⟨current, after, -⟩
        · exact absurd rfl refused
        · have stood : standing b.state uid = 1 := by
            obtain ⟨doc, stored, -⟩ := Option.any_eq_true .. |>.mp current
            simp [standing, stored]
          have gone : standing c.state uid = 0 := by simp [standing, after, get_erase]
          rw [if_pos deletes, gone]
          omega
      · rw [if_neg deletes]
        by_cases grows : standing c.state uid ≤ standing b.state uid
        · omega
        · -- the step has stored the request
          have absent : (b.state.docs.get (.interactions, uid)).isSome = false := by
            have := standing_le_one c.state uid
            by_contra present
            simp only [Bool.not_eq_false] at present
            have stood : standing b.state uid = 1 := by simp [standing, present]
            omega
          have present : (c.state.docs.get (.interactions, uid)).isSome = true := by
            by_contra none
            have none : standing c.state uid = 0 := by simp [standing, none]
            omega
          obtain ⟨doc, stored⟩ := Option.isSome_iff_exists.mp present
          have put : e.op.writes = some (.interactions, uid) ∧
              e.op.makes ((b.state.docs.get (.interactions, uid)).map Doc.fields) = some doc.fields := by
            rcases sem_effect does with same | effect
            · rw [same, absent] at present
              cases present
            · rw [effect] at stored
              rcases exec_makes stored with old | made
              · rw [old] at absent
                cases absent
              · exact made
          obtain ⟨w, t, rfl, op, -, parked⟩ := parked_of_allowed allowed put.1 put.2
          cases parked with
          | asked sid raw request own blank =>
            refine .inl ?_
            by_contra some_
            have completed : 0 < b.trace.countP (completes requests w.uid) := by omega
            obtain ⟨j, own', x, listed, parks⟩ := completed_after_asked empty prior completed
            obtain ⟨rfl, -⟩ := ent.distinct (own.symm.trans own')
            have parking : Parks e.op := by rw [op]; trivial
            have none_ : ∀ x : Occurrence Fs ℕ, false = true → Parks x.op := fun _ no => by cases no
            exact ((run_parks_once prior none_).1 e.thread).first next parking listed parks
          | signed_in id verified above below was account_id auth_time request implements earlier signed now_ =>
            have completing : completes requests w.uid e = true := completes_eq_true.mpr ⟨⟨_, _, request⟩, _, op⟩
            rw [if_pos completing]
            have := standing_le_one c.state w.uid
            omega

variable (ent requests) in
/-- A request that resumed `uid` has saved its code. -/
def IssuedFor (trace : List (Occurrence Fs ℕ)) (uid : String) (j : ℕ) : Prop :=
  ∃ q f r, requests j = .resume q ∧ (q.get "uid").getD "" = uid ∧ ⟨j, .set_doc .authCodes (ent.uuid j .code) f, r⟩ ∈ trace

omit empty in
/-- Whoever has saved a code has deleted the request before. -/
private theorem issued_consumed {uid : String} {j : ℕ} (issued : IssuedFor ent requests c.trace uid j) :
    ∃ e ∈ c.trace, consumes uid e = true ∧ e.thread = j := by
  obtain ⟨q, f, r, request, rfl, listed⟩ := issued
  obtain ⟨before, old, above, o, below, implements, lawful, asks⟩ := Service.run_occurred run _ listed
  have flow : FlowCol (Col.authCodes, ent.uuid j .code).1 := trivial
  have writes : (FsOp.set_doc .authCodes (ent.uuid j .code) f).writes = some (.authCodes, ent.uuid j .code) := rfl
  have makes : (FsOp.set_doc .authCodes (ent.uuid j .code) f).makes none = some f := rfl
  have puts : Put o below before (.set_doc .authCodes (ent.uuid j .code) f) := host_puts asks flow writes makes
  change (requests j).Lawful p (ent.uuid j) above o at lawful
  rw [request] at lawful
  rcases lawful with plain | ⟨c', rfl, own, w, req, account_id, auth_time, code⟩ | ⟨_, -, no⟩ | ⟨_, rfl, -⟩
  · exact (plain_puts plain puts flow writes makes).elim
  · obtain ⟨ut, deleted⟩ := consumed_interaction (implements.ran code.consumed)
    have past := old.subset (List.mem_cons_of_mem _ (asks.suffix.subset deleted))
    exact ⟨_, Pool.mem_past.mp past, consumes_eq_true.mpr ⟨j, ut, rfl⟩, rfl⟩
  · exact no.elim
  · rcases puts with ⟨_, same, puts⟩ | ⟨wrong, -⟩
    · cases same
      cases puts
    · cases wrong

/-- The codes for a request that waits are no more than the logins to it. -/
theorem one_code_per_login {uid : String} {codes : List ℕ} (distinct : codes.Nodup)
    (issued : ∀ j ∈ codes, IssuedFor ent requests c.trace uid j) :
    ∃ logins : List ℕ, logins.Nodup ∧ codes.length ≤ logins.length ∧ ∀ k ∈ logins, ∃ account_id auth_time shown above w,
      SignedInAt p jwks requests c.trace account_id auth_time k uid shown above w := by
  have parking : ∀ e, completes requests uid e = true → Parks e.op := by
    intro e completing
    obtain ⟨-, f, same⟩ := completes_eq_true.mp completing
    rw [same]
    trivial
  refine ⟨(c.trace.filter (completes requests uid)).map (·.thread), (run_parks_once run parking).2, ?_, fun k listed => ?_⟩
  · have deleted : codes ⊆ (c.trace.filter (consumes uid)).map (·.thread) := by
      intro j listed
      obtain ⟨e, old, deleting, same⟩ := issued_consumed run (issued j listed)
      exact List.mem_map.mpr ⟨e, List.mem_filter.mpr ⟨old, deleting⟩, same⟩
    have fewer := (distinct.subperm deleted).length_le
    have balanced := run_balanced empty run uid
    rw [List.length_map, ← List.countP_eq_length_filter] at fewer ⊢
    rcases balanced with none | some_
    · omega
    · omega
  · obtain ⟨e, counted, rfl⟩ := List.mem_map.mp listed
    obtain ⟨happened, completing⟩ := List.mem_filter.mp counted
    obtain ⟨⟨id, shown, login⟩, f, same⟩ := completes_eq_true.mp completing
    obtain ⟨before, old, allowed⟩ := Service.run_occurred run e happened
    have writes : e.op.writes = some (.interactions, uid) := by rw [same]; rfl
    have makes : e.op.makes none = some f := by rw [same]; rfl
    obtain ⟨w, t, own, -, -, parked⟩ := parked_of_allowed allowed writes makes
    cases parked with
    | asked sid raw request own blank =>
      rw [login] at request
      cases request
    | signed_in uid' verified above below was account_id auth_time request implements earlier signed now_ =>
      obtain ⟨g, -, found, -⟩ := got_interaction (implements.ran signed.interaction)
      obtain rfl : uid' = uid := by
        rw [← own, now_, ← found]
        rfl
      exact ⟨account_id, auth_time, verified, above, was, request,
        ⟨below, implements, earlier.trans ((List.suffix_cons _ _).trans old)⟩, signed⟩

omit empty run in
theorem one_code_per_login_resumed : ∃ logins : List ℕ, logins.Nodup ∧ 1 ≤ logins.length ∧
    ∀ k ∈ logins, ∃ account_id auth_time shown above w, SignedInAt Reference.flowSite (fun _ _ _ => none) flowRequests
      flowEnd.trace account_id auth_time k (longEntropy.uuid 1 .interaction_uid) shown above w := by
  refine one_code_per_login flowDb_empty flowEnd_run (List.nodup_singleton 3) fun j listed => ?_
  obtain rfl := List.mem_singleton.mp listed
  obtain ⟨f, r, saved⟩ := flowEnd_saved
  exact ⟨_, f, r, rfl, rfl, saved⟩

end runs

end origins

end RustOp.Web.CodeFlow
