import RustOp.Firestore.Store
import RustOp.TokenStore

/-!
Firestore keeps the contract of a token store while its timestamps fit into
four-digit years: every operation, run to its end, answers from the decoded
documents and changes them as the contract says.
-/
namespace RustOp.Firestore
open RustOp.Effects
open RustOp.Memory (CodeRecord)

/-! ### Reading back what was written -/

theorem field_ts_secs_ts {f : Fields} {name : String} {t : Nat} (stored : f.get name = some (ts t))
    (early : t < YEAR_10000) : field_ts_secs f name = some t := by
  simp [field_ts_secs, stored, ts, parse_rfc3339 early]

theorem AccessToken.from_to_fields (t : AccessToken) (plain : t.authorization_details = none) (expires_at : Nat) :
    AccessToken.from_fields t.token (AccessToken.to_fields t expires_at) = t := by
  obtain ⟨token, client_id, account_id, scope, jkt, aud, acr, auth_time, details, consumed⟩ := t
  obtain rfl : details = none := plain
  simp only [AccessToken.from_fields, AccessToken.to_fields, Table.ofEntries, List.foldl_cons, List.foldl_nil, field_str,
    field_u64, field_bool, Table.get_put]
  cases jkt <;> cases aud <;> cases acr <;> cases auth_time <;> cases consumed <;> simp

theorem rt_from_to_fields (t : RefreshToken) (expires_at : Nat) :
    rt_from_fields t.token (RefreshToken.to_fields t expires_at) = t := by
  obtain ⟨token, client_id, account_id, scope, resource, jkt, acr, auth_time, family_id, used, replaced_by⟩ := t
  simp only [rt_from_fields, RefreshToken.to_fields, Table.ofEntries, List.foldl_cons, List.foldl_nil, field_str,
    field_u64, field_bool, Table.get_put]
  cases resource <;> cases jkt <;> cases acr <;> cases auth_time <;> cases replaced_by <;> simp

/-! ### What the documents show -/

/-- The record of a code: the code, its use, and what it issued. -/
def codeRecord (code : String) (f : Fields) : CodeRecord where
  code := AuthorizationCode.from_fields code f
  used := (field_bool f "used").getD false
  issued_access := field_str f "issuedAccessToken"
  issued_refresh := field_str f "issuedRefreshToken"

theorem codeRecord_to_fields (c : AuthorizationCode) :
    ∃ t, codeRecord c.code (AuthorizationCode.to_fields c) = ⟨{ c with expires_at := t }, false, none, none⟩ := by
  refine ⟨(field_ts_secs (AuthorizationCode.to_fields c) "expiresAt").getD 0, ?_⟩
  obtain ⟨code, client_id, account_id, redirect_uri, scope, nonce, challenge, method, auth_time, acr, dpop_jkt, resource,
    expires_at⟩ := c
  simp only [codeRecord, AuthorizationCode.from_fields, CodeRecord.mk.injEq, AuthorizationCode.mk.injEq, true_and,
    and_true, and_assoc]
  simp only [AuthorizationCode.to_fields, Table.ofEntries, List.foldl_cons, List.foldl_nil, field_str, field_u64,
    field_bool, Table.get_put]
  cases nonce <;> cases challenge <;> cases method <;> cases acr <;> cases dpop_jkt <;> cases resource <;> simp

/-- Taking a code changes nothing but its use. -/
theorem codeRecord_take (code : String) (f : Fields) :
    codeRecord code (f.set "used" (.boolean true)) = { codeRecord code f with used := true } := by
  simp [codeRecord, AuthorizationCode.from_fields, field_str, field_u64, field_bool, field_ts_secs, Table.get_set]

/-- Linking names the issued tokens. An earlier refresh token stays if there is no new one. -/
theorem codeRecord_link (code : String) (f : Fields) (access_token : String) (refresh_token : Option String)
    (first : field_str f "issuedRefreshToken" = none) :
    codeRecord code (f.merge (FirestoreStore.link_fields access_token refresh_token)) =
      { codeRecord code f with issued_access := some access_token, issued_refresh := refresh_token } := by
  have other : ∀ name, name ≠ "issuedAccessToken" → name ≠ "issuedRefreshToken" →
      (f.merge (FirestoreStore.link_fields access_token refresh_token)).get name = f.get name := by
    intro name notAccess notRefresh
    rw [Table.get_merge]
    simp [FirestoreStore.link_fields, Table.ofEntries, Table.get_put, notAccess, notRefresh]
  have access : (f.merge (FirestoreStore.link_fields access_token refresh_token)).get "issuedAccessToken" =
      some (.string access_token) := by
    rw [Table.get_merge]
    simp [FirestoreStore.link_fields, Table.ofEntries, Table.get_put]
  have refresh : (f.merge (FirestoreStore.link_fields access_token refresh_token)).get "issuedRefreshToken" =
      (refresh_token.map Value.string).or (f.get "issuedRefreshToken") := by
    rw [Table.get_merge]
    cases refresh_token <;> simp [FirestoreStore.link_fields, Table.ofEntries, Table.get_put]
  have issued : field_str (f.merge (FirestoreStore.link_fields access_token refresh_token)) "issuedRefreshToken" =
      refresh_token := by
    cases refresh_token with
    | none => simpa [field_str, refresh] using first
    | some t => simp [field_str, refresh]
  simp only [codeRecord, issued, CodeRecord.mk.injEq, and_true]
  simp [AuthorizationCode.from_fields, field_str, field_u64, field_bool, field_ts_secs, other, access]

/-- Marking changes nothing but the use and the successor. -/
theorem rt_from_fields_marked (token : String) (f : Fields) (replaced_by : Option String) :
    rt_from_fields token ((f.set "used" (.boolean true)).put "replacedBy" (replaced_by.map .string)) =
      { rt_from_fields token f with used := true, replaced_by := replaced_by.or (rt_from_fields token f).replaced_by } := by
  cases replaced_by <;> simp [rt_from_fields, field_str, field_u64, field_bool, Table.get_set, Table.get_put]

/-- The fields that `get_unexpired` returns. -/
def unexpired (db : Db) (col : Col) (id : String) : Option Fields :=
  ((db.docs.get (col, id)).bind Db.readable).filter fun f => !expired_at f db.clock

/-- The unexpired tokens, and every code that has a document. -/
def view (db : Db) : View where
  access := fun t => (unexpired db .accessTokens t).map (AccessToken.from_fields t)
  refresh := fun t => (unexpired db .refreshTokens t).map (rt_from_fields t)
  code := fun c => (db.docs.get (.authCodes, c)).map fun doc => codeRecord c doc.fields

theorem unexpired_write (db : Db) (key : Col × String) (f : Fields) (col : Col) (id : String) :
    unexpired (db.write key f) col id = if (col, id) = key then
      (Db.readable ⟨f, db.writes + 1⟩).filter fun f => !expired_at f db.clock else unexpired db col id := by
  unfold unexpired
  rw [get_write]
  split <;> rfl

theorem unexpired_erase (db : Db) (key : Col × String) (col : Col) (id : String) :
    unexpired (db.erase key) col id = if (col, id) = key then none else unexpired db col id := by
  unfold unexpired
  rw [get_erase]
  split <;> rfl

theorem readable_of_get {f : Fields} {name : String} {v : Value} (stored : f.get name = some v) (n : Nat) :
    Db.readable ⟨f, n⟩ = some f := by
  have present : f.entries.isEmpty = false := by
    cases entries : f.entries with
    | nil =>
      rw [Table.get_eq_some_iff, Table.pairs, entries] at stored
      cases stored
    | cons e rest => rfl
  simp [Db.readable, present]

/-- A document just written with its time to live. -/
private theorem fresh_readable {f : Fields} {now ttl : Nat} (stamped : f.get "expiresAt" = some (ts (now + ttl)))
    (early : now + ttl < YEAR_10000) (n : Nat) :
    (Db.readable ⟨f, n⟩).filter (fun f => !expired_at f now) = some f := by
  have secs := field_ts_secs_ts stamped early
  simp [readable_of_get stamped, expired_at, secs]

section
variable (db : Db) (id : String) (f : Fields)

private theorem view_write_access : view (db.write (.accessTokens, id) f) = (view db).setAccess id
    (((Db.readable ⟨f, db.writes + 1⟩).filter fun f => !expired_at f db.clock).map (AccessToken.from_fields id)) := by
  refine View.ext (funext fun x => ?_) (funext fun x => ?_) (funext fun x => ?_)
  · by_cases same : x = id <;> simp [view, unexpired_write, same]
  · simp [view, unexpired_write]
  · simp [view, get_write]

private theorem view_write_refresh : view (db.write (.refreshTokens, id) f) = (view db).setRefresh id
    (((Db.readable ⟨f, db.writes + 1⟩).filter fun f => !expired_at f db.clock).map (rt_from_fields id)) := by
  refine View.ext (funext fun x => ?_) (funext fun x => ?_) (funext fun x => ?_)
  · simp [view, unexpired_write]
  · by_cases same : x = id <;> simp [view, unexpired_write, same]
  · simp [view, get_write]

private theorem view_write_code : view (db.write (.authCodes, id) f) = (view db).setCode id (some (codeRecord id f)) := by
  refine View.ext (funext fun x => ?_) (funext fun x => ?_) (funext fun x => ?_)
  · simp [view, unexpired_write]
  · simp [view, unexpired_write]
  · by_cases same : x = id <;> simp [view, get_write, same]

private theorem view_erase_access : view (db.erase (.accessTokens, id)) = (view db).setAccess id none := by
  refine View.ext (funext fun x => ?_) (funext fun x => ?_) (funext fun x => ?_)
  · by_cases same : x = id <;> simp [view, unexpired_erase, same]
  · simp [view, unexpired_erase]
  · simp [view, get_erase]

private theorem view_erase_refresh : view (db.erase (.refreshTokens, id)) = (view db).setRefresh id none := by
  refine View.ext (funext fun x => ?_) (funext fun x => ?_) (funext fun x => ?_)
  · simp [view, unexpired_erase]
  · by_cases same : x = id <;> simp [view, unexpired_erase, same]
  · simp [view, get_erase]

end

/-! ### The operations, run to their end -/

theorem storage_clock (o : BackendOp) (db : Db) : (storage o db).2.clock = db.clock := by
  have all : ∀ {α : Type} (p : Prog Fs α) (db : Db), (Prog.run exec p db).2.clock = db.clock := by
    intro α p
    induction p with
    | ret a => exact fun _ => rfl
    | call o k ih => exact fun db => (ih _ _).trans (exec_clock o db)
  exact all _ _

theorem run_get_unexpired (col : Col) (id : String) (db : Db) :
    Prog.run exec (FirestoreStore.get_unexpired col id) db = (unexpired db col id, db) := by
  simp only [FirestoreStore.get_unexpired, doc_expired, fs, Prog.call_bind, Prog.ret_bind, Prog.pure_eq, Prog.run_call,
    exec, unexpired]
  cases (db.docs.get (col, id)).bind Db.readable with
  | none => rfl
  | some f => cases expired : expired_at f db.clock <;> simp [expired, exec, Option.filter]

/-- A walk removes some tokens and nothing else. -/
private theorem run_revoke_walk (guard : Nat) (start : Option String) (db : Db) : ∃ kept : String → Bool, ∃ docs,
    Prog.run exec (FirestoreStore.revoke_walk guard start) db = ((), { db with docs }) ∧
    (∀ id, docs.get (.refreshTokens, id) = if kept id then db.docs.get (.refreshTokens, id) else none) ∧
    (∀ col id, col ≠ .refreshTokens → docs.get (col, id) = db.docs.get (col, id)) ∧
    (0 < guard → ∀ t, start = some t → kept t = false) := by
  induction guard generalizing start db with
  | zero => exact ⟨fun _ => true, db.docs, rfl, fun id => by simp, fun _ _ _ => rfl, fun none => absurd none (by decide)⟩
  | succ guard ih =>
    cases start with
    | none => exact ⟨fun _ => true, db.docs, rfl, fun id => by simp, fun _ _ _ => rfl, fun _ _ none => by cases none⟩
    | some t =>
      let next := match (db.docs.get (.refreshTokens, t)).bind Db.readable with
        | some f => field_str f "replacedBy"
        | none => none
      obtain ⟨kept, docs, ran, tokens, others, -⟩ := ih next (db.erase (.refreshTokens, t))
      refine ⟨fun x => kept x && x != t, docs, ?_, fun id => ?_, fun col id other => ?_, fun _ u same => by cases same; simp⟩
      · simp only [FirestoreStore.revoke_walk, fs, Prog.call_bind, Prog.ret_bind, Prog.run_call, exec]
        cases found : (db.docs.get (.refreshTokens, t)).bind Db.readable <;> simp only [next, found] at ran <;> exact ran
      · rw [tokens, get_erase]
        by_cases same : id = t <;> simp [same]
      · rw [others col id other, get_erase]
        simp [other]

/-- Only the expiry field decides. -/
theorem expired_at_congr {f g : Fields} (same : f.get "expiresAt" = g.get "expiresAt") (now : Nat) :
    expired_at f now = expired_at g now := by
  unfold expired_at field_ts_secs
  rw [same]

/-- A document behind an unexpired record. -/
theorem unexpired_eq_some {db : Db} {col : Col} {id : String} {f : Fields} (present : unexpired db col id = some f) :
    ∃ doc, db.docs.get (col, id) = some doc ∧ doc.fields = f ∧ expired_at f db.clock = false := by
  unfold unexpired at present
  rw [Option.filter_eq_some_iff, Option.bind_eq_some_iff] at present
  obtain ⟨⟨doc, stored, read⟩, fresh⟩ := present
  unfold Db.readable at read
  split at read
  · cases read
  · exact ⟨doc, stored, Option.some.inj read, by simpa using fresh⟩

theorem mark_refresh_spec {db : Db} {t : String} {r : RefreshToken} (next : Option String)
    (present : (view db).refresh t = some r) :
    (r.used = true → storage (.store (.mark_refresh_used t next)) db = (false, db)) ∧
    (r.used = false → (storage (.store (.mark_refresh_used t next)) db).1 = true ∧
      ∃ n', view (storage (.store (.mark_refresh_used t next)) db).2 =
        (view db).setRefresh t (some { r with used := true, replaced_by := n' })) := by
  obtain ⟨f, readable, rfl⟩ := Option.map_eq_some_iff.mp present
  obtain ⟨doc, stored, rfl, fresh⟩ := unexpired_eq_some readable
  have decoded : (rt_from_fields t doc.fields).used = (field_bool doc.fields "used").getD false := rfl
  rw [decoded]
  constructor
  · intro used
    simp [storage, production, FirestoreStore.run, FirestoreStore.mark_refresh_used, exec, stored, used]
  · intro unused
    have marked := rt_from_fields_marked t doc.fields next
    have ran : storage (.store (.mark_refresh_used t next)) db = (true, db.write (.refreshTokens, t)
        ((doc.fields.set "used" (.boolean true)).put "replacedBy" (next.map .string))) := by
      simp [storage, production, FirestoreStore.run, FirestoreStore.mark_refresh_used, exec, stored, unused, Db.unchanged]
    have kept : (Db.readable ⟨(doc.fields.set "used" (.boolean true)).put "replacedBy" (next.map .string),
        db.writes + 1⟩).filter (fun f => !expired_at f db.clock) =
        some ((doc.fields.set "used" (.boolean true)).put "replacedBy" (next.map .string)) := by
      have written : ((doc.fields.set "used" (.boolean true)).put "replacedBy" (next.map .string)).get "used" =
          some (.boolean true) := by
        simp [Table.get_put]
      rw [readable_of_get written]
      have same : ((doc.fields.set "used" (.boolean true)).put "replacedBy" (next.map .string)).get "expiresAt" =
          doc.fields.get "expiresAt" := by
        simp [Table.get_put, Table.get_set]
      simp [Option.filter, expired_at_congr same, fresh]
    rw [ran]
    exact ⟨rfl, _, by rw [view_write_refresh, kept, Option.map_some, marked]⟩

private theorem take_fresh_spec {db : Db} {c : String} {r : CodeRecord} (present : (view db).code c = some r)
    (unused : r.used = false) :
    (storage (.store (.take_code c)) db).1 = some r.code ∧
    view (storage (.store (.take_code c)) db).2 = (view db).setCode c (some { r with used := true }) := by
  obtain ⟨doc, stored, rfl⟩ := Option.map_eq_some_iff.mp present
  have fresh : (field_bool doc.fields "used").getD false = false := unused
  have ran : storage (.store (.take_code c)) db =
      (some (AuthorizationCode.from_fields c (doc.fields.set "used" (.boolean true))),
        db.write (.authCodes, c) (doc.fields.set "used" (.boolean true))) := by
    simp [storage, production, FirestoreStore.run, FirestoreStore.take_code, exec, stored, fresh, Db.unchanged]
  have taken := codeRecord_take c doc.fields
  rw [ran]
  refine ⟨congrArg some ?_, by rw [view_write_code, taken]⟩
  exact congrArg CodeRecord.code taken

private theorem run_delete_named_access (t : Option String) (db : Db) : ∃ db',
    Prog.run exec (FirestoreStore.delete_named .accessTokens t) db = ((), db') ∧
    view db' = (view db).dropAccess t ∧ ∀ c, db'.docs.get (.authCodes, c) = db.docs.get (.authCodes, c) := by
  cases t with
  | none => exact ⟨db, rfl, rfl, fun _ => rfl⟩
  | some t => exact ⟨db.erase (.accessTokens, t), rfl, view_erase_access db t, fun c => by simp [get_erase]⟩

private theorem run_delete_named_refresh (t : Option String) (db : Db) : ∃ db',
    Prog.run exec (FirestoreStore.delete_named .refreshTokens t) db = ((), db') ∧ view db' = (view db).dropRefresh t := by
  cases t with
  | none => exact ⟨db, rfl, rfl⟩
  | some t => exact ⟨db.erase (.refreshTokens, t), rfl, view_erase_refresh db t⟩

private theorem take_used_spec {db : Db} {c : String} {r : CodeRecord} (present : (view db).code c = some r)
    (used : r.used = true) :
    (storage (.store (.take_code c)) db).1 = none ∧
    view (storage (.store (.take_code c)) db).2 =
      (((view db).dropAccess r.issued_access).dropRefresh r.issued_refresh).setCode c (some r) := by
  obtain ⟨doc, stored, rfl⟩ := Option.map_eq_some_iff.mp present
  have spent : (field_bool doc.fields "used").getD false = true := used
  obtain ⟨db1, ranAccess, viewAccess, codes⟩ := run_delete_named_access (field_str doc.fields "issuedAccessToken") db
  obtain ⟨db2, ranRefresh, viewRefresh⟩ := run_delete_named_refresh (field_str doc.fields "issuedRefreshToken") db1
  have ran : storage (.store (.take_code c)) db = (none, db2) := by
    simp [storage, production, FirestoreStore.run, FirestoreStore.take_code, exec, stored, spent, ranAccess, ranRefresh]
  have same : (view db2).code = (view db).code := by rw [viewRefresh, viewAccess]; simp
  rw [ran]
  refine ⟨rfl, ?_⟩
  have here : (view db2).setCode c (some (codeRecord c doc.fields)) = view db2 := by
    refine View.ext rfl rfl ?_
    rw [View.setCode_code, ← present, ← same, Function.update_eq_self]
  rw [← here, viewRefresh, viewAccess]
  rfl

/-- Between requests the clock moves on, and Firestore removes documents that
    have expired. Timestamps stay within four-digit years. -/
inductive Env : Db → Db → Prop where
  | tick (db : Db) (t : Nat) (later : db.clock ≤ t) (early : t + REFRESH_TTL_SECS < YEAR_10000) :
      Env db { db with clock := t }
  | expire (db : Db) (key : Col × String) (doc : Doc) (stored : db.docs.get key = some doc)
      (past : expired_at doc.fields db.clock = true) : Env db (db.erase key)

private theorem unexpired_later {db : Db} {t : Nat} (later : db.clock ≤ t) {col : Col} {id : String} {f : Fields}
    (present : unexpired { db with clock := t } col id = some f) : unexpired db col id = some f := by
  unfold unexpired at present ⊢
  rw [Option.filter_eq_some_iff] at present ⊢
  refine ⟨present.1, ?_⟩
  have fresh := present.2
  simp only [expired_at, Bool.not_eq_true', decide_eq_false_iff_not] at fresh ⊢
  omega

/-- Firestore keeps the contract as long as its timestamps do not need a fifth
    digit for the year. -/
def tokenStore : TokenStore Db storage where
  clock := Db.clock
  view := view
  Ok := fun db => db.clock + REFRESH_TTL_SECS < YEAR_10000
  Env := Env
  ok_exec := fun {s} ok o => by rw [storage_clock]; exact ok
  ok_env := by
    rintro s s' ok (⟨t, later, early⟩ | ⟨key, doc, stored, past⟩)
    · exact early
    · exact ok
  env_forgets := by
    rintro s s' ok (⟨t, later, early⟩ | ⟨key, doc, stored, past⟩)
    · refine ⟨fun x r present => ?_, fun x r present => ?_, fun c r present => present⟩
      · obtain ⟨f, fresh, rfl⟩ := Option.map_eq_some_iff.mp present
        exact Option.map_eq_some_iff.mpr ⟨f, unexpired_later later fresh, rfl⟩
      · obtain ⟨f, fresh, rfl⟩ := Option.map_eq_some_iff.mp present
        exact Option.map_eq_some_iff.mpr ⟨f, unexpired_later later fresh, rfl⟩
    · refine ⟨fun x r present => ?_, fun x r present => ?_, fun c r present => ?_⟩
      · simp only [view, unexpired_erase] at present
        split at present
        · cases present
        · exact present
      · simp only [view, unexpired_erase] at present
        split at present
        · cases present
        · exact present
      · simp only [view, get_erase] at present
        split at present
        · cases present
        · exact present
  now_eq := fun _ => rfl
  clock_exec := storage_clock
  get_access := fun {s} _ t => by
    simp [storage, production, FirestoreStore.run, FirestoreStore.get_access_token, run_get_unexpired, view]
  revoke_access := fun {s} _ t => view_erase_access s t
  save_access := fun {s} ok t plain => by
    have stamped : (AccessToken.to_fields t (s.clock + ACCESS_TTL_SECS)).get "expiresAt" =
        some (ts (s.clock + ACCESS_TTL_SECS)) := by
      simp [AccessToken.to_fields, Table.ofEntries, Table.get_put]
    have early : s.clock + ACCESS_TTL_SECS < YEAR_10000 := by
      simp only [ACCESS_TTL_SECS, REFRESH_TTL_SECS] at ok ⊢
      omega
    have ran : (storage (.store (.save_access_token t)) s).2 =
        s.write (.accessTokens, t.token) (AccessToken.to_fields t (s.clock + ACCESS_TTL_SECS)) := rfl
    rw [ran, view_write_access, fresh_readable stamped early, Option.map_some, AccessToken.from_to_fields t plain]
  get_refresh := fun {s} _ t => by
    simp [storage, production, FirestoreStore.run, FirestoreStore.get_refresh_token, run_get_unexpired, view]
  revoke_refresh := fun {s} _ t => view_erase_refresh s t
  save_refresh := fun {s} ok t => by
    have stamped : (RefreshToken.to_fields t (s.clock + REFRESH_TTL_SECS)).get "expiresAt" =
        some (ts (s.clock + REFRESH_TTL_SECS)) := by
      simp [RefreshToken.to_fields, Table.ofEntries, Table.get_put]
    have ran : (storage (.store (.save_refresh_token t)) s).2 =
        s.write (.refreshTokens, t.token) (RefreshToken.to_fields t (s.clock + REFRESH_TTL_SECS)) := rfl
    rw [ran, view_write_refresh, fresh_readable stamped ok, Option.map_some, rt_from_to_fields]
  mark_refresh := fun {s} _ t n r present => mark_refresh_spec n present
  revoke_family := fun {s} _ t => by
    obtain ⟨kept, docs, ran, tokens, others, first⟩ := run_revoke_walk 64 (some t) s
    refine ⟨kept, first (by decide) t rfl, ?_⟩
    have after : (storage (.store (.revoke_refresh_family t)) s).2 = { s with docs } := congrArg Prod.snd ran
    rw [after]
    refine View.ext (funext fun x => ?_) (funext fun x => ?_) (funext fun x => ?_)
    · simp [view, unexpired, others]
    · by_cases stays : kept x <;> simp [view, unexpired, tokens, stays]
    · simp [view, others]
  take_unknown := fun {s} _ c absent => by
    have none : s.docs.get (.authCodes, c) = none := Option.map_eq_none_iff.mp absent
    simp [storage, production, FirestoreStore.run, FirestoreStore.take_code, exec, none]
  take_fresh := fun {s} _ c r present unused => take_fresh_spec present unused
  take_used := fun {s} _ c r present used => by
    obtain ⟨answer, after⟩ := take_used_spec present used
    exact ⟨answer, r, rfl, used, .inl rfl, .inl rfl, after⟩
  link_issued := fun {s} _ c a t r present first => by
    obtain ⟨doc, stored, rfl⟩ := Option.map_eq_some_iff.mp present
    have ran : (storage (.store (.link_issued_tokens c a t)) s).2 =
        s.write (.authCodes, c) (doc.fields.merge (FirestoreStore.link_fields a t)) := by
      simp [storage, production, FirestoreStore.run, FirestoreStore.link_issued_tokens, exec, stored]
    rw [ran, view_write_code, codeRecord_link c doc.fields a t first]
  save_code := fun {s} _ c => by
    obtain ⟨t, decoded⟩ := codeRecord_to_fields c
    have ran : (storage (.store (.save_code c)) s).2 = s.write (.authCodes, c.code) (AuthorizationCode.to_fields c) := rfl
    exact .inl ⟨t, by rw [ran, view_write_code, decoded]⟩

end RustOp.Firestore
