import RustOp.Web.FidoStore
import RustOp.Web.Reference
import RustOp.Firestore.Contract

/-!
Every record that is written as a document is read back as it was, and the two
operations that rewrite a document change only what they are for.
-/
namespace RustOp.RoundTrip
open RustOp.Effects RustOp.Firestore RustOp.Web RustOp.Web.fido.store
open RustOp.Web.fido.verify (CredKey)

/-- A document is stored, and its fields decode to a value. -/
def Reads {α : Type} (db : Db) (col : Col) (id : String) (decode : Fields → α) (value : α) : Prop :=
  ∃ doc, db.docs.get (col, id) = some doc ∧ decode doc.fields = value

/-- Details that are absent or not empty. -/
def Proper (details : Option String) : Prop := details ≠ some ""

/-! ### Encoding and decoding -/

theorem interaction_from_to_fields (i : Interaction) (expires_at : Nat) :
    Interaction.from_fields i.uid (Interaction.to_fields i expires_at) = i := by
  obtain ⟨uid, raw_query, account_id, auth_time, request_uri⟩ := i
  simp only [Interaction.from_fields, Interaction.to_fields, Table.ofEntries, List.foldl_cons, List.foldl_nil, field_str,
    field_u64, Table.get_put]
  cases account_id <;> cases auth_time <;> cases request_uri <;> simp

theorem session_from_to_fields (s : Session) (expires_at : Nat) :
    Session.from_fields s.sid (Session.to_fields s expires_at) = s := by
  simp [Session.from_fields, Session.to_fields, Table.ofEntries, field_str, field_u64, Table.get_put]

theorem code_from_to_fields (c : AuthorizationCode) (early : c.expires_at < YEAR_10000) :
    AuthorizationCode.from_fields c.code (AuthorizationCode.to_fields c) = c := by
  have expiry : (AuthorizationCode.to_fields c).get "expiresAt" = some (ts c.expires_at) := by
    simp [AuthorizationCode.to_fields, Table.ofEntries, Table.get_put]
  have secs := field_ts_secs_ts expiry early
  obtain ⟨t, same⟩ := codeRecord_to_fields c
  have decoded : AuthorizationCode.from_fields c.code (AuthorizationCode.to_fields c) = { c with expires_at := t } :=
    congrArg Memory.CodeRecord.code same
  have time : c.expires_at = t := by
    have := congrArg AuthorizationCode.expires_at decoded
    simpa [AuthorizationCode.from_fields, secs] using this
  rw [decoded, ← time]

/-- Details that are stored are found again. -/
private theorem filter_details {d : String} (proper : Proper (some d)) : (some d).filter (!·.isEmpty) = some d := by
  have full : d.isEmpty = false := by
    simpa [Proper] using proper
  simp [Option.filter, full]

theorem access_from_to_fields (t : AccessToken) (proper : Proper t.authorization_details) (expires_at : Nat) :
    AccessToken.from_fields t.token (AccessToken.to_fields t expires_at) = t := by
  obtain ⟨token, client_id, account_id, scope, jkt, aud, acr, auth_time, details, consumed⟩ := t
  simp only [AccessToken.from_fields, AccessToken.to_fields, Table.ofEntries, List.foldl_cons, List.foldl_nil, field_str,
    field_u64, field_bool, Table.get_put]
  cases details with
  | none => cases jkt <;> cases aud <;> cases acr <;> cases auth_time <;> cases consumed <;> simp
  | some d =>
    have found := filter_details proper
    cases jkt <;> cases aud <;> cases acr <;> cases auth_time <;> cases consumed <;> simpa using found

theorem request_from_fields (r : BackchannelAuthRequest) (early : r.expires_at < YEAR_10000)
    (proper : Proper r.authorization_details) :
    BackchannelAuthRequest.from_fields r.auth_req_id (BackchannelAuthRequest.fields r) = r := by
  have expiry : (BackchannelAuthRequest.fields r).get "expiresAt" = some (ts r.expires_at) := by
    simp [BackchannelAuthRequest.fields, Table.ofEntries, Table.get_put]
  have secs := field_ts_secs_ts expiry early
  obtain ⟨auth_req_id, client_id, account, scope, binding_message, status, expires_at, details⟩ := r
  simp only [BackchannelAuthRequest.from_fields, secs]
  simp only [BackchannelAuthRequest.fields, Table.ofEntries, List.foldl_cons, List.foldl_nil, field_str, Table.get_put]
  cases details with
  | none => simp [CibaStatus.parse_as_str]
  | some d => simpa [CibaStatus.parse_as_str] using filter_details proper

theorem history_from_fields (e : CibaHistoryEntry) (early : e.resolved_at < YEAR_10000)
    (proper : Proper e.authorization_details) :
    CibaHistoryEntry.from_fields e.auth_req_id (CibaHistoryEntry.fields e) = e := by
  have resolved : (CibaHistoryEntry.fields e).get "resolvedAt" = some (ts e.resolved_at) := by
    simp [CibaHistoryEntry.fields, Table.ofEntries, Table.get_put]
  have secs := field_ts_secs_ts resolved early
  obtain ⟨auth_req_id, account, client_id, scope, binding_message, details, outcome, resolved_at⟩ := e
  simp only [CibaHistoryEntry.from_fields, secs]
  simp only [CibaHistoryEntry.fields, Table.ofEntries, List.foldl_cons, List.foldl_nil, field_str, Table.get_put]
  cases details with
  | none => simp
  | some d => simpa using filter_details proper

/-- Each kind of key is found under its own name, with its own parts. -/
theorem cred_from_to_fields {p : Server} (codec : Base64url p) (user : String) (c : StoredCredential) :
    cred_from_fields p (cred_to_fields p user c) = some c := by
  obtain ⟨id, key, sign_count⟩ := c
  cases key <;>
    simp [cred_from_fields, cred_to_fields, key_from_fields, kty, parts, dec, Table.ofEntries, field_str, field_u64,
      Table.get_put, codec.b64url_decode, Except.toOption]

/-! ### Rewriting a document -/

/-- What rewriting a document leaves alone: the fields not listed, and every
    other document. -/
def OnlyChanges (db db' : Db) (key : Col × String) (doc : Doc) (names : List String) : Prop :=
  (∃ doc', db'.docs.get key = some doc' ∧ ∀ name, name ∉ names → doc'.fields.get name = doc.fields.get name) ∧
  ∀ k, k ≠ key → db'.docs.get k = db.docs.get k

private theorem onlyChanges_refl {db : Db} {key : Col × String} {doc : Doc} (stored : db.docs.get key = some doc)
    (names : List String) : OnlyChanges db db key doc names :=
  ⟨⟨doc, stored, fun _ _ => rfl⟩, fun _ _ => rfl⟩

private theorem onlyChanges_write {db : Db} {key : Col × String} {doc : Doc} {f : Fields} {names : List String}
    (kept : ∀ name, name ∉ names → f.get name = doc.fields.get name) : OnlyChanges db (db.write key f) key doc names :=
  ⟨⟨_, by rw [get_write, if_pos rfl], kept⟩, fun _ other => by rw [get_write, if_neg other]⟩

/-- A transition writes the same request with the new status, or nothing. -/
private theorem run_transition {db : Db} {r : BackchannelAuthRequest} {doc : Doc} (early : r.expires_at < YEAR_10000)
    (proper : Proper r.authorization_details) (stored : db.docs.get (.cibaRequests, r.auth_req_id) = some doc)
    (written : doc.fields = BackchannelAuthRequest.fields r) (status : CibaStatus) :
    Prog.run exec (FirestoreCibaStore.transition_if_pending r.auth_req_id status) db =
      if r.status = .Pending then
        (.ok true, db.write (.cibaRequests, r.auth_req_id) (BackchannelAuthRequest.fields { r with status }))
      else (.ok false, db) := by
  have decoded := request_from_fields r early proper
  have same : db.unchanged (.cibaRequests, r.auth_req_id) doc.update_time = true := by
    simp [Db.unchanged, stored]
  simp only [FirestoreCibaStore.transition_if_pending, Firestore.fs, Prog.call_bind, Prog.ret_bind, Prog.run_call, exec, stored,
    Option.map_some, written, decoded]
  by_cases pending : r.status = .Pending
  · simp [pending, exec, same, decoded]
  · simp [pending]

private theorem fields_status (r : BackchannelAuthRequest) (status : CibaStatus) {name : String} (other : name ≠ "status") :
    (BackchannelAuthRequest.fields { r with status }).get name = (BackchannelAuthRequest.fields r).get name := by
  simp [BackchannelAuthRequest.fields, Table.ofEntries, Table.get_put, other]

private theorem run_mark {db : Db} {token : String} {doc : Doc} (stored : db.docs.get (.refreshTokens, token) = some doc)
    (replaced_by : Option String) :
    Prog.run exec (FirestoreStore.mark_refresh_used token replaced_by) db =
      if (rt_from_fields token doc.fields).used then (false, db)
      else (true, db.write (.refreshTokens, token)
        ((doc.fields.set "used" (.boolean true)).put "replacedBy" (replaced_by.map .string))) := by
  have same : db.unchanged (.refreshTokens, token) doc.update_time = true := by
    simp [Db.unchanged, stored]
  simp only [FirestoreStore.mark_refresh_used, Firestore.fs, Prog.call_bind, Prog.ret_bind, Prog.run_call, exec, stored,
    Option.map_some, rt_from_fields]
  by_cases used : (field_bool doc.fields "used").getD false = true
  · simp [used]
  · simp [used, exec, same]

/-! ### All records -/

/-- Reading gives what was saved, for every kind of record, and the operations
    that rewrite a record change only what they are for. -/
structure RoundTrips (p : Server) : Prop where
  interaction (db : Db) (i : Interaction) :
    Reads (Prog.run exec (FirestoreStore.save_interaction i) db).2 .interactions i.uid (Interaction.from_fields i.uid) i
  session (db : Db) (s : Session) :
    Reads (Prog.run exec (FirestoreStore.save_session s) db).2 .sessions s.sid (Session.from_fields s.sid) s
  code (db : Db) (c : AuthorizationCode) (early : c.expires_at < YEAR_10000) :
    Reads (Prog.run exec (FirestoreStore.save_code c) db).2 .authCodes c.code (AuthorizationCode.from_fields c.code) c ∧
    (Prog.run exec (FirestoreStore.take_code c.code) (Prog.run exec (FirestoreStore.save_code c) db).2).1 = some c
  access (db : Db) (t : AccessToken) (proper : Proper t.authorization_details) :
    Reads (Prog.run exec (FirestoreStore.save_access_token t) db).2 .accessTokens t.token (AccessToken.from_fields t.token) t
  refresh (db : Db) (t : RefreshToken) :
    Reads (Prog.run exec (FirestoreStore.save_refresh_token t) db).2 .refreshTokens t.token (rt_from_fields t.token) t
  request (r : BackchannelAuthRequest) (early : r.expires_at < YEAR_10000) (proper : Proper r.authorization_details) :
    BackchannelAuthRequest.from_fields r.auth_req_id (BackchannelAuthRequest.fields r) = r
  history (db : Db) (e : CibaHistoryEntry) (early : e.resolved_at < YEAR_10000) (proper : Proper e.authorization_details) :
    Reads (Prog.run exec (FirestoreCibaStore.record_history e) db).2 .cibaHistory e.auth_req_id
      (CibaHistoryEntry.from_fields e.auth_req_id) e
  credential (db : Db) (user : String) (c : StoredCredential) :
    Reads (Prog.run exec (save_credential p user c) db).2 .fidoCredentials c.id (cred_from_fields p) (some c)
  /-- Only the status of a pending request. -/
  transition (db : Db) (r : BackchannelAuthRequest) (early : r.expires_at < YEAR_10000)
    (proper : Proper r.authorization_details) (doc : Doc) (stored : db.docs.get (.cibaRequests, r.auth_req_id) = some doc)
    (written : doc.fields = BackchannelAuthRequest.fields r) (status : CibaStatus) :
    Reads (Prog.run exec (FirestoreCibaStore.transition_if_pending r.auth_req_id status) db).2 .cibaRequests r.auth_req_id
      (BackchannelAuthRequest.from_fields r.auth_req_id)
      (if r.status = .Pending then { r with status } else r) ∧
    OnlyChanges db (Prog.run exec (FirestoreCibaStore.transition_if_pending r.auth_req_id status) db).2
      (.cibaRequests, r.auth_req_id) doc ["status"]
  /-- Only the use and the successor of an unused token. -/
  mark (db : Db) (token : String) (doc : Doc) (stored : db.docs.get (.refreshTokens, token) = some doc)
    (replaced_by : Option String) :
    Reads (Prog.run exec (FirestoreStore.mark_refresh_used token replaced_by) db).2 .refreshTokens token (rt_from_fields token)
      (if (rt_from_fields token doc.fields).used then rt_from_fields token doc.fields
        else { rt_from_fields token doc.fields with
          used := true, replaced_by := replaced_by.or (rt_from_fields token doc.fields).replaced_by }) ∧
    OnlyChanges db (Prog.run exec (FirestoreStore.mark_refresh_used token replaced_by) db).2 (.refreshTokens, token) doc
      ["used", "replacedBy"]

private theorem reads_write {α : Type} {db : Db} {col : Col} {id : String} {f : Fields} {decode : Fields → α} {value : α}
    (decoded : decode f = value) : Reads (db.write (col, id) f) col id decode value :=
  ⟨_, by rw [get_write, if_pos rfl], decoded⟩

private theorem take_saved (db : Db) (c : AuthorizationCode) (early : c.expires_at < YEAR_10000) :
    (Prog.run exec (FirestoreStore.take_code c.code) (db.write (.authCodes, c.code) (AuthorizationCode.to_fields c))).1 =
      some c := by
  have stored : (db.write (.authCodes, c.code) (AuthorizationCode.to_fields c)).docs.get (.authCodes, c.code) =
      some ⟨AuthorizationCode.to_fields c, db.writes + 1⟩ := by rw [get_write, if_pos rfl]
  have unused : (field_bool (AuthorizationCode.to_fields c) "used").getD false = false := by
    simp [AuthorizationCode.to_fields, Table.ofEntries, field_bool, Table.get_put]
  have taken := congrArg Memory.CodeRecord.code (codeRecord_take c.code (AuthorizationCode.to_fields c))
  have same : AuthorizationCode.from_fields c.code ((AuthorizationCode.to_fields c).set "used" (.boolean true)) = c :=
    taken.trans (code_from_to_fields c early)
  simp [FirestoreStore.take_code, exec, stored, unused, Db.unchanged, same]

/-- Firestore records decode to what was encoded. -/
theorem records_round_trip (p : Server) (codec : Base64url p) : RoundTrips p where
  interaction db i := reads_write (interaction_from_to_fields i _)
  session db s := reads_write (session_from_to_fields s _)
  code db c early := ⟨reads_write (code_from_to_fields c early), take_saved db c early⟩
  access db t proper := reads_write (access_from_to_fields t proper _)
  refresh db t := reads_write (rt_from_to_fields t _)
  request r early proper := request_from_fields r early proper
  history db e early proper := reads_write (history_from_fields e early proper)
  credential db user c := reads_write (cred_from_to_fields codec user c)
  transition db r early proper doc stored written status := by
    rw [run_transition early proper stored written]
    have decoded := request_from_fields r early proper
    by_cases pending : r.status = .Pending
    · simp only [pending, ↓reduceIte]
      refine ⟨reads_write (request_from_fields { r with status } early proper), onlyChanges_write fun name other => ?_⟩
      rw [written]
      exact fields_status r status (by simpa using other)
    · simp only [pending, ↓reduceIte]
      exact ⟨⟨doc, stored, by rw [written, decoded]⟩, onlyChanges_refl stored _⟩
  mark db token doc stored replaced_by := by
    rw [run_mark stored]
    by_cases used : (rt_from_fields token doc.fields).used = true
    · simp only [used, ↓reduceIte]
      exact ⟨⟨doc, stored, rfl⟩, onlyChanges_refl stored _⟩
    · simp only [used, Bool.false_eq_true, ↓reduceIte]
      refine ⟨reads_write (rt_from_fields_marked token doc.fields replaced_by), onlyChanges_write fun name other => ?_⟩
      simp only [List.mem_cons, List.not_mem_nil, or_false, not_or] at other
      simp [Table.get_put, Table.get_set, other.1, other.2]

/-- The server with the base64url of its library. -/
def server : Server :=
  { Reference.server with
    b64url := fun bytes => String.ofList (Base64.encode bytes)
    decode_url_safe := fun text =>
      match Base64.decode text.toList with
      | some bytes => .ok bytes
      | none => .error "Invalid symbol" }

private theorem server_codec : Base64url server where
  decode bytes := by simp [server, Base64.decode_encode]
  symbols bytes c listed := by
    rw [server, String.toList_ofList] at listed
    exact Base64.isSymbol_of_mem_encode listed

/-- Every record is read back with the library's codec. -/
theorem records_round_trip_server : RoundTrips server := records_round_trip server server_codec

end RustOp.RoundTrip
