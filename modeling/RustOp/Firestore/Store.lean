import RustOp.Backend
import RustOp.Firestore.Documents

/-!
`FirestoreStore` and `FirestoreCibaStore`: each operation of the storage
interface is a short program of requests to Firestore. A single-use record is
read, checked, and written back under the condition that nobody wrote it since.
-/
namespace RustOp.Firestore
open RustOp.Effects

/-! ### Records as fields -/

/-- A time as a field. -/
def ts (secs : Nat) : Value := .timestamp (rfc3339 secs)

def Interaction.to_fields (i : Interaction) (expires_at : Nat) : Fields :=
  .ofEntries
    [("rawQuery", some (.string i.raw_query)), ("expiresAt", some (ts expires_at)),
      ("accountId", i.account_id.map .string), ("authTime", i.auth_time.map .integer),
      ("requestUri", i.request_uri.map .string)]

def Interaction.from_fields (uid : String) (f : Fields) : Interaction where
  uid := uid
  raw_query := (field_str f "rawQuery").getD ""
  account_id := field_str f "accountId"
  auth_time := field_u64 f "authTime"
  request_uri := field_str f "requestUri"

def Session.to_fields (s : Session) (expires_at : Nat) : Fields :=
  .ofEntries
    [("accountId", some (.string s.account_id)), ("authTime", some (.integer s.auth_time)),
      ("expiresAt", some (ts expires_at))]

def Session.from_fields (sid : String) (f : Fields) : Session where
  sid := sid
  account_id := (field_str f "accountId").getD ""
  auth_time := (field_u64 f "authTime").getD 0

def AuthorizationCode.to_fields (c : AuthorizationCode) : Fields :=
  .ofEntries
    [("clientId", some (.string c.client_id)), ("accountId", some (.string c.account_id)),
      ("redirectUri", some (.string c.redirect_uri)), ("scope", some (.string c.scope)),
      ("authTime", some (.integer c.auth_time)), ("expiresAt", some (ts c.expires_at)), ("used", some (.boolean false)),
      ("nonce", c.nonce.map .string), ("codeChallenge", c.code_challenge.map .string),
      ("codeChallengeMethod", c.code_challenge_method.map .string), ("acr", c.acr.map .string),
      ("dpopJkt", c.dpop_jkt.map .string), ("resource", c.resource.map .string)]

def AuthorizationCode.from_fields (code : String) (f : Fields) : AuthorizationCode where
  code := code
  client_id := (field_str f "clientId").getD ""
  account_id := (field_str f "accountId").getD ""
  redirect_uri := (field_str f "redirectUri").getD ""
  scope := (field_str f "scope").getD ""
  nonce := field_str f "nonce"
  code_challenge := field_str f "codeChallenge"
  code_challenge_method := field_str f "codeChallengeMethod"
  auth_time := (field_u64 f "authTime").getD 0
  acr := field_str f "acr"
  dpop_jkt := field_str f "dpopJkt"
  resource := field_str f "resource"
  expires_at := (field_ts_secs f "expiresAt").getD 0

def AccessToken.to_fields (t : AccessToken) (expires_at : Nat) : Fields :=
  .ofEntries
    [("clientId", some (.string t.client_id)), ("accountId", some (.string t.account_id)),
      ("scope", some (.string t.scope)), ("expiresAt", some (ts expires_at)), ("jkt", t.jkt.map .string),
      ("aud", t.aud.map .string), ("acr", t.acr.map .string), ("authTime", t.auth_time.map .integer),
      ("authorizationDetails", t.authorization_details.map .string),
      ("mandateConsumed", if t.mandate_consumed then some (.boolean true) else none)]

def AccessToken.from_fields (token : String) (f : Fields) : AccessToken where
  token := token
  client_id := (field_str f "clientId").getD ""
  account_id := (field_str f "accountId").getD ""
  scope := (field_str f "scope").getD ""
  jkt := field_str f "jkt"
  aud := field_str f "aud"
  acr := field_str f "acr"
  auth_time := field_u64 f "authTime"
  authorization_details := (field_str f "authorizationDetails").filter (!·.isEmpty)
  mandate_consumed := (field_bool f "mandateConsumed").getD false

def RefreshToken.to_fields (t : RefreshToken) (expires_at : Nat) : Fields :=
  .ofEntries
    [("clientId", some (.string t.client_id)), ("accountId", some (.string t.account_id)),
      ("scope", some (.string t.scope)), ("expiresAt", some (ts expires_at)), ("resource", t.resource.map .string),
      ("jkt", t.jkt.map .string), ("acr", t.acr.map .string), ("authTime", t.auth_time.map .integer),
      ("familyId", some (.string t.family_id)), ("used", some (.boolean t.used)),
      ("replacedBy", t.replaced_by.map .string)]

def rt_from_fields (token : String) (f : Fields) : RefreshToken where
  token := token
  client_id := (field_str f "clientId").getD ""
  account_id := (field_str f "accountId").getD ""
  scope := (field_str f "scope").getD ""
  resource := field_str f "resource"
  jkt := field_str f "jkt"
  acr := field_str f "acr"
  auth_time := field_u64 f "authTime"
  family_id := (field_str f "familyId").getD ""
  used := (field_bool f "used").getD false
  replaced_by := field_str f "replacedBy"

def BackchannelAuthRequest.fields (r : BackchannelAuthRequest) : Fields :=
  .ofEntries
    [("clientId", some (.string r.client_id)), ("account", some (.string r.account)), ("scope", some (.string r.scope)),
      ("bindingMessage", some (.string r.binding_message)), ("status", some (.string r.status.as_str)),
      ("expiresAt", some (ts r.expires_at)), ("authorizationDetails", r.authorization_details.map .string)]

def BackchannelAuthRequest.from_fields (auth_req_id : String) (f : Fields) : BackchannelAuthRequest where
  auth_req_id := auth_req_id
  client_id := (field_str f "clientId").getD ""
  account := (field_str f "account").getD ""
  scope := (field_str f "scope").getD ""
  binding_message := (field_str f "bindingMessage").getD ""
  status := .parse ((field_str f "status").getD "pending")
  expires_at := (field_ts_secs f "expiresAt").getD 0
  authorization_details := (field_str f "authorizationDetails").filter (!·.isEmpty)

/-- How long Firestore keeps a history entry, in seconds. -/
def HISTORY_RETENTION_SECS : Nat := 90 * 86400

def CibaHistoryEntry.fields (e : CibaHistoryEntry) : Fields :=
  .ofEntries
    [("account", some (.string e.account)), ("clientId", some (.string e.client_id)), ("scope", some (.string e.scope)),
      ("bindingMessage", some (.string e.binding_message)), ("outcome", some (.string e.outcome)),
      ("resolvedAt", some (ts e.resolved_at)), ("expireAt", some (ts (e.resolved_at + HISTORY_RETENTION_SECS))),
      ("authorizationDetails", e.authorization_details.map .string)]

def CibaHistoryEntry.from_fields (auth_req_id : String) (f : Fields) : CibaHistoryEntry where
  auth_req_id := auth_req_id
  account := (field_str f "account").getD ""
  client_id := (field_str f "clientId").getD ""
  scope := (field_str f "scope").getD ""
  binding_message := (field_str f "bindingMessage").getD ""
  authorization_details := (field_str f "authorizationDetails").filter (!·.isEmpty)
  outcome := (field_str f "outcome").getD ""
  resolved_at := (field_ts_secs f "resolvedAt").getD 0

/-! ### `FirestoreStore` -/

/-- Whether a document is past its expiry at a clock reading. One without an
    expiry is. -/
def expired_at (f : Fields) (now : Nat) : Bool := (field_ts_secs f "expiresAt").getD 0 < now

def doc_expired (f : Fields) : Prog Fs Bool := do
  let now ← fs .now
  return expired_at f now

namespace FirestoreStore

/-- Reads a document for `get_*`: one that cannot be read or is expired is no document. -/
def get_unexpired (col : Col) (id : String) : Prog Fs (Option Fields) := do
  match ← fs (.get_doc col id) with
  | .ok (some f) => if ← doc_expired f then return none else return some f
  | _ => return none

/-- Deletes a document for the one caller that read it last. -/
def cas_take (col : Col) (id : String) : Prog Fs (Option Fields) := do
  match ← fs (.get_doc_with_update_time col id) with
  | .ok (some (f, update_time)) =>
    match ← fs (.delete_doc_if_unchanged col id update_time) with
    | .ok true => return some f
    | _ => return none
  | _ => return none

def save_interaction (i : Interaction) : Prog Fs Unit := do
  let now ← fs .now
  let _ ← fs (.set_doc .interactions i.uid (Interaction.to_fields i (now + INTERACTION_TTL_SECS)))
  return ()

def get_interaction (uid : String) : Prog Fs (Option Interaction) := do
  return (← get_unexpired .interactions uid).map (Interaction.from_fields uid)

def consume_interaction (uid : String) : Prog Fs Bool := do
  return (← cas_take .interactions uid).isSome

def save_session (s : Session) : Prog Fs Unit := do
  let now ← fs .now
  let _ ← fs (.set_doc .sessions s.sid (Session.to_fields s (now + SESSION_TTL_SECS)))
  return ()

def get_session (sid : String) : Prog Fs (Option Session) := do
  return (← get_unexpired .sessions sid).map (Session.from_fields sid)

def delete_session (sid : String) : Prog Fs Unit := do
  let _ ← fs (.delete_doc .sessions sid)
  return ()

def save_code (c : AuthorizationCode) : Prog Fs Unit := do
  let _ ← fs (.set_doc .authCodes c.code (AuthorizationCode.to_fields c))
  return ()

/-- A document that may not be named. -/
def delete_named (col : Col) : Option String → Prog Fs Unit
  | some id => do
    let _ ← fs (.delete_doc col id)
    return ()
  | none => return ()

/-- The first caller marks the code used; a replay revokes what the code issued. -/
def take_code (code : String) : Prog Fs (Option AuthorizationCode) := do
  match ← fs (.get_doc_with_update_time .authCodes code) with
  | .ok (some (f, update_time)) =>
    if (field_bool f "used").getD false then
      delete_named .accessTokens (field_str f "issuedAccessToken")
      delete_named .refreshTokens (field_str f "issuedRefreshToken")
      return none
    let f := f.set "used" (.boolean true)
    match ← fs (.set_doc_if_unchanged .authCodes code f update_time) with
    | .ok true => return some (AuthorizationCode.from_fields code f)
    | _ => return none
  | _ => return none

def link_fields (access_token : String) (refresh_token : Option String) : Fields :=
  .ofEntries [("issuedAccessToken", some (.string access_token)), ("issuedRefreshToken", refresh_token.map .string)]

def link_issued_tokens (code access_token : String) (refresh_token : Option String) : Prog Fs Unit := do
  let _ ← fs (.merge_doc .authCodes code (link_fields access_token refresh_token))
  return ()

def save_access_token (t : AccessToken) : Prog Fs Unit := do
  let now ← fs .now
  let _ ← fs (.set_doc .accessTokens t.token (AccessToken.to_fields t (now + ACCESS_TTL_SECS)))
  return ()

def get_access_token (token : String) : Prog Fs (Option AccessToken) := do
  return (← get_unexpired .accessTokens token).map (AccessToken.from_fields token)

def revoke_access_token (token : String) : Prog Fs Unit := do
  let _ ← fs (.delete_doc .accessTokens token)
  return ()

def consume_mandate_if_unused (token : String) : Prog Fs (Except String Bool) := do
  match ← fs (.get_doc_with_update_time .accessTokens token) with
  | .error e => return .error e
  | .ok none => return .ok false
  | .ok (some (f, update_time)) =>
    if ← doc_expired f then
      return .ok false
    if (field_bool f "mandateConsumed").getD false then
      return .ok false
    fs (.set_doc_if_unchanged .accessTokens token (f.set "mandateConsumed" (.boolean true)) update_time)

def save_refresh_token (t : RefreshToken) : Prog Fs Unit := do
  let now ← fs .now
  let _ ← fs (.set_doc .refreshTokens t.token (RefreshToken.to_fields t (now + REFRESH_TTL_SECS)))
  return ()

def get_refresh_token (token : String) : Prog Fs (Option RefreshToken) := do
  return (← get_unexpired .refreshTokens token).map (rt_from_fields token)

/-- Unlike the memory store, it does not look at the expiry, and it keeps an old
    link if there is no successor. -/
def mark_refresh_used (token : String) (replaced_by : Option String) : Prog Fs Bool := do
  match ← fs (.get_doc_with_update_time .refreshTokens token) with
  | .ok (some (f, ut)) =>
    if (field_bool f "used").getD false then
      return false
    let f := (f.set "used" (.boolean true)).put "replacedBy" (replaced_by.map .string)
    match ← fs (.set_doc_if_unchanged .refreshTokens token f ut) with
    | .ok won => return won
    | .error _ => return false
  | _ => return false

/-- The walk of `revoke_refresh_family`. -/
def revoke_walk : Nat → Option String → Prog Fs Unit
  | 0, _ => return ()
  | _ + 1, none => return ()
  | guard + 1, some t => do
    let next := match ← fs (.get_doc .refreshTokens t) with
      | .ok (some f) => field_str f "replacedBy"
      | _ => none
    let _ ← fs (.delete_doc .refreshTokens t)
    revoke_walk guard next

def revoke_refresh_family (start_token : String) : Prog Fs Unit := revoke_walk 64 (some start_token)

def revoke_refresh_token (token : String) : Prog Fs Unit := do
  let _ ← fs (.delete_doc .refreshTokens token)
  return ()

/-- The operations of the `Store` trait. Firestore removes expired documents
    itself, so `sweep_expired` is the trait's default and does nothing. -/
def run : (o : StoreOp) → Prog Fs o.Res
  | .save_interaction i => save_interaction i
  | .get_interaction uid => get_interaction uid
  | .consume_interaction uid => consume_interaction uid
  | .save_session s => save_session s
  | .get_session sid => get_session sid
  | .delete_session sid => delete_session sid
  | .save_code c => save_code c
  | .take_code code => take_code code
  | .link_issued_tokens code access_token refresh_token => link_issued_tokens code access_token refresh_token
  | .save_access_token t => save_access_token t
  | .get_access_token token => get_access_token token
  | .revoke_access_token token => revoke_access_token token
  | .consume_mandate_if_unused token => consume_mandate_if_unused token
  | .save_refresh_token t => save_refresh_token t
  | .get_refresh_token token => get_refresh_token token
  | .revoke_refresh_token token => revoke_refresh_token token
  | .mark_refresh_used token replaced_by => mark_refresh_used token replaced_by
  | .revoke_refresh_family start_token => revoke_refresh_family start_token
  | .sweep_expired => return ()

end FirestoreStore

/-! ### `FirestoreCibaStore` -/

namespace FirestoreCibaStore

def create (auth_req_id client_id account scope binding_message : String) (authorization_details : Option String) :
    Prog Fs (Except String String) := do
  let now ← fs .now
  let req : BackchannelAuthRequest :=
    ⟨auth_req_id, client_id, account, scope, binding_message, .Pending, now + CIBA_TTL_SECS, authorization_details⟩
  match ← fs (.set_doc .cibaRequests auth_req_id (BackchannelAuthRequest.fields req)) with
  | .ok () => return .ok auth_req_id
  | .error e => return .error e

def get (auth_req_id : String) : Prog Fs (Except String (Option BackchannelAuthRequest)) := do
  return (← fs (.get_doc .cibaRequests auth_req_id)).map fun doc =>
    doc.map (BackchannelAuthRequest.from_fields auth_req_id)

def transition_if_pending (auth_req_id : String) (status : CibaStatus) : Prog Fs (Except String Bool) := do
  match ← fs (.get_doc_with_update_time .cibaRequests auth_req_id) with
  | .error e => return .error e
  | .ok none => return .ok false
  | .ok (some (fields, update_time)) =>
    let req := BackchannelAuthRequest.from_fields auth_req_id fields
    if req.status ≠ .Pending then
      return .ok false
    fs (.set_doc_if_unchanged .cibaRequests auth_req_id (BackchannelAuthRequest.fields { req with status }) update_time)

def consume_if_approved (auth_req_id : String) : Prog Fs (Except String (Option BackchannelAuthRequest)) := do
  match ← fs (.get_doc_with_update_time .cibaRequests auth_req_id) with
  | .error e => return .error e
  | .ok none => return .ok none
  | .ok (some (fields, update_time)) =>
    let req := BackchannelAuthRequest.from_fields auth_req_id fields
    if req.status ≠ .Approved then
      return .ok none
    match ← fs (.delete_doc_if_unchanged .cibaRequests auth_req_id update_time) with
    | .error e => return .error e
    | .ok true => return .ok (some req)
    | .ok false => return .ok none

def delete (auth_req_id : String) : Prog Fs (Except String Unit) := fs (.delete_doc .cibaRequests auth_req_id)

/-- The pending requests of a result that are not expired, each against its own
    reading of the clock. -/
def keep_pending : List (String × Fields) → Prog Fs (List BackchannelAuthRequest)
  | [] => return []
  | (id, f) :: rows => do
    let r := BackchannelAuthRequest.from_fields id f
    if r.status = .Pending then
      let now ← fs .now
      let kept ← keep_pending rows
      return if r.expired now then kept else r :: kept
    else keep_pending rows

def list_pending (account : String) : Prog Fs (Except String (List BackchannelAuthRequest)) := do
  match ← fs (.query_eq .cibaRequests "account" account) with
  | .error e => return .error e
  | .ok rows => return .ok (← keep_pending rows)

def record_history (entry : CibaHistoryEntry) : Prog Fs (Except String Unit) :=
  fs (.set_doc .cibaHistory entry.auth_req_id (CibaHistoryEntry.fields entry))

def list_history (account : String) (limit : Nat) : Prog Fs (Except String (List CibaHistoryEntry)) := do
  match ← fs (.query_eq .cibaHistory "account" account) with
  | .error e => return .error e
  | .ok rows =>
    let v := rows.map fun row => CibaHistoryEntry.from_fields row.1 row.2
    return .ok ((v.mergeSort fun a b => b.resolved_at ≤ a.resolved_at).take limit)

/-- Moves the expired pending requests of a result into the history. -/
def sweep_rows (t : Nat) : List (String × Fields) → Prog Fs Nat
  | [] => return 0
  | (id, f) :: rows => do
    let req := BackchannelAuthRequest.from_fields id f
    if req.status = .Pending then
      let now ← fs .now
      if req.expired now then
        let _ ← record_history (.from_request req "expired" t)
        let _ ← delete id
        return (← sweep_rows t rows) + 1
      else sweep_rows t rows
    else sweep_rows t rows

def sweep_expired (account : String) : Prog Fs (Except String Nat) := do
  match ← fs (.query_eq .cibaRequests "account" account) with
  | .error e => return .error e
  | .ok rows =>
    let t ← fs .now
    return .ok (← sweep_rows t rows)

def run : (o : CibaOp) → Prog Fs o.Res
  | .create auth_req_id client_id account scope binding_message authorization_details =>
    create auth_req_id client_id account scope binding_message authorization_details
  | .get auth_req_id => get auth_req_id
  | .transition_if_pending auth_req_id status => transition_if_pending auth_req_id status
  | .consume_if_approved auth_req_id => consume_if_approved auth_req_id
  | .delete auth_req_id => delete auth_req_id
  | .list_pending account => list_pending account
  | .record_history entry => record_history entry
  | .list_history account limit => list_history account limit
  | .sweep_expired account => sweep_expired account

end FirestoreCibaStore

/-! ### Initial access tokens -/

/-- Deletes a token that was peeked at, for the one caller that saw it last. -/
def dcr_store.consume_iat (hash : String) (update_time : Nat) : Prog Fs (Except String Bool) :=
  fs (.delete_doc_if_unchanged .dcrTokens hash update_time)

/-- The storage interface on Firestore. -/
def production : (o : BackendOp) → Prog Fs o.Res
  | .store o => FirestoreStore.run o
  | .ciba o => FirestoreCibaStore.run o
  | .now => fs .now

/-- Every operation of the interface, run to its end with nothing in between. -/
def storage : Prog.Handler Backend Db := fun o db => Prog.run exec (production o) db

end RustOp.Firestore
