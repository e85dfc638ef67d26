import RustOp.Web.Login

/-!
Approving backchannel requests with a passkey, and rejecting them.
-/
namespace RustOp.Web
open RustOp.Effects RustOp.Text registration

def ciba_approve_options (p : Site) (uuid : Draw → String) (auth_req_id : String) : Prog Host Response := do
  if !p.has_firestore then
    return .text 503 "no firestore"
  let .ok (some req) ← ciba (.get auth_req_id) | return .text 404 "request not found"
  if req.expired (← now) then
    return .text 404 "request not found"
  let .ok (some email) ← firestore (find_email_by_account_id req.account) | return .text 400 "no passkey"
  let .ok (some cred) ← firestore (get_credential email) | return .text 400 "no passkey"
  match ← firestore (create_webauthn_challenge (uuid .challenge) ⟨email, .CibaApprove, auth_req_id, ""⟩) with
  | .error _ => return .text 500 "error"
  | .ok challenge =>
    return .json 200 (assertion_options p challenge "required" [public_key cred.credential_id])

/-- The credential of whoever the challenge was for, if it belongs to an account. -/
def approver (email : String) : Prog Host (Option registration.Credential) := do
  match ← firestore (get_credential email) with
  | .ok (some c) => return if c.account_id.isEmpty then none else some c
  | _ => return none

/-- The request to approve, if it is for this account and not expired. -/
def approvable (auth_req_id account : String) : Prog Host (Option BackchannelAuthRequest) := do
  match ← ciba (.get auth_req_id) with
  | .ok (some r) =>
    if r.account ≠ account then
      return none
    if r.expired (← now) then
      return none
    return some r
  | _ => return none

/-- Moves a pending request to its outcome and notes that in the history. Only
    the first one to do so succeeds. -/
def resolve_pending (auth_req_id : String) (status : CibaStatus) (outcome : String) (req : Option BackchannelAuthRequest)
    (done : Response) : Prog Host Response := do
  match ← ciba (.transition_if_pending auth_req_id status) with
  | .ok true =>
    if let some r := req then
      let entry := CibaHistoryEntry.from_request r outcome (← now)
      let _ ← ciba (.record_history entry)
    return done
  | .ok false => return .text 409 "already handled"
  | .error _ => return .text 500 "error"

/-- The end of an approval, once the challenge is known to be for this request.
    The key of the account has to sign, verified by the user. -/
def approve_as (p : Site) (auth_req_id challenge email : String) (req : AuthVerifyReq) : Prog Host Response := do
  let some cred ← approver email | return .text 400 "no passkey"
  let some ciba_req ← approvable auth_req_id cred.account_id | return .text 404 "request not found"
  if cred.credential_id ≠ req.id then
    return .text 400 "credential id mismatch"
  match webauthn.verify_authentication p req challenge cred.pub_x cred.pub_y cred.sign_count true with
  | .error e => return .text 401 ("passkey verify failed: " ++ e)
  | .ok n =>
  let _ ← firestore (update_sign_count email n)
  if cred.disabled then
    return .text 403 "account disabled"
  resolve_pending auth_req_id .Approved "approved" (some ciba_req) (.json 200 (.obj [("ok", .bool true)]))

def ciba_approve (p : Site) (auth_req_id : String) (req : AuthVerifyReq) : Prog Host Response := do
  if !p.has_firestore then
    return .text 503 "no firestore"
  let some challenge := webauthn.extract_challenge p req.client_data_json | return .text 400 "no challenge"
  match ← firestore (consume_webauthn_challenge challenge) with
  | .error _ => return .text 400 "challenge invalid/expired"
  | .ok none => return .text 400 "challenge invalid/expired"
  | .ok (some t) =>
  if t.kind ≠ .CibaApprove ∨ t.uid ≠ auth_req_id then
    return .text 400 "challenge context mismatch"
  approve_as p auth_req_id challenge t.email req

/-- Whoever knows the request may reject it, but not after it expired. -/
def ciba_reject (auth_req_id : String) : Prog Host Response := do
  let req := (← ciba (.get auth_req_id)).toOption.join
  if let some r := req then
    if r.expired (← now) then
      return .text 409 "expired"
  resolve_pending auth_req_id .Denied "denied" req (.text 204 "")

end RustOp.Web
