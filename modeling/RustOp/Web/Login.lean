import RustOp.Web.Registration

/-!
Signing in with a passkey: a challenge for a waiting authorization request, and
the assertion that completes it with a session.
-/
namespace RustOp.Web
open RustOp.Effects RustOp.Text registration

/-- An account and the claims that are known of it. -/
structure Account where
  sub : String
  claims : Table String Json

/-- The claims are those that are stored. Who cannot be found has none but the subject. -/
def FirestoreStore.find_account (sub : String) : Prog Firestore.Fs Account := do
  let saved := ((← get_profile sub).toOption).getD ∅
  let claims := (∅ : Table String Json).set "sub" (.str sub)
  let claims := match ← find_email_by_account_id sub with
    | .ok (some email) => (claims.set "email" (.str email)).set "email_verified" (.bool true)
    | _ => claims
  return ⟨sub, saved.pairs.foldl (fun t e => t.set e.1 (.str e.2)) claims⟩

theorem FirestoreStore.find_account_uses {allowed : Firestore.FsOp → Prop} (reads : ∀ o : Firestore.FsOp, o.writes = none → allowed o)
    (sub : String) : (FirestoreStore.find_account sub).Uses allowed := by
  refine (get_profile_uses reads sub).bind fun _ => ?_
  exact (find_email_by_account_id_uses reads sub).bind fun _ => trivial

/-- A passkey as browsers expect it in a list. -/
def public_key (credential_id : String) : Json :=
  .obj [("type", .str "public-key"), ("id", .str credential_id), ("transports", .arr [.str "internal", .str "hybrid"])]

/-- What a browser needs to ask for an assertion. -/
def assertion_options (p : Site) (challenge user_verification : String) (allow : List Json) : Json :=
  .obj [("challenge", .str challenge), ("rpId", .str p.rp_id), ("timeout", .num 60000),
    ("userVerification", .str user_verification), ("allowCredentials", .arr allow)]

/-- Writes the account into the request that waits and opens a session. The
    answer is the value of the session cookie and where the browser goes on. -/
def finalize_login (p : Server) (uuid : Draw → String) (interaction : Interaction) (account_sub : String) :
    Prog Host (String × String) := do
  let auth_time ← now
  store (.save_interaction { interaction with account_id := some account_sub, auth_time := some auth_time })
  let sid := uuid .sid
  store (.save_session { sid, account_id := account_sub, auth_time })
  return (sid, p.path ("/authorize/resume?uid=" ++ interaction.uid))

/-- The passkeys to choose from, and the address the challenge is for. Without a
    known address the browser offers all it has. -/
def login_candidates (email : String) : Prog Host (List Json × String) := do
  if email.isEmpty then
    return ([], "")
  match ← firestore (get_credential email) with
  | .ok (some c) => return ([public_key c.credential_id], email)
  | _ => return ([], "")

def login_passkey_options (p : Site) (uuid : Draw → String) (uid email : String) : Prog Host Response := do
  if !p.has_firestore then
    return .text 503 "no firestore"
  let (allow, chal_email) ← login_candidates (p.to_lowercase (trim email))
  match ← firestore (create_webauthn_challenge (uuid .challenge) ⟨chal_email, .Auth, uid, ""⟩) with
  | .error _ => return .text 500 "error"
  | .ok challenge => return .json 200 (assertion_options p challenge "preferred" allow)

/-- The account identifier that a user handle spells. -/
def handle_account (p : Site) (user_handle : String) : String :=
  ((es256.b64url_decode p.toJose user_handle).toOption.bind p.from_utf8).getD ""

/-- The address of whoever signs in: the one of the user handle, or of the challenge. -/
def login_email (p : Site) (req : AuthVerifyReq) (email : String) : Prog Firestore.Fs (Option String) := do
  match req.user_handle.filter (!·.isEmpty) with
  | some uh =>
    match ← find_email_by_account_id (handle_account p uh) with
    | .ok (some e) => return some e
    | _ => return none
  | none => return some email

/-- The end of a login, once the address is known. An account learns that it is
    frozen only once its key has signed. -/
def login_as (p : Site) (uuid : Draw → String) (uid challenge email : String) (req : AuthVerifyReq) :
    Prog Host (Option String × Response) := do
  match ← firestore (get_credential email) with
  | .error _ => return (none, .text 400 "credential not found")
  | .ok none => return (none, .text 400 "credential not found")
  | .ok (some cred) =>
  if cred.credential_id ≠ req.id then
    return (none, .text 400 "credential id mismatch")
  match webauthn.verify_authentication p req challenge cred.pub_x cred.pub_y cred.sign_count false with
  | .error e => return (none, .text 401 ("passkey verify failed: " ++ e))
  | .ok new_count =>
  let _ ← firestore (update_sign_count email new_count)
  if cred.disabled then
    return (none, .text 403 "account disabled")
  if cred.account_id.isEmpty then
    return (none, .text 400 "account needs re-registration")
  let some interaction ← store (.get_interaction uid) | return (none, .text 400 "interaction not found")
  let account ← firestore (FirestoreStore.find_account cred.account_id)
  let (sid, resume) ← finalize_login p.toServer uuid interaction account.sub
  return (some sid, .json 200 (.obj [("redirect", .str resume)]))

/-- The answer comes with the value of a session cookie, if one was opened. -/
def login_passkey_verify (p : Site) (uuid : Draw → String) (uid : String) (req : AuthVerifyReq) :
    Prog Host (Option String × Response) := do
  if !p.has_firestore then
    return (none, .text 503 "no firestore")
  let some challenge := webauthn.extract_challenge p req.client_data_json
    | return (none, .text 400 "no challenge")
  match ← firestore (consume_webauthn_challenge challenge) with
  | .error _ => return (none, .text 500 "error")
  | .ok none => return (none, .text 400 "challenge invalid/expired")
  | .ok (some t) =>
  if t.kind ≠ .Auth ∨ t.uid ≠ uid then
    return (none, .text 400 "challenge context mismatch")
  let some email ← firestore (login_email p req t.email) | return (none, .text 400 "cannot resolve user")
  if email.isEmpty then
    return (none, .text 400 "cannot resolve user")
  login_as p uuid uid challenge email req

end RustOp.Web
