import RustOp.Web.AccountAdmin
import RustOp.Web.DcrStore
import RustOp.AdminStore
import RustOp.Effects.History

/-!
The console of the administrators: accounts are frozen, thawed and deleted, the
right to use the console is given and taken, clients get other return addresses,
and initial access tokens are withdrawn. Relying parties that may invite can
freeze accounts too, but not those of administrators.
-/
namespace RustOp.Web
open RustOp.Effects RustOp.Text registration

/-- The console: the codec of the registry, texts in the language of a request,
    and the clients that may invite. -/
structure Console extends Registrar where
  admins : admin_store.Codec
  localize : Headers → String → String
  invite_clients : List String
  to_lowercase : String → String

/-- The account of the session that a cookie names. -/
def session_account (sid : Option String) : Prog Host (Option String) := do
  let some sid := sid | return none
  let session ← store (.get_session sid)
  return session.map Session.account_id

namespace admin

/-- A request to the console, with its session cookie. -/
structure Browser where
  headers : Headers
  sid : Option String

/-- Whoever is signed in and listed as an administrator. -/
def require_admin (p : Console) (b : Browser) : Prog Host (Except Response String) := do
  let some account_id ← session_account b.sid | return .error (.text 401 "login required")
  if !p.has_firestore then
    return .error (.text 503 "admin console unavailable")
  match ← firestore (admin_store.is_admin p.admins account_id) with
  | .ok true => return .ok account_id
  | .ok false => return .error (.text 403 "admin only")
  | .error _ => return .error (.text 503 "admin check failed")

/-- A page of the console, for administrators. -/
def as_admin (p : Console) (b : Browser) (page : String → Prog Firestore.Fs Response) : Prog Host Response := do
  match ← require_admin p b with
  | .error r => return r
  | .ok viewer => firestore (page viewer)

def redirect (p : Console) (path : String) : Response := .redirect (p.path path)

def server_error : Response := .text 500 "internal error"

/-- The address that an account identifier stands for. -/
def with_email (account_id : String) (page : String → Prog Firestore.Fs Response) : Prog Firestore.Fs Response := do
  match ← find_email_by_account_id account_id with
  | .error _ => return server_error
  | .ok none => return .text 404 "user not found"
  | .ok (some email) => page email

/-! ### Accounts -/

def user_disable_as (p : Console) (uuid : Draw → String) (b : Browser) (account_id viewer : String) : Prog Firestore.Fs Response := do
  if account_id = viewer then
    return .text 403 (p.localize b.headers "[[You cannot disable yourself]]")
  with_email account_id fun email => do
  match ← account_admin.disable_account uuid viewer email with
  | .error _ => return server_error
  | .ok _ => return redirect p ("/admin/users/" ++ account_id)

def user_disable (p : Console) (uuid : Draw → String) (b : Browser) (account_id : String) : Prog Host Response :=
  as_admin p b (user_disable_as p uuid b account_id)

def user_enable_as (p : Console) (uuid : Draw → String) (account_id viewer : String) : Prog Firestore.Fs Response :=
  with_email account_id fun email => do
  match ← account_admin.enable_account uuid viewer email with
  | .error _ => return server_error
  | .ok _ => return redirect p ("/admin/users/" ++ account_id)

def user_enable (p : Console) (uuid : Draw → String) (b : Browser) (account_id : String) : Prog Host Response :=
  as_admin p b (user_enable_as p uuid account_id)

def user_delete_as (p : Console) (uuid : Draw → String) (b : Browser) (account_id viewer : String) : Prog Firestore.Fs Response := do
  match ← admin_store.is_admin p.admins account_id with
  | .error _ => return server_error
  | .ok true => return .text 409 (p.localize b.headers "[[Admins cannot be deleted. Revoke admin first]]")
  | .ok false =>
  with_email account_id fun email => do
  match ← account_admin.delete_account uuid viewer email with
  | .error _ => return server_error
  | .ok (.Deleted _) => return redirect p "/admin/users"
  | .ok .NotDisabled =>
    return .text 409 (p.localize b.headers "[[An account that is not disabled cannot be deleted. Disable it first]]")
  | .ok .NotFound => return .text 404 "user not found"

def user_delete (p : Console) (uuid : Draw → String) (b : Browser) (account_id : String) : Prog Host Response :=
  as_admin p b (user_delete_as p uuid b account_id)

/-! ### Administrators -/

def conflict (p : Console) (b : Browser) : Response :=
  .text 409 (p.localize b.headers "[[This conflicted with another change. Please try again]]")

def user_grant_admin_as (p : Console) (uuid : Draw → String) (b : Browser) (account_id viewer : String) :
    Prog Firestore.Fs Response := do
  match ← admin_store.grant_admin p.admins account_id viewer with
  | .error _ => return server_error
  | .ok .Granted =>
    audit_log.record (uuid .audit_log) viewer "grant_admin" account_id ""
    return redirect p ("/admin/users/" ++ account_id)
  | .ok .AlreadyAdmin => return redirect p ("/admin/users/" ++ account_id)
  | .ok .Conflict => return conflict p b

def user_grant_admin (p : Console) (uuid : Draw → String) (b : Browser) (account_id : String) : Prog Host Response :=
  as_admin p b (user_grant_admin_as p uuid b account_id)

def user_revoke_admin_as (p : Console) (uuid : Draw → String) (b : Browser) (account_id viewer : String) :
    Prog Firestore.Fs Response := do
  match ← admin_store.revoke_admin p.admins account_id with
  | .error _ => return server_error
  | .ok .Revoked =>
    audit_log.record (uuid .audit_log) viewer "revoke_admin" account_id ""
    -- Whoever gave up the right could not follow a redirect into the console.
    if account_id = viewer then
      return .text 200 (p.localize b.headers
        "<h1>[[You gave up admin rights]]</h1><p>[[You can no longer access the admin console.]]</p>")
    return redirect p ("/admin/users/" ++ account_id)
  | .ok .NotAdmin => return redirect p ("/admin/users/" ++ account_id)
  | .ok .LastAdminGuard => return .text 409 (p.localize b.headers "[[The last admin cannot be revoked]]")
  | .ok .Conflict => return conflict p b

def user_revoke_admin (p : Console) (uuid : Draw → String) (b : Browser) (account_id : String) : Prog Host Response :=
  as_admin p b (user_revoke_admin_as p uuid b account_id)

/-! ### Clients and tokens -/

/-- The addresses of a form, one in each line that is not blank. -/
def lines (text : String) : List String :=
  (((split '\n' text.toList).flatMap (split '\x0d')).map fun line => trim (String.ofList line)).filter (!·.isEmpty)

def client_set_post_logout_as (p : Console) (uuid : Draw → String) (b : Browser) (client_id text viewer : String) :
    Prog Firestore.Fs Response := do
  let uris := lines text
  match ← dcr_store.load_client_with_version p.toRegistrar client_id with
  | .error _ => return server_error
  | .ok none => return .text 404 "client not found"
  | .ok (some (client, update_time)) =>
  match dcr.check_admin_post_logout_uris uris client.redirect_uris with
  | .error msg => return .text 400 msg
  | .ok () =>
  match ← dcr_store.put_client_if_unchanged p.toRegistrar { client with post_logout_redirect_uris := uris } update_time with
  | .error _ => return server_error
  | .ok false =>
    return .text 409 (p.localize b.headers "[[This client was changed by another update. Reopen it and try again.]]")
  | .ok true =>
    audit_log.record (uuid .audit_log) viewer "set_post_logout_redirect_uris" client_id (" ".intercalate uris)
    return redirect p ("/admin/clients/" ++ client_id)

def client_set_post_logout (p : Console) (uuid : Draw → String) (b : Browser) (client_id text : String) : Prog Host Response :=
  as_admin p b (client_set_post_logout_as p uuid b client_id text)

/-- A token that is gone, or was written since the list was shown, is no error. -/
def iat_revoke_as (p : Console) (uuid : Draw → String) (hash : String) (update_time : Nat) (viewer : String) :
    Prog Firestore.Fs Response := do
  match ← Firestore.dcr_store.consume_iat hash update_time with
  | .error _ => return server_error
  | .ok true =>
    audit_log.record (uuid .audit_log) viewer "revoke_iat" hash ""
    return redirect p "/admin/iats"
  | .ok false => return redirect p "/admin/iats"

def iat_revoke (p : Console) (uuid : Draw → String) (b : Browser) (hash : String) (update_time : Nat) : Prog Host Response :=
  as_admin p b (iat_revoke_as p uuid hash update_time)

end admin

/-! ### Relying parties -/

/-- A confidential client that may invite, and the address it speaks of. -/
def authorize_invite_client (p : Console) (headers : Headers) (form : Form) : Prog Host (Except Response (Client × String)) := do
  match ← authenticate_client p.toServer headers form with
  | .error e => return .error (.oauth_error e)
  | .ok client =>
  if client.is_public || !p.invite_clients.any (· == client.client_id) then
    return .error (.text 403 "client not allowed")
  let email := ((form.get "email").map fun e => p.to_lowercase (trim e)).getD ""
  if '@' ∉ email.toList ∨ byte_len email > 254 then
    return .error (plain_error "invalid email")
  return .ok (client, email)

def status (s : String) : Json := .obj [("status", .str s)]

/-- Who is listed as an administrator is not frozen. -/
def refuse_admin (p : Console) (email : String) : Prog Firestore.Fs (Option Response) := do
  match ← get_credential email with
  | .error _ => return some (.text 500 "error")
  | .ok none => return none
  | .ok (some cred) =>
    match ← admin_store.is_admin p.admins cred.account_id with
    | .ok true => return some (.json 409 (status "protected"))
    | .ok false => return none
    | .error _ => return some (.text 500 "error")

def account_disable_as (p : Console) (uuid : Draw → String) (client : Client) (email : String) : Prog Firestore.Fs Response := do
  if let some r ← refuse_admin p email then
    return r
  match ← account_admin.disable_account uuid ("client:" ++ client.client_id) email with
  | .ok (.Disabled _) => return .json 200 (status "disabled")
  | .ok (.AlreadyDisabled _) => return .json 200 (status "already_disabled")
  | .ok .NotFound => return .json 200 (status "not_found")
  | .error _ => return .text 500 "error"

def account_disable (p : Console) (uuid : Draw → String) (headers : Headers) (form : Form) : Prog Host Response := do
  if !p.has_firestore then
    return .text 503 "no firestore"
  match ← authorize_invite_client p headers form with
  | .error r => return r
  | .ok (client, email) => firestore (account_disable_as p uuid client email)

/-! ### What the pages do -/

section uses
variable {allowed : Firestore.FsOp → Prop} (reads : ∀ o : Firestore.FsOp, o.writes = none → allowed o)
include reads

theorem is_admin_uses (j : admin_store.Codec) (account_id : String) : (admin_store.is_admin j account_id).Uses allowed := by
  refine ⟨reads _ rfl, fun r => ?_⟩
  rcases r with e | _ | ⟨fields, update_time⟩ <;> trivial

theorem session_account_uses (jwks : String → String → Option JwkPub) (sid : Option String) :
    ((session_account sid).lower (production jwks)).Uses allowed := by
  cases sid with
  | none => trivial
  | some sid =>
    have within := Firestore.production_uses (.store (.get_session sid))
    have quiet : (Firestore.production (.store (.get_session sid))).Uses allowed :=
      within.mono fun o within => reads o (within.resolve_right id)
    exact quiet.bind fun _ => trivial

theorem require_admin_uses (jwks : String → String → Option JwkPub) (p : Console) (b : admin.Browser) :
    ((admin.require_admin p b).lower (production jwks)).Uses allowed := by
  unfold admin.require_admin
  rw [Prog.lower_bind]
  refine (session_account_uses reads jwks b.sid).bind fun account_id => ?_
  cases account_id with
  | none => trivial
  | some account_id =>
    dsimp only
    split
    · trivial
    · rw [Prog.lower_bind, lower_firestore]
      refine (is_admin_uses reads p.admins account_id).bind fun r => ?_
      rcases r with e | _ | _ <;> trivial

end uses

/-- An administrator sees the page. -/
theorem run_as_admin {jwks : String → String → Option JwkPub} {p : Console} {b : admin.Browser}
    {page : String → Prog Firestore.Fs Response} {db : Firestore.Db} {viewer : String}
    (signed : (Prog.run Firestore.exec ((admin.require_admin p b).lower (production jwks)) db).1.toOption = some viewer) :
    Prog.run Firestore.exec ((admin.as_admin p b page).lower (production jwks)) db = Prog.run Firestore.exec (page viewer) db := by
  have same := Firestore.run_of_reads (require_admin_uses (fun _ => id) jwks p b) db
  have answer := Checks.toOption_eq_some.mp signed
  rw [admin.as_admin, Prog.lower_bind, Prog.run_bind, same, answer]
  dsimp only
  rw [lower_firestore]

/-- A page is shown once its viewer is known to be an administrator. -/
theorem as_admin_justified {J : Past Firestore.Fs → Firestore.FsOp → Prop} {R : Past Firestore.Fs → Response → Prop}
    (reads : ∀ past (o : Firestore.FsOp), o.writes = none → J past o) {jwks : String → String → Option JwkPub} {p : Console}
    {b : admin.Browser} {page : String → Prog Firestore.Fs Response} {past : Past Firestore.Fs}
    (refused : ∀ later r, past <:+ later → R later r)
    (shown : ∀ viewer later, past <:+ later → (page viewer).Justified J R later) :
    ((admin.as_admin p b page).lower (production jwks)).Justified J R past := by
  unfold admin.as_admin
  rw [Prog.lower_bind]
  have first := Prog.Justified.of_uses reads (require_admin_uses (fun o none => none) jwks p b) past
  have longer : ((admin.require_admin p b).lower (production jwks)).Justified J (fun later _ => past <:+ later) past :=
    first.mono fun later a extends_ _ => extends_
  refine longer.bind fun later r _ extends_ => ?_
  cases r with
  | error r => exact .ret (refused later r extends_)
  | ok viewer =>
    dsimp only
    rw [lower_firestore]
    exact shown viewer later extends_

end RustOp.Web
