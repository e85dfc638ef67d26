import RustOp.Web.Login

/-!
Registering a passkey: whoever shows a token for an address makes a passkey for
it. Invitations are such tokens, but only for addresses without an account.
These pages talk to Firestore only.
-/
namespace RustOp.Web
open RustOp.Effects RustOp.Text RustOp.Firestore registration

/-- An invitation is refused once its address is registered. -/
def refuse_invite_for_registered (token : String) : Prog Fs (Option Response) := do
  match ← peek_invite token with
  | .error _ => return some (.text 500 "error")
  | .ok none => return none
  | .ok (some (email, _)) =>
    match ← account_exists email with
    | .ok false => return none
    | .ok true => return some (.text 409 "already registered")
    | .error _ => return some (.text 500 "error")

/-- What a browser needs to make a passkey. -/
def creation_options (p : Site) (challenge email account_id : String) (existing : Option registration.Credential) : Json :=
  .obj [("challenge", .str challenge), ("rp", .obj [("id", .str p.rp_id), ("name", .str "rust-op")]),
    ("user", .obj [("id", .str (p.b64url account_id.toUTF8.toList)), ("name", .str email), ("displayName", .str email)]),
    ("pubKeyCredParams", .arr [.obj [("type", .str "public-key"), ("alg", .num (-7))]]),
    ("authenticatorSelection", .obj [("requireResidentKey", .bool false), ("residentKey", .str "preferred"),
      ("userVerification", .str "preferred")]),
    ("attestation", .str "none"), ("timeout", .num 60000),
    ("excludeCredentials", .arr ((existing.map fun c =>
      .obj [("type", .str "public-key"), ("id", .str c.credential_id)]).toList))]

/-- A registered address keeps its account identifier; a new one gets a fresh one. -/
def chosen_account_id (uuid : Draw → String) (existing : Option registration.Credential) : String :=
  ((existing.map Credential.account_id).filter (!·.isEmpty)).getD (uuid .account_id)

def register_passkey_options (p : Site) (uuid : Draw → String) (token : String) : Prog Fs Response := do
  if !p.has_firestore then
    return .text 503 "no firestore"
  if let some r ← refuse_invite_for_registered token then
    return r
  match ← peek_email_challenge token with
  | .error _ => return .text 500 "error"
  | .ok none => return .text 400 "invalid or expired token"
  | .ok (some email) =>
  let existing := (← get_credential email).toOption.join
  let account_id := chosen_account_id uuid existing
  match ← create_webauthn_challenge (uuid .challenge) ⟨email, .Reg, "", account_id⟩ with
  | .error _ => return .text 500 "error"
  | .ok challenge => return .json 200 (creation_options p challenge email account_id existing)

structure RegVerifyReq where
  token : String
  response : webauthn.RegResponse
  name : Option String
deriving DecidableEq, Repr

def NAME_MAX_CHARS : Nat := 80

/-- Characters that turn the direction of writing. -/
def is_bidi_control (c : Char) : Bool :=
  c.toNat == 0x061c || c.toNat == 0x200e || c.toNat == 0x200f || (0x202a ≤ c.toNat && c.toNat ≤ 0x202e) ||
  (0x2066 ≤ c.toNat && c.toNat ≤ 0x2069)

/-- `char::is_control` -/
def is_control (c : Char) : Bool := c.toNat < 0x20 || (0x7f ≤ c.toNat && c.toNat < 0xa0)

/-- A name without white space at its ends. An empty one is none. -/
def normalize_name (raw : Option String) : Except String (Option String) :=
  let name := (raw.map trim).getD ""
  if name.isEmpty then .ok none
  else if name.length > NAME_MAX_CHARS || name.toList.any fun c => is_control c || is_bidi_control c then
    .error "invalid name"
  else .ok (some name)

/-- A registration without a name is refused if it comes from an invitation. -/
def require_name (name : Option String) (token : String) : Prog Fs (Option Response) := do
  if name.isSome then
    return none
  match ← peek_invite token with
  | .ok (some _) => return some (plain_error "name required")
  | .ok none => return none
  | .error _ => return some (.text 500 "error")

/-- Saves the name of whoever registered, if there is one. Whether that works is
    not looked at. -/
def save_name (account_id : String) : Option String → Prog Fs Unit
  | some name => do
    let _ ← save_profile account_id [("name", name)]
    return ()
  | none => return ()

/-- The challenge that a response names, and what its check against that challenge gives. -/
def checked_response (p : Site) (r : webauthn.RegResponse) : Option (String × Except String webauthn.RegOutcome) :=
  (webauthn.extract_challenge p r.client_data_json).map fun c => (c, webauthn.verify_registration p r c p.origin p.rp_id)

/-- The end of a registration, once the address is known and its token is spent. -/
def register_as (home : String) (name : Option String) (email1 : String)
    (response : Option (String × Except String webauthn.RegOutcome)) : Prog Fs Response := do
  let some (challenge, verified) := response | return .text 400 "no challenge"
  match ← consume_webauthn_challenge challenge with
  | .error _ => return .text 500 "error"
  | .ok none => return .text 400 "challenge invalid/expired"
  | .ok (some t) =>
  if t.kind ≠ .Reg ∨ t.email ≠ email1 ∨ t.account_id.isEmpty then
    return .text 400 "challenge context mismatch"
  match verified with
  | .error e => return .text 400 ("registration failed: " ++ e)
  | .ok outcome =>
  match ← save_credential email1 t.account_id outcome with
  | .error _ => return .text 500 "error"
  | .ok () =>
  save_name t.account_id name
  return .json 201 (.obj [("ok", .bool true), ("redirect", .str home)])

/-- The requests of a registration, for a name and a response that were looked at. -/
def register_with (home token : String) (name : Except String (Option String))
    (response : Option (String × Except String webauthn.RegOutcome)) : Prog Fs Response := do
  if let some r ← refuse_invite_for_registered token then
    return r
  match name with
  | .error e => return plain_error e
  | .ok name =>
  if let some r ← require_name name token then
    return r
  match ← consume_email_challenge token with
  | .error _ => return .text 500 "error"
  | .ok none => return .text 400 "invalid or expired token"
  | .ok (some email1) => register_as home name email1 response

def register_passkey_verify (p : Site) (req : RegVerifyReq) : Prog Fs Response := do
  if !p.has_firestore then
    return .text 503 "no firestore"
  register_with (p.path "/") req.token (normalize_name req.name) (checked_response p req.response)

/-! ### What the pages do -/

section uses
variable {allowed : FsOp → Prop} (reads : ∀ o : FsOp, o.writes = none → allowed o)
include reads

theorem refuse_invite_uses (token : String) : (refuse_invite_for_registered token).Uses allowed := by
  refine (peek_invite_uses reads token).bind fun r => ?_
  rcases r with e | _ | ⟨email, page⟩
  · trivial
  · trivial
  · refine (account_exists_uses reads email).bind fun r => ?_
    rcases r with e | _ | _ <;> trivial

theorem require_name_uses (name : Option String) (token : String) : (require_name name token).Uses allowed := by
  unfold require_name
  split
  · trivial
  · refine (peek_invite_uses reads token).bind fun r => ?_
    rcases r with e | _ | ⟨email, page⟩ <;> trivial

theorem save_name_uses {account_id : String} (writes : ∀ f, allowed (.set_doc .profiles account_id f)) (name : Option String) :
    (save_name account_id name).Uses allowed := by
  cases name with
  | none => trivial
  | some name => exact (save_profile_uses reads writes _).bind fun _ => trivial

theorem register_passkey_options_uses {uuid : Draw → String}
    (writes : ∀ f, allowed (.set_doc .webauthnChallenges (uuid .challenge) f)) (p : Site) (token : String) :
    (register_passkey_options p uuid token).Uses allowed := by
  unfold register_passkey_options
  split
  · trivial
  · refine (refuse_invite_uses reads token).bind fun refused => ?_
    cases refused with
    | some r => trivial
    | none =>
      refine (peek_email_challenge_uses reads token).bind fun r => ?_
      rcases r with e | _ | email
      · trivial
      · trivial
      · refine (get_credential_uses reads email).bind fun existing => ?_
        refine (create_webauthn_challenge_uses reads writes _).bind fun r => ?_
        rcases r with e | challenge <;> trivial

end uses

end RustOp.Web
