import RustOp.Web.Webauthn

/-!
Accounts and their passkeys as documents: tokens that prove an address, the
challenges of ceremonies, and the credential of an account.
-/
namespace RustOp.Web
open RustOp.Effects RustOp.Text RustOp.Firestore

/-- Requests to Firestore, as part of a request to the provider. -/
def firestore {α : Type} (p : Prog Fs α) : Prog Host α := p.lower fun o => .call (.firestore o) .ret

/-- On Firestore they are themselves. -/
theorem lower_firestore {α : Type} (jwks : String → String → Option JwkPub) (p : Prog Fs α) :
    (firestore p).lower (production jwks) = p := by
  induction p with
  | ret a => rfl
  | call o k ih => exact congrArg (Prog.call o) (funext ih)

namespace registration

def EMAIL_TTL_SECS : Nat := 30 * 60
def INVITE_TTL_SECS : Nat := 7 * 24 * 60 * 60
def CEREMONY_TTL_SECS : Nat := 5 * 60

/-- Texts that may be a token: they can be looked up without asking for anything else. -/
def token_ok (t : String) : Bool :=
  20 ≤ byte_len t && byte_len t ≤ 100 && t.toList.all fun c => c.isAlphanum || c == '-' || c == '_'

def challenge_expired (f : Fields) : Prog Fs Bool := do
  let now ← Firestore.fs .now
  return expired_at f now

/-! ### Proofs of an address -/

def create_email_challenge (token email : String) : Prog Fs (Except String String) := do
  let now ← Firestore.fs .now
  match ← Firestore.fs (.set_doc .emailChallenges token
      (.ofEntries [("email", some (.string email)), ("expiresAt", some (ts (now + EMAIL_TTL_SECS)))])) with
  | .error e => return .error e
  | .ok () => return .ok token

/-- An invitation names the page to return to. -/
def create_invite_challenge (token email return_to : String) : Prog Fs (Except String String) := do
  let now ← Firestore.fs .now
  match ← Firestore.fs (.set_doc .emailChallenges token
      (.ofEntries [("email", some (.string email)), ("returnTo", some (.string return_to)),
        ("expiresAt", some (ts (now + INVITE_TTL_SECS)))])) with
  | .error e => return .error e
  | .ok () => return .ok token

/-- The address and the page of an invitation, if the token is one. -/
def peek_invite (token : String) : Prog Fs (Except String (Option (String × String))) := do
  if !token_ok token then
    return .ok none
  match ← Firestore.fs (.get_doc .emailChallenges token) with
  | .error e => return .error e
  | .ok none => return .ok none
  | .ok (some f) =>
    if ← challenge_expired f then
      return .ok none
    match field_str f "email", field_str f "returnTo" with
    | some e, some r => return .ok (if r.isEmpty then none else some (e, r))
    | _, _ => return .ok none

def peek_email_challenge (token : String) : Prog Fs (Except String (Option String)) := do
  if !token_ok token then
    return .ok none
  match ← Firestore.fs (.get_doc .emailChallenges token) with
  | .error e => return .error e
  | .ok none => return .ok none
  | .ok (some f) =>
    if ← challenge_expired f then
      return .ok none
    return .ok (field_str f "email")

/-- Reads a document and deletes it; whether deleting it works is not looked at. -/
def read_and_delete (col : Col) (id : String) : Prog Fs (Except String (Option Fields)) := do
  match ← Firestore.fs (.get_doc col id) with
  | .error e => return .error e
  | .ok none => return .ok none
  | .ok (some f) =>
    let _ ← Firestore.fs (.delete_doc col id)
    if ← challenge_expired f then
      return .ok none
    return .ok (some f)

def consume_email_challenge (token : String) : Prog Fs (Except String (Option String)) := do
  if !token_ok token then
    return .ok none
  match ← read_and_delete .emailChallenges token with
  | .error e => return .error e
  | .ok none => return .ok none
  | .ok (some f) => return .ok (field_str f "email")

def account_exists (email : String) : Prog Fs (Except String Bool) := do
  return (← Firestore.fs (.get_doc .accounts email)).map Option.isSome

/-! ### Challenges of ceremonies -/

inductive ChallengeKind where
  | Reg
  | Auth
  | CibaApprove
deriving DecidableEq, Repr

def ChallengeKind.as_str : ChallengeKind → String
  | .Reg => "reg"
  | .Auth => "auth"
  | .CibaApprove => "ciba-approve"

def ChallengeKind.parse (s : String) : Option ChallengeKind :=
  if s = "reg" then some .Reg
  else if s = "auth" then some .Auth
  else if s = "ciba-approve" then some .CibaApprove
  else none

@[simp] theorem ChallengeKind.parse_as_str (kind : ChallengeKind) : ChallengeKind.parse kind.as_str = some kind := by
  cases kind <;> decide

/-- What a challenge was issued for. -/
structure Ceremony where
  email : String
  kind : ChallengeKind
  uid : String
  account_id : String
deriving DecidableEq, Repr

def Ceremony.to_fields (c : Ceremony) (expires_at : Nat) : Fields :=
  .ofEntries
    [("email", some (.string c.email)), ("kind", some (.string c.kind.as_str)), ("uid", some (.string c.uid)),
      ("accountId", some (.string c.account_id)), ("expiresAt", some (ts expires_at))]

/-- A challenge of an unknown kind is none. -/
def Ceremony.from_fields (f : Fields) : Option Ceremony := do
  let kind ← ChallengeKind.parse ((field_str f "kind").getD "")
  return ⟨(field_str f "email").getD "", kind, (field_str f "uid").getD "", (field_str f "accountId").getD ""⟩

def create_webauthn_challenge (challenge : String) (c : Ceremony) : Prog Fs (Except String String) := do
  let now ← Firestore.fs .now
  match ← Firestore.fs (.set_doc .webauthnChallenges challenge (c.to_fields (now + CEREMONY_TTL_SECS))) with
  | .error e => return .error e
  | .ok () => return .ok challenge

def consume_webauthn_challenge (challenge : String) : Prog Fs (Except String (Option Ceremony)) := do
  if !token_ok challenge then
    return .ok none
  match ← read_and_delete .webauthnChallenges challenge with
  | .error e => return .error e
  | .ok none => return .ok none
  | .ok (some f) => return .ok (Ceremony.from_fields f)

/-! ### Credentials -/

/-- The passkey of an account. -/
structure Credential where
  account_id : String
  credential_id : String
  pub_x : String
  pub_y : String
  sign_count : Nat
  disabled : Bool
deriving DecidableEq, Repr

/-- An account without a credential identifier is none. -/
def Credential.from_fields (f : Fields) : Option Credential := do
  let credential_id ← field_str f "credentialId"
  return {
    account_id := (field_str f "accountId").getD ""
    credential_id
    pub_x := (field_str f "pubX").getD ""
    pub_y := (field_str f "pubY").getD ""
    sign_count := ((field_u64 f "signCount").filter (· < 4294967296)).getD 0
    disabled := (field_bool f "disabled").getD false }

def get_credential (email : String) : Prog Fs (Except String (Option Credential)) := do
  return (← Firestore.fs (.get_doc .accounts email)).map fun doc => doc.bind Credential.from_fields

/-- The fields of an account whose passkey was just registered. -/
def account_fields (email account_id : String) (c : webauthn.RegOutcome) (created_at : Nat) (disabled : Bool) : Fields :=
  .ofEntries
    [("email", some (.string email)), ("accountId", some (.string account_id)),
      ("credentialId", some (.string c.credential_id)), ("pubX", some (.string c.pub_x)), ("pubY", some (.string c.pub_y)),
      ("signCount", some (.integer c.sign_count)), ("verified", some (.boolean true)),
      ("createdAt", some (ts created_at)), ("disabled", some (.boolean disabled))]

/-- Writes the whole account, with the flag that was read, and then its index,
    which may fail. -/
def save_credential (email account_id : String) (c : webauthn.RegOutcome) : Prog Fs (Except String Unit) := do
  match ← get_credential email with
  | .error e => return .error e
  | .ok existing =>
    let disabled := (existing.map Credential.disabled).getD false
    let now ← Firestore.fs .now
    match ← Firestore.fs (.set_doc .accounts email (account_fields email account_id c now disabled)) with
    | .error e => return .error e
    | .ok () =>
      let _ ← Firestore.fs (.set_doc .accountsByUuid account_id (.ofEntries [("email", some (.string email))]))
      return .ok ()

def update_sign_count (email : String) (n : Nat) : Prog Fs (Except String Unit) :=
  Firestore.fs (.update_field .accounts email "signCount" (.integer n))

def set_disabled (email : String) (disabled : Bool) : Prog Fs (Except String Unit) :=
  Firestore.fs (.update_field .accounts email "disabled" (.boolean disabled))

def find_email_by_account_id (account_id : String) : Prog Fs (Except String (Option String)) := do
  return (← Firestore.fs (.get_doc .accountsByUuid account_id)).map fun doc => doc.bind fun f => field_str f "email"

/-! ### Profiles -/

/-- The claims that users may edit. -/
def EDITABLE : List String := ["name", "nickname", "birthdate", "gender", "zoneinfo", "locale"]

def get_profile (id : String) : Prog Fs (Except String (Table String String)) := do
  return (← Firestore.fs (.get_doc .profiles id)).map fun doc =>
    match doc with
    | none => ∅
    | some f => .ofEntries (EDITABLE.map fun k => (k, field_str f k))

def save_profile (id : String) (updates : List (String × String)) : Prog Fs (Except String Unit) := do
  match ← get_profile id with
  | .error e => return .error e
  | .ok current =>
    let current := updates.foldl (fun t u => if u.1 ∈ EDITABLE then t.set u.1 u.2 else t) current
    Firestore.fs (.set_doc .profiles id
      (current.pairs.foldl (fun f e => f.set e.1 (.string e.2)) (.ofEntries [("email", some (.string id))])))

/-! ### What the operations do -/

section uses
variable {allowed : FsOp → Prop} (reads : ∀ o : FsOp, o.writes = none → allowed o)
include reads

theorem peek_invite_uses (token : String) : (peek_invite token).Uses allowed := by
  unfold peek_invite
  split
  · trivial
  · refine ⟨reads _ rfl, fun r => ?_⟩
    rcases r with e | _ | f
    · trivial
    · trivial
    · refine ⟨reads _ rfl, fun t => ?_⟩
      show Prog.Uses _ (if expired_at f t = true then _ else _)
      split
      · trivial
      · split <;> trivial

theorem peek_email_challenge_uses (token : String) : (peek_email_challenge token).Uses allowed := by
  unfold peek_email_challenge
  split
  · trivial
  · refine ⟨reads _ rfl, fun r => ?_⟩
    rcases r with e | _ | f
    · trivial
    · trivial
    · refine ⟨reads _ rfl, fun t => ?_⟩
      show Prog.Uses _ (if expired_at f t = true then _ else _)
      split <;> trivial

theorem read_and_delete_uses {col : Col} {id : String} (deletes : allowed (.delete_doc col id)) :
    (read_and_delete col id).Uses allowed := by
  refine ⟨reads _ rfl, fun r => ?_⟩
  rcases r with e | _ | f
  · trivial
  · trivial
  · refine ⟨deletes, fun _ => ⟨reads _ rfl, fun t => ?_⟩⟩
    show Prog.Uses _ (if expired_at f t = true then _ else _)
    split <;> trivial

theorem consume_webauthn_challenge_uses {challenge : String} (deletes : allowed (.delete_doc .webauthnChallenges challenge)) :
    (consume_webauthn_challenge challenge).Uses allowed := by
  unfold consume_webauthn_challenge
  split
  · trivial
  · refine (read_and_delete_uses reads deletes).bind fun r => ?_
    rcases r with e | _ | f <;> trivial

theorem consume_email_challenge_uses {token : String} (deletes : allowed (.delete_doc .emailChallenges token)) :
    (consume_email_challenge token).Uses allowed := by
  unfold consume_email_challenge
  split
  · trivial
  · refine (read_and_delete_uses reads deletes).bind fun r => ?_
    rcases r with e | _ | f <;> trivial

theorem get_credential_uses (email : String) : (get_credential email).Uses allowed := ⟨reads _ rfl, fun _ => trivial⟩

theorem account_exists_uses (email : String) : (account_exists email).Uses allowed := ⟨reads _ rfl, fun _ => trivial⟩

theorem find_email_by_account_id_uses (account_id : String) : (find_email_by_account_id account_id).Uses allowed :=
  ⟨reads _ rfl, fun _ => trivial⟩

theorem get_profile_uses (id : String) : (get_profile id).Uses allowed := ⟨reads _ rfl, fun _ => trivial⟩

theorem save_profile_uses {id : String} (writes : ∀ f, allowed (.set_doc .profiles id f)) (updates : List (String × String)) :
    (save_profile id updates).Uses allowed := by
  refine (get_profile_uses reads id).bind fun r => ?_
  cases r with
  | error e => trivial
  | ok current => exact ⟨writes _, fun _ => trivial⟩

theorem save_credential_uses {email account_id : String} (saves : ∀ f, allowed (.set_doc .accounts email f))
    (indexes : ∀ f, allowed (.set_doc .accountsByUuid account_id f)) (c : webauthn.RegOutcome) :
    (save_credential email account_id c).Uses allowed := by
  refine (get_credential_uses reads email).bind fun r => ?_
  cases r with
  | error e => trivial
  | ok existing =>
    refine ⟨reads _ rfl, fun now => ⟨saves _, fun r => ?_⟩⟩
    cases r with
    | error e => trivial
    | ok u => exact ⟨indexes _, fun _ => trivial⟩

theorem create_webauthn_challenge_uses {challenge : String} (writes : ∀ f, allowed (.set_doc .webauthnChallenges challenge f))
    (c : Ceremony) : (create_webauthn_challenge challenge c).Uses allowed := by
  refine ⟨reads _ rfl, fun t => ⟨writes _, fun r => ?_⟩⟩
  rcases r with e | u <;> trivial

end uses

end registration
end RustOp.Web
