import RustOp.Base64
import RustOp.Web.Server
import RustOp.Firestore.Store

/-!
What the conformance endpoints store, in memory and as documents: the challenges
they handed out, and passkeys. A credential carries one of four kinds of key,
whose parts are stored in base64url.
-/
namespace RustOp.Web
open RustOp.Effects RustOp.Text RustOp.Firestore

/-- A credential key with the bytes of its parts. -/
inductive fido.verify.CredKey where
  | Es256 (x y : List UInt8)
  | Rs256 (n e : List UInt8)
  | Rs1 (n e : List UInt8)
  | Ed25519 (pk : List UInt8)
deriving DecidableEq, Repr

namespace fido.store
open fido.verify

def CHALLENGE_TTL_SECS : Nat := 300

/-- A ceremony that was begun. Only "required" makes it require the user verified. -/
structure ChallengeState where
  username : String
  user_verification : Option String
  created_at : Nat
deriving DecidableEq, Repr

structure StoredCredential where
  id : String
  key : CredKey
  sign_count : UInt32
deriving DecidableEq, Repr

/-- What the endpoints ask of a store, and the clock of the process. -/
inductive StoreOp where
  | save_challenge (challenge : String) (st : ChallengeState)
  | get_challenge (challenge : String)
  | save_credential (user : String) (cred : StoredCredential)
  | find_credentials (user : String)
  | update_sign_count (user cred_id : String) (new_count : UInt32)
  | now

@[reducible] def StoreOp.Res : StoreOp → Type
  | .save_challenge .. => Unit
  | .get_challenge .. => Option ChallengeState
  | .save_credential .. => Unit
  | .find_credentials .. => List StoredCredential
  | .update_sign_count .. => Unit
  | .now => Nat

@[reducible] def FidoStore : Sig := ⟨StoreOp, StoreOp.Res⟩

/-- One request to the store. -/
@[simp] def ask (o : StoreOp) : Prog FidoStore o.Res := .call o .ret

/-! ### On Firestore -/

/-- How a ceremony is stored. Whether it is written is not looked at. -/
def save_challenge (challenge : String) (st : ChallengeState) : Prog Fs Unit := do
  let now ← Firestore.fs .now
  let fields := .ofEntries
    [("username", some (.string st.username)), ("userVerification", some (.string (st.user_verification.getD ""))),
      ("expiresAt", some (ts (now + CHALLENGE_TTL_SECS)))]
  let _ ← Firestore.fs (.set_doc .fidoChallenges challenge fields)
  return ()

/-- A ceremony that is not expired. When it began is not stored. -/
def get_challenge (challenge : String) : Prog Fs (Option ChallengeState) := do
  let .ok (some f) ← Firestore.fs (.get_doc .fidoChallenges challenge) | return none
  if (field_ts_secs f "expiresAt").getD 0 < (← Firestore.fs .now) then
    return none
  let uv := (field_str f "userVerification").getD ""
  return some
    { username := (field_str f "username").getD "", user_verification := if uv.isEmpty then none else some uv,
      created_at := ← Firestore.fs .now }

/-- The kind of a key, as it is stored. -/
def kty : CredKey → String
  | .Es256 .. => "es256"
  | .Rs256 .. => "rs256"
  | .Rs1 .. => "rs1"
  | .Ed25519 .. => "ed25519"

def parts : CredKey → List (String × List UInt8)
  | .Es256 x y => [("x", x), ("y", y)]
  | .Rs256 n e => [("n", n), ("e", e)]
  | .Rs1 n e => [("n", n), ("e", e)]
  | .Ed25519 pk => [("pk", pk)]

def cred_to_fields (p : Server) (user : String) (c : StoredCredential) : Fields :=
  .ofEntries
    ([("user", some (.string user)), ("credId", some (.string c.id)), ("signCount", some (.integer c.sign_count.toNat)),
      ("kty", some (.string (kty c.key)))] ++
      (parts c.key).map fun part => (part.1, some (.string (p.b64url part.2))))

/-- The bytes of one part of a key. -/
def dec (p : Server) (f : Fields) (k : String) : Option (List UInt8) :=
  (es256.b64url_decode p.toJose ((field_str f k).getD "")).toOption

def key_from_fields (p : Server) (f : Fields) (kty : String) : Option CredKey :=
  if kty = "es256" then do return .Es256 (← dec p f "x") (← dec p f "y")
  else if kty = "rs256" then do return .Rs256 (← dec p f "n") (← dec p f "e")
  else if kty = "rs1" then do return .Rs1 (← dec p f "n") (← dec p f "e")
  else if kty = "ed25519" then do return .Ed25519 (← dec p f "pk")
  else none

def cred_from_fields (p : Server) (f : Fields) : Option StoredCredential := do
  let id ← field_str f "credId"
  let key ← key_from_fields p f (← field_str f "kty")
  return { id, key, sign_count := .ofNat ((field_u64 f "signCount").getD 0) }

/-- The document of a credential is named after it; whether it is written is not
    looked at. -/
def save_credential (p : Server) (user : String) (cred : StoredCredential) : Prog Fs Unit := do
  let _ ← Firestore.fs (.set_doc .fidoCredentials cred.id (cred_to_fields p user cred))
  return ()

/-- The credentials of a user that can be read. -/
def find_credentials (p : Server) (user : String) : Prog Fs (List StoredCredential) := do
  match ← Firestore.fs (.query_eq .fidoCredentials "user" user) with
  | .ok rows => return rows.filterMap fun row => cred_from_fields p row.2
  | .error _ => return []

/-- Reads the credential by its identifier and writes all of it back for this user. -/
def update_sign_count (p : Server) (user cred_id : String) (new_count : UInt32) : Prog Fs Unit := do
  match ← Firestore.fs (.get_doc .fidoCredentials cred_id) with
  | .ok (some f) =>
    match cred_from_fields p f with
    | some cred =>
      let _ ← Firestore.fs (.set_doc .fidoCredentials cred_id (cred_to_fields p user { cred with sign_count := new_count }))
      return ()
    | none => return ()
  | _ => return ()

/-- The operations of the store as requests to Firestore. -/
def production (p : Server) : (o : StoreOp) → Prog Fs o.Res
  | .save_challenge challenge st => save_challenge challenge st
  | .get_challenge challenge => get_challenge challenge
  | .save_credential user cred => save_credential p user cred
  | .find_credentials user => find_credentials p user
  | .update_sign_count user cred_id new_count => update_sign_count p user cred_id new_count
  | .now => Firestore.fs .now

/-! ### In memory -/

/-- Ceremonies by challenge, and the credentials of each user in the order they
    were saved. -/
structure MemFidoStore where
  challenges : Table String ChallengeState := ∅
  credentials : Table String (List StoredCredential) := ∅

namespace MemFidoStore

/-- Ceremonies that began too long ago are dropped. -/
def save_challenge (m : MemFidoStore) (now : Nat) (challenge : String) (st : ChallengeState) : MemFidoStore :=
  let cutoff := now - CHALLENGE_TTL_SECS
  { m with challenges := (m.challenges.retain fun _ v => v.created_at ≥ cutoff).set challenge st }

def get_challenge (m : MemFidoStore) (now : Nat) (challenge : String) : Option ChallengeState :=
  (m.challenges.get challenge).filter fun st => ¬ st.created_at < now - CHALLENGE_TTL_SECS

def find_credentials (m : MemFidoStore) (user : String) : List StoredCredential := (m.credentials.get user).getD []

/-- A credential that the user has already is not saved again. -/
def save_credential (m : MemFidoStore) (user : String) (cred : StoredCredential) : MemFidoStore :=
  let list := m.find_credentials user
  { m with credentials := m.credentials.set user (if list.any fun c => c.id == cred.id then list else list ++ [cred]) }

def update_sign_count (m : MemFidoStore) (user cred_id : String) (new_count : UInt32) : MemFidoStore :=
  match m.credentials.get user with
  | some list => { m with credentials := m.credentials.set user (list.modify (list.findIdx fun c => c.id == cred_id) fun c =>
      { c with sign_count := new_count }) }
  | none => m

/-- The store of a process and its clock. -/
structure World where
  clock : Nat
  inner : MemFidoStore := {}

def exec : Prog.Handler FidoStore World
  | .save_challenge challenge st, w => ((), { w with inner := w.inner.save_challenge w.clock challenge st })
  | .get_challenge challenge, w => (w.inner.get_challenge w.clock challenge, w)
  | .save_credential user cred, w => ((), { w with inner := w.inner.save_credential user cred })
  | .find_credentials user, w => (w.inner.find_credentials user, w)
  | .update_sign_count user cred_id new_count, w => ((), { w with inner := w.inner.update_sign_count user cred_id new_count })
  | .now, w => (w.clock, w)

end MemFidoStore
end fido.store

/-! ### Base64url -/

/-- The encoder and the decoder of the library fit together, and encoded bytes are
    letters, digits, hyphens and underscores. -/
structure Base64url (p : Server) : Prop where
  decode : ∀ bytes, p.decode_url_safe (p.b64url bytes) = .ok bytes
  symbols : ∀ bytes, ∀ c ∈ (p.b64url bytes).toList, Base64.IsSymbol c

theorem dropWhile_none {drop : Char → Bool} {text : List Char} (keeps : ∀ c ∈ text, drop c = false) :
    text.dropWhile drop = text := by
  cases text with
  | nil => rfl
  | cons c rest => simp [List.dropWhile, keeps c List.mem_cons_self]

theorem trim_end_none {drop : Char → Bool} {text : List Char} (keeps : ∀ c ∈ text, drop c = false) :
    trim_end_matches drop text = text := by
  have reversed : ∀ c ∈ text.reverse, drop c = false := fun c listed => keeps c (List.mem_reverse.mp listed)
  rw [trim_end_matches, dropWhile_none reversed, List.reverse_reverse]

theorem plain_symbol {c : Char} (symbol : Base64.IsSymbol c) :
    is_whitespace c = false ∧ c ≠ '+' ∧ c ≠ '/' ∧ c ≠ '=' := by
  have range : (0x30 ≤ c.toNat ∧ c.toNat ≤ 0x7a ∧ c.toNat ≠ 0x3d) ∨ c.toNat = 0x2d := by
    rcases symbol with alnum | rfl | rfl
    · simp only [Char.isAlphanum, Char.isAlpha, Char.isUpper, Char.isLower, Char.isDigit, Bool.or_eq_true,
        Bool.and_eq_true, decide_eq_true_eq, UInt32.le_iff_toNat_le] at alnum
      change (65 ≤ c.toNat ∧ c.toNat ≤ 90 ∨ 97 ≤ c.toNat ∧ c.toNat ≤ 122) ∨ 48 ≤ c.toNat ∧ c.toNat ≤ 57 at alnum
      omega
    · exact .inr rfl
    · exact .inl (by decide)
  refine ⟨?_, ?_, ?_, ?_⟩
  · simp only [is_whitespace, Bool.or_eq_false_iff, Bool.and_eq_false_iff, decide_eq_false_iff_not, beq_eq_false_iff_ne]
    omega
  · rintro rfl
    revert range
    decide
  · rintro rfl
    revert range
    decide
  · rintro rfl
    revert range
    decide

/-- Encoded bytes pass the tolerant decoder as they are. -/
theorem Base64url.b64url_decode {p : Server} (codec : Base64url p) (bytes : List UInt8) :
    es256.b64url_decode p.toJose (p.b64url bytes) = .ok bytes := by
  have plain : ∀ c ∈ (p.b64url bytes).toList, is_whitespace c = false ∧ c ≠ '+' ∧ c ≠ '/' ∧ c ≠ '=' :=
    fun c listed => plain_symbol (codec.symbols bytes c listed)
  have trimmed : trim (p.b64url bytes) = p.b64url bytes := by
    rw [trim, dropWhile_none fun c listed => (plain c listed).1, trim_end_none fun c listed => (plain c listed).1,
      String.ofList_toList]
  have kept : ((p.b64url bytes).toList.map fun c => if c = '+' then '-' else if c = '/' then '_' else c) =
      (p.b64url bytes).toList := by
    refine (List.map_congr_left fun c listed => ?_).trans (List.map_id _)
    obtain ⟨-, notPlus, notSlash, -⟩ := plain c listed
    simp [notPlus, notSlash]
  have unpadded : ∀ c ∈ (p.b64url bytes).toList, (c == '=') = false := fun c listed => by simpa using (plain c listed).2.2.2
  rw [es256.b64url_decode, trimmed, kept, trim_end_none unpadded, String.ofList_toList, codec.decode]
  rfl

end RustOp.Web
