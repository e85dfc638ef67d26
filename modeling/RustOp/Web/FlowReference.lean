import RustOp.Web.SiteReference

/-!
A provider with a client that pushes its requests, and a passkey with one
genuine assertion. Forms are encoded and decoded as the linked library does for
ASCII text.
-/
namespace RustOp.Reference
open RustOp.Web RustOp.Text RustOp.Effects RustOp.Firestore

/-! ### Forms -/

def hexValue (c : Char) : Option Nat :=
  let n := c.toNat
  if 48 ≤ n ∧ n ≤ 57 then some (n - 48)
  else if 65 ≤ n ∧ n ≤ 70 then some (n - 55)
  else if 97 ≤ n ∧ n ≤ 102 then some (n - 87)
  else none

/-- The character that two hexadecimal digits stand for. -/
def escaped (high low : Char) : Option Char := do
  let h ← hexValue high
  let l ← hexValue low
  if h < 8 then some (Char.ofNat (16 * h + l)) else none

/-- Plus signs are blanks, and escapes are characters. -/
def unescape : Nat → List Char → List Char
  | 0, text => text
  | _ + 1, [] => []
  | fuel + 1, c :: rest =>
    if c = '+' then ' ' :: unescape fuel rest
    else if c = '%' then
      match rest with
      | high :: low :: more =>
        match escaped high low with
        | some d => d :: unescape fuel more
        | none => c :: unescape fuel rest
      | _ => c :: unescape fuel rest
    else c :: unescape fuel rest

def percentDecode (text : String) : String := String.ofList (unescape text.length text.toList)

def upperHex (n : Nat) : Char := Char.ofNat (if n < 10 then 48 + n else 55 + n)

def escape (c : Char) : List Char :=
  if c.isAlphanum || c == '*' || c == '-' || c == '.' || c == '_' then [c]
  else if c = ' ' then ['+']
  else ['%', upperHex (c.toNat / 16), upperHex (c.toNat % 16)]

def percentEncode (text : String) : String := String.ofList (text.toList.flatMap escape)

def formText (form : Form) : String :=
  String.intercalate "&" (form.map fun (name, value) => percentEncode name ++ "=" ++ percentEncode value)

example : formText [("iss", "https://op"), ("state", "a b")] = "iss=https%3A%2F%2Fop&state=a+b" := by decide +kernel
example : percentDecode "https%3A%2F%2Frp%2Fcb" = "https://rp/cb" := by decide +kernel

theorem unescape_plain (fuel : Nat) {text : List Char} (percent : '%' ∉ text) (plus : '+' ∉ text) : unescape fuel text = text := by
  induction fuel generalizing text with
  | zero => rfl
  | succ fuel ih =>
    cases text with
    | nil => rfl
    | cons c rest =>
      obtain ⟨no_percent, percent⟩ := List.ne_and_not_mem_of_not_mem_cons percent
      obtain ⟨no_plus, plus⟩ := List.ne_and_not_mem_of_not_mem_cons plus
      simp [unescape, Ne.symm no_percent, Ne.symm no_plus, ih percent plus]

/-! ### A client and a passkey -/

/-- The digest of `secret`. -/
def secretDigest : List UInt8 :=
  [43, 184, 13, 83, 123, 29, 163, 227, 139, 211, 3, 97, 170, 133, 86, 134, 189, 224, 234, 205, 113, 98, 254, 246,
   162, 95, 233, 123, 245, 39, 162, 91]

/-- A confidential client that has to push its requests. -/
def pusher : Client := { rp with client_secret := some (base64 secretDigest), require_par := true }

/-- The public key of the passkey. -/
def signerX : List UInt8 :=
  [65, 236, 28, 246, 143, 64, 179, 249, 147, 62, 4, 235, 222, 212, 155, 156, 121, 130, 255, 5, 204, 246, 42, 238,
   116, 169, 125, 140, 35, 85, 161, 59]

def signerY : List UInt8 :=
  [51, 173, 246, 204, 64, 75, 15, 64, 143, 137, 66, 104, 131, 149, 155, 63, 40, 133, 193, 33, 59, 57, 153, 129, 235,
   71, 241, 230, 8, 106, 200, 243]

def signInChallenge : String := "challenge-0000000000001"

/-- The digest of `op`. -/
def opDigest : List UInt8 :=
  [3, 122, 234, 234, 244, 187, 242, 109, 218, 190, 114, 86, 168, 41, 77, 197, 45, 164, 141, 87, 90, 18, 71, 181, 194,
   89, 140, 71, 222, 122, 235, 171]

/-- Authenticator data: the user was present and verified, the counter is seven. -/
def signInAuthData : List UInt8 := opDigest ++ [0x05, 0, 0, 0, 7]

/-- The digest of the client data. -/
def signInDigest : List UInt8 :=
  [141, 17, 0, 154, 170, 174, 43, 62, 24, 143, 188, 12, 246, 196, 61, 146, 225, 221, 210, 124, 170, 86, 38, 227, 170, 44, 108,
   182, 192, 214, 111, 219]

def signInSignature : List UInt8 :=
  [79, 205, 124, 53, 44, 66, 180, 166, 173, 87, 75, 13, 94, 15, 109, 45, 150, 213, 114, 103, 160, 176, 45, 162, 78, 186, 81,
   81, 176, 24, 99, 249, 200, 3, 115, 230, 195, 198, 11, 148, 248, 234, 49, 182, 11, 141, 199, 140, 239, 184, 6, 106, 94, 120,
   109, 36, 110, 219, 168, 104, 130, 253, 216, 144]

/-- The signature in DER. -/
def signInDer : List UInt8 := [48, 69, 2, 32] ++ signInSignature.take 32 ++ [2, 33, 0] ++ signInSignature.drop 32

/-- The assertion for the challenge. -/
def signIn : AuthVerifyReq where
  id := "AQIDBA"
  client_data_json := base64 (bytesOfText (clientData "webauthn.get" signInChallenge))
  authenticator_data := base64 signInAuthData
  signature := base64 signInDer
  user_handle := none

/-- The library functions, with the digests that occur. -/
def flowSite : Site :=
  { site with
    sha256 := fun text => if text = "op" then opDigest else if text = "secret" then secretDigest else sha256 text
    clients := [pusher]
    decode := percentDecode
    to_string := formText
    decode_basic := fun text => if text = "cnA6c2VjcmV0" then some "rp:secret" else none
    digest := fun bytes =>
      if bytes = bytesOfText (clientData "webauthn.get" signInChallenge) then signInDigest
      else sha256 (String.ofList (textOfBytes bytes))
    from_der := fun bytes => if bytes = signInDer then .ok signInSignature else .error "signature error"
    verify_bytes := fun key message signature =>
      key == signerX ++ signerY && message == signInAuthData ++ signInDigest && signature == signInSignature }

theorem flowSite_codec : Base64url flowSite.toServer := ⟨site_codec.decode, site_codec.symbols⟩

private theorem signIn_plain : textOfBytes (bytesOfText (clientData "webauthn.get" signInChallenge)) =
    clientData "webauthn.get" signInChallenge := by
  decide +kernel

theorem signIn_named : webauthn.extract_challenge flowSite signIn.client_data_json = some signInChallenge :=
  clientData_named signIn_plain

private theorem signIn_digest : flowSite.digest (bytesOfText (clientData "webauthn.get" signInChallenge)) = signInDigest :=
  by simp only [flowSite, ↓reduceIte]

private theorem signIn_key :
    fido.verify.verify_es256_raw flowSite signerX signerY (signInAuthData ++ signInDigest) signInDer = .ok () := by
  have point : es256.verifying_key_from_xy flowSite.toJose signerX signerY = .ok (signerX ++ signerY) := rfl
  have read : flowSite.from_der signInDer = .ok signInSignature := by simp only [flowSite, ↓reduceIte]
  have verified : flowSite.verify_bytes (signerX ++ signerY) (signInAuthData ++ signInDigest) signInSignature = true := by
    simp only [flowSite, beq_self_eq_true, Bool.and_self]
  simp only [fido.verify.verify_es256_raw, point, read, verified, ok_bind, Except.mapError]
  rfl

private theorem signIn_signed (require_uv : Bool) : (do
    let ad ← fido.verify.parse_auth_data signInAuthData
    fido.verify.check_rp_id_hash flowSite ad.rp_id_hash flowSite.rp_id
    fido.verify.check_flags ad.flags require_uv
    refuse (ad.sign_count ≠ 0 ∧ ad.sign_count ≤ 3) "signCount did not increase (possible clone)"
    return ad.sign_count : Except String Nat) = .ok 7 := by
  cases require_uv <;> decide +kernel

/-- The assertion is genuine, and the user was verified. -/
private theorem signIn_verified (require_uv : Bool) :
    webauthn.verify_authentication flowSite signIn signInChallenge (base64 signerX) (base64 signerY) 3 require_uv = .ok 7 := by
  have checked : fido.verify.check_client_data flowSite signIn.client_data_json "webauthn.get" signInChallenge flowSite.origin =
      .ok (bytesOfText (clientData "webauthn.get" signInChallenge)) := by
    have same : fido.verify.check_client_data flowSite = fido.verify.check_client_data site := rfl
    have origin : flowSite.origin = site.origin := rfl
    rw [same, origin]
    exact clientData_checked signIn_plain
  have auth : es256.b64url_decode flowSite.toJose signIn.authenticator_data = .ok signInAuthData := base64_decoded _
  have der : es256.b64url_decode flowSite.toJose signIn.signature = .ok signInDer := base64_decoded _
  have x : es256.b64url_decode flowSite.toJose (base64 signerX) = .ok signerX := base64_decoded _
  have y : es256.b64url_decode flowSite.toJose (base64 signerY) = .ok signerY := base64_decoded _
  simp only [webauthn.verify_authentication, checked, auth, der, x, y, ok_bind, fido.verify.verify_assertion,
    fido.verify.CredKey.verify, signIn_digest, signIn_key]
  exact signIn_signed require_uv

/-- What other keys and counters get. -/
def otherwise (x y : String) (n : Nat) (require_uv : Bool) : Except String Nat :=
  webauthn.verify_authentication flowSite signIn signInChallenge x y n require_uv

theorem signIn_checked (x y : String) (n : Nat) (require_uv : Bool) :
    webauthn.verify_authentication flowSite signIn signInChallenge x y n require_uv =
      if n = 3 ∧ x = base64 signerX ∧ y = base64 signerY then .ok 7 else otherwise x y n require_uv := by
  split
  · rename_i same
    obtain ⟨rfl, rfl, rfl⟩ := same
    exact signIn_verified require_uv
  · rfl

end RustOp.Reference
