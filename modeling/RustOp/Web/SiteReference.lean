import RustOp.Web.Reference
import RustOp.Web.Register
import RustOp.JsonText

/-!
A provider with passkeys for the witnesses. It reads client data as browsers
write it, and knows the encoding of one passkey.
-/
namespace RustOp.Reference
open RustOp.Web RustOp.Text RustOp.Effects RustOp.JsonText

/-! ### Client data -/

/-- Client data as a browser writes it. -/
def clientData (type challenge : String) : List Char :=
  "\x7b\"type\":\"".toList ++ (quoted type ++ (",\"challenge\":\"".toList ++ (quoted challenge ++
    (",\"origin\":\"".toList ++ (quoted "https://op" ++ "\x7d".toList)))))

def clientDataValue (type challenge : String) : Json :=
  .obj [("type", .str type), ("challenge", .str challenge), ("origin", .str "https://op")]

def read_client_data (text : List Char) : Option Json := do
  let (type, text) ← unquote (← expect "\x7b\"type\":\"" text)
  let (challenge, text) ← unquote (← expect ",\"challenge\":\"" text)
  let (origin, text) ← unquote (← expect ",\"origin\":\"" text)
  let _ ← expect "\x7d" text
  some (.obj [("type", .str (String.ofList type)), ("challenge", .str (String.ofList challenge)),
    ("origin", .str (String.ofList origin))])

private theorem read_clientData (type challenge : String) :
    read_client_data (clientData type challenge) = some (clientDataValue type challenge) := by
  have closing : expect "\x7d" "\x7d".toList = some [] := by
    have := expect_append "\x7d" []
    rwa [List.append_nil] at this
  unfold read_client_data clientData
  simp only [Option.bind_eq_bind]
  rw [expect_append, Option.bind_some, unquote_quoted, Option.bind_some]
  dsimp only
  rw [expect_append, Option.bind_some, unquote_quoted, Option.bind_some]
  dsimp only
  rw [expect_append, Option.bind_some, unquote_quoted, Option.bind_some]
  dsimp only
  rw [closing, String.ofList_toList, String.ofList_toList, String.ofList_toList]
  rfl

/-- The bytes of a text without further ones. -/
def bytesOfText (text : List Char) : List UInt8 := text.map fun c => UInt8.ofNat c.toNat
def textOfBytes (bytes : List UInt8) : List Char := bytes.map fun b => Char.ofNat b.toNat

def base64 (bytes : List UInt8) : String := String.ofList (Base64.encode bytes)

/-! ### A passkey -/

def pointX : List UInt8 := (Base64.decode rp1Key.x.toList).getD []
def pointY : List UInt8 := (Base64.decode rp1Key.y.toList).getD []

/-- An ES256 key in the encoding of COSE. -/
def coseKey : List UInt8 :=
  [0xa5, 0x01, 0x02, 0x03, 0x26, 0x20, 0x01, 0x21, 0x58, 0x20] ++ pointX ++ [0x22, 0x58, 0x20] ++ pointY

def credentialId : List UInt8 := [1, 2, 3, 4]

/-- The user was present; the key follows its identifier. -/
def authData : List UInt8 :=
  sha256 "op" ++ [0x41, 0, 0, 0, 0] ++ List.replicate 16 0 ++ [0, 4] ++ credentialId ++ coseKey

/-- Without a statement about the authenticator. -/
def attestation : List UInt8 :=
  [0xa3, 0x63, 0x66, 0x6d, 0x74, 0x64, 0x6e, 0x6f, 0x6e, 0x65, 0x67, 0x61, 0x74, 0x74, 0x53, 0x74, 0x6d, 0x74, 0xa0,
    0x68, 0x61, 0x75, 0x74, 0x68, 0x44, 0x61, 0x74, 0x61, 0x58, UInt8.ofNat authData.length] ++ authData

/-- What a browser sends for a challenge. -/
def registrationResponse (challenge : String) : webauthn.RegResponse where
  client_data_json := base64 (bytesOfText (clientData "webauthn.create" challenge))
  attestation_object := base64 attestation

/-- The passkey that is registered. -/
def passkey : webauthn.RegOutcome := ⟨base64 credentialId, base64 pointX, base64 pointY, 0⟩

/-- The library functions, as they answer on this passkey. No assertion is genuine. -/
def site : Site where
  toProvider := { provider with b64url := base64 }
  toJose :=
    { jose with
      decode_url_safe := fun text => ok_or (Base64.decode text.toList) "Invalid symbol"
      from_slice := fun bytes => ok_or (read_client_data (textOfBytes bytes)) "expected value" }
  clients := [rp]
  client_from_str := fun _ => none
  has_firestore := true
  base_path := ""
  decode := id
  to_string := fun _ => ""
  decode_basic := fun _ => none
  from_reader := fun bytes =>
    if bytes = attestation then
      .ok (.map [(.text "fmt", .text "none"), (.text "attStmt", .map []), (.text "authData", .bytes authData)],
        attestation.length)
    else if bytes = coseKey then
      .ok (.map [(.integer 1, .integer 2), (.integer 3, .integer (-7)), (.integer (-1), .integer 1),
        (.integer (-2), .bytes pointX), (.integer (-3), .bytes pointY)], coseKey.length)
    else .error "Semantic(None, \"invalid type\")"
  digest := fun bytes => sha256 (String.ofList (textOfBytes bytes))
  sha384 := fun _ => []
  sha1 := fun _ => []
  rsa_public_key := fun _ _ => .error "invalid modulus"
  rsa_verify := fun _ _ _ _ => false
  ed25519_from_bytes := fun _ => .error "signature error"
  ed25519_verify := fun _ _ _ => false
  from_der := fun _ => .error "signature error"
  verify_bytes := fun _ _ _ => false
  from_utf8 := fun bytes => if bytes.all (· < 0x80) then some (String.ofList (textOfBytes bytes)) else none
  debug_value := fun _ => "None"
  debug_int := fun n => match n with | some n => "Some(Integer(" ++ toString n ++ "))" | none => "None"
  to_lowercase := fun s => s.map Char.toLower

/-! ### What the checks find -/

theorem site_codec : Base64url site.toServer where
  decode bytes := by
    show ok_or (Base64.decode (String.ofList (Base64.encode bytes)).toList) _ = _
    rw [String.toList_ofList, Base64.decode_encode]
    rfl
  symbols bytes c listed := by
    rw [show site.toServer.b64url bytes = String.ofList (Base64.encode bytes) from rfl, String.toList_ofList] at listed
    exact Base64.isSymbol_of_mem_encode listed

theorem base64_decoded (bytes : List UInt8) : es256.b64url_decode site.toJose (base64 bytes) = .ok bytes :=
  site_codec.b64url_decode bytes

/-- Three encoded parts between dots are read back. -/
theorem parse_base64 (header payload signature : List UInt8) :
    Compact.parse (String.ofList (Base64.encode header ++ '.' :: Base64.encode payload ++ '.' :: Base64.encode signature)) =
      some ⟨base64 header, base64 payload, base64 signature⟩ := by
  have dotless := Base64.dot_not_mem_encode
  rw [Compact.parse, String.toList_ofList, List.append_assoc, List.cons_append, split_first (dotless header),
    split_first (dotless payload), split_absent (dotless signature)]
  rfl

private theorem clientData_read {type challenge : String}
    (plain : textOfBytes (bytesOfText (clientData type challenge)) = clientData type challenge) :
    site.from_slice (bytesOfText (clientData type challenge)) = .ok (clientDataValue type challenge) := by
  show ok_or (read_client_data (textOfBytes (bytesOfText (clientData type challenge)))) _ = _
  rw [plain, read_clientData]
  rfl

private theorem attestation_read : fido.verify.parse_attestation_object site attestation =
    .ok ⟨"none", authData, .map []⟩ := by
  have read : site.from_reader attestation = .ok (.map [(.text "fmt", .text "none"), (.text "attStmt", .map []),
      (.text "authData", .bytes authData)], attestation.length) := by
    simp only [site, ↓reduceIte]
  unfold fido.verify.parse_attestation_object
  rw [read]
  rfl

theorem clientData_checked {type challenge : String}
    (plain : textOfBytes (bytesOfText (clientData type challenge)) = clientData type challenge) :
    fido.verify.check_client_data site (base64 (bytesOfText (clientData type challenge))) type challenge site.origin =
      .ok (bytesOfText (clientData type challenge)) := by
  have origin : site.origin = "https://op" := by decide +kernel
  have type_read : (clientDataValue type challenge).get_str "type" = some type := by
    simp [clientDataValue, Json.get_str, Json.get, Json.as_str]
  have challenge_read : (clientDataValue type challenge).get_str "challenge" = some challenge := by
    simp [clientDataValue, Json.get_str, Json.get, Json.as_str]
  have origin_read : (clientDataValue type challenge).get_str "origin" = some "https://op" := by
    simp [clientDataValue, Json.get_str, Json.get, Json.as_str]
  have unbound : fido.verify.check_token_binding (clientDataValue type challenge) = .ok () := by
    simp [fido.verify.check_token_binding, clientDataValue, Json.get]
  simp only [fido.verify.check_client_data, Checks.bind_eq_ok, Checks.mapError_eq_ok, Checks.refuse_eq_ok, Checks.pure_eq_ok,
    exists_const, not_not, origin]
  exact ⟨_, base64_decoded _, _, clientData_read plain, type_read, challenge_read, origin_read, (), unbound, rfl⟩

theorem clientData_named {type challenge : String}
    (plain : textOfBytes (bytesOfText (clientData type challenge)) = clientData type challenge) :
    webauthn.extract_challenge site (base64 (bytesOfText (clientData type challenge))) = some challenge := by
  have read := clientData_read plain
  simp only [webauthn.extract_challenge, base64_decoded, Except.toOption, Option.bind_eq_bind, Option.bind_some, read]
  simp [clientDataValue, Json.get_str, Json.get, Json.as_str]

/-- What is left of the check once the response was decoded. -/
private theorem authData_accepted : (do
    let ad ← fido.verify.parse_auth_data authData
    fido.verify.check_rp_id_hash site ad.rp_id_hash site.rp_id
    refuse (ad.flags &&& fido.verify.FLAG_UP = 0) "UP flag not set"
    refuse (ad.flags &&& fido.verify.FLAG_AT = 0) "AT flag not set (no attested credential data)"
    let last ← ok_or (fido.verify.attested_cred_id_end ad.rest) "attestedCredentialData too short or credId length overflow"
    let (key, _) ← fido.verify.parse_cose_key site (ad.rest.drop last)
    let .Es256 x y := key | .error "OIDC passkey must be ES256"
    return ⟨site.b64url ((ad.rest.take last).drop 18), site.b64url x, site.b64url y, ad.sign_count⟩ :
      Except String webauthn.RegOutcome) = .ok passkey := by
  decide +kernel

theorem ok_bind {ε α β : Type} (a : α) (f : α → Except ε β) : (.ok a >>= f : Except ε β) = f a := rfl

/-- A response for a challenge names it and is accepted. -/
theorem response_checked {challenge : String}
    (plain : textOfBytes (bytesOfText (clientData "webauthn.create" challenge)) = clientData "webauthn.create" challenge) :
    checked_response site (registrationResponse challenge) = some (challenge, .ok passkey) := by
  have named : webauthn.extract_challenge site (registrationResponse challenge).client_data_json = some challenge :=
    clientData_named plain
  have accepted : webauthn.verify_registration site (registrationResponse challenge) challenge site.origin
      site.rp_id = .ok passkey := by
    simp only [webauthn.verify_registration, registrationResponse, clientData_checked plain, base64_decoded, attestation_read,
      ok_bind]
    exact authData_accepted
  rw [checked_response, named, Option.map_some, accepted]

end RustOp.Reference
