import RustOp.Web.ClientAuth
import RustOp.Reference

/-!
A provider with endpoints for the witnesses: base64 is computed, JSON and
signatures are known for the texts listed here, whose signatures are genuine.
-/
namespace RustOp.Reference
open RustOp.Web RustOp.Text RustOp.Effects

/-- The bytes of an ASCII text. -/
def ascii (text : String) : List Nat := text.toList.map Char.toNat

/-- base64url without padding. -/
def encode (bytes : List Nat) : List Char := (sextets bytes).map fun n => alphabet.getD n 'A'

/-- The value of a base64url digit. -/
def sextet (c : Char) : Option Nat :=
  let n := c.toNat
  if 65 ≤ n ∧ n ≤ 90 then some (n - 65)
  else if 97 ≤ n ∧ n ≤ 122 then some (n - 71)
  else if 48 ≤ n ∧ n ≤ 57 then some (n + 4)
  else if n = 45 then some 62
  else if n = 95 then some 63
  else none

def octets : List Nat → List Nat
  | a :: b :: c :: d :: rest =>
    (a * 4 + b / 16) :: ((b % 16) * 16 + c / 4) :: ((c % 4) * 64 + d) :: octets rest
  | [a, b, c] => [a * 4 + b / 16, (b % 16) * 16 + c / 4]
  | [a, b] => [a * 4 + b / 16]
  | _ => []

def decode (text : List Char) : Except String (List UInt8) :=
  match text.mapM sextet with
  | some digits => .ok ((octets digits).map UInt8.ofNat)
  | none => .error "Invalid symbol"

example : decode (encode (ascii "ab\x7b")) = .ok ((ascii "ab\x7b").map UInt8.ofNat) := by decide +kernel

/-! ### Two assertions -/

def es256Header : String := "\x7b\"alg\":\"ES256\",\"kid\":\"k\"\x7d"

def assertionPayload (client_id : String) : String :=
  "\x7b\"iss\":\"" ++ client_id ++ "\",\"sub\":\"" ++ client_id ++
    "\",\"aud\":\"https://op\",\"exp\":1300,\"jti\":\"j\"\x7d"

def assertionClaims (client_id : String) : Json :=
  .obj [("iss", .str client_id), ("sub", .str client_id), ("aud", .str "https://op"), ("exp", .num 1300), ("jti", .str "j")]

/-- The JSON texts that occur, and their values. -/
def texts : List String := [es256Header, assertionPayload "rp1", assertionPayload "rp2"]
def values : List Json :=
  [.obj [("alg", .str "ES256"), ("kid", .str "k")], assertionClaims "rp1", assertionClaims "rp2"]

def rp1Signature : List Nat :=
  [187, 204, 95, 82, 75, 206, 242, 78, 63, 203, 222, 57, 190, 252, 158, 196, 150, 223, 167, 75, 122, 247,
   217, 251, 47, 184, 120, 45, 37, 205, 123, 24, 20, 114, 41, 47, 154, 219, 100, 87, 141, 118, 125, 211, 191,
   207, 158, 130, 2, 46, 80, 135, 196, 133, 165, 97, 58, 30, 133, 19, 197, 181, 172, 103]

def rp2Signature : List Nat :=
  [249, 58, 189, 17, 205, 228, 24, 169, 227, 128, 194, 3, 115, 183, 252, 101, 177, 27, 163, 67, 145, 145,
   126, 57, 58, 106, 228, 87, 49, 48, 69, 92, 45, 216, 66, 170, 90, 5, 14, 81, 190, 117, 99, 47, 75, 43, 110,
   240, 30, 185, 92, 181, 171, 154, 90, 37, 67, 244, 200, 37, 250, 140, 88, 167]

/-- An assertion of a client, with the `jti` that both use. -/
def assertion (client_id : String) (signature : List Nat) : String :=
  String.ofList (encode (ascii es256Header) ++ '.' :: encode (ascii (assertionPayload client_id)) ++ '.' :: encode signature)

def rp1Assertion : String := assertion "rp1" rp1Signature
def rp2Assertion : String := assertion "rp2" rp2Signature

/-- The library functions, as they answer on these texts. -/
def jose : Jose where
  decode_url_safe := fun text => decode text.toList
  from_slice := fun bytes =>
    match texts.findIdx? fun text => ascii text == bytes.map UInt8.toNat with
    | some i => .ok (values.getD i .null)
    | none => .error "expected value"
  json_to_string := fun _ => none
  from_encoded_point := fun x y => .ok (x ++ y)
  signature_from_slice := fun bytes => if bytes.length = 64 then .ok bytes else .error "signature error"
  verify := fun _ _ signature =>
    signature.map UInt8.toNat == rp1Signature || signature.map UInt8.toNat == rp2Signature
  debug := fun s => "\"" ++ s ++ "\""

/-- A client that signs its assertions. -/
def signing (client_id : String) (key : JwkPub) : Client where
  client_id := client_id
  redirect_uris := ["https://" ++ client_id ++ "/cb"]
  token_endpoint_auth_method := "private_key_jwt"
  client_secret := none
  grant_types := ["authorization_code"]
  post_logout_redirect_uris := []
  dpop_bound := false
  jwks := [key]
  jwks_uri := none
  require_par := false
  require_pkce := false
  id_token_signed_response_alg := none

def rp1Key : JwkPub := ⟨"k", "ytofg52HFyT0gKz0lRMfKUVE7jDkqmWx1uxBerJw50U", "F95WUNfYDy3d9rKq-05EcLgJATIZBaTh3CnvX7uZHcY"⟩
def rp2Key : JwkPub := ⟨"k", "xbv4nxfTnlcGzSugiLn8Z_ONXwgsnXdzPMzz7zpQhH4", "Z9lcq_Qj8d9sKTwXE10NO7dEZqdekT3VsJ_jbgJa4J8"⟩
def rp1 : Client := signing "rp1" rp1Key
def rp2 : Client := signing "rp2" rp2Key

def server : Server where
  toProvider := provider
  toJose := jose
  clients := [rp, rp1, rp2]
  client_from_str := fun _ => none
  has_firestore := false
  base_path := ""
  decode := id
  to_string := fun _ => ""
  decode_basic := fun _ => none

/-! ### What the checks find -/

/-- Base64 digits need no cleaning. -/
private theorem decoded {digits : List Char} {out : List UInt8}
    (clean : (trim_end_matches (· == '=') ((trim_end_matches is_whitespace (digits.dropWhile is_whitespace)).map
      fun c => if c = '+' then '-' else if c = '/' then '_' else c)) = digits)
    (value : decode digits = .ok out) : es256.b64url_decode server.toJose (String.ofList digits) = .ok out := by
  have library : server.toJose.decode_url_safe (String.ofList digits) = .ok out := by
    show decode (String.ofList digits).toList = .ok out
    rw [String.toList_ofList, value]
  simp only [es256.b64url_decode, trim, String.toList_ofList, clean, library, Except.mapError]

private theorem read_text {bytes : List UInt8} {i : Nat}
    (found : texts.findIdx? (fun text => ascii text == bytes.map UInt8.toNat) = some i) :
    server.from_slice bytes = .ok (values.getD i .null) := by
  simp only [server, jose, found]

private theorem parsed {header payload signature : List Char} (plain : split '.' (header ++ '.' :: payload ++ '.' :: signature) =
      [header, payload, signature]) :
    Compact.parse (String.ofList (header ++ '.' :: payload ++ '.' :: signature)) =
      some ⟨String.ofList header, String.ofList payload, String.ofList signature⟩ := by
  rw [Compact.parse, String.toList_ofList, plain]
  rfl

/-- The opened assertion of a client. -/
def openedAssertion (client_id : String) (signature : List Nat) : PrivateKeyJwt.Opened where
  parts := ⟨String.ofList (encode (ascii es256Header)), String.ofList (encode (ascii (assertionPayload client_id))),
    String.ofList (encode signature)⟩
  kid := "k"
  sub := client_id
  payload := assertionClaims client_id

private theorem header_decoded : es256.b64url_decode server.toJose (String.ofList (encode (ascii es256Header))) =
    .ok ((ascii es256Header).map UInt8.ofNat) :=
  decoded (by decide +kernel) (by decide +kernel)

private theorem header_read : server.from_slice ((ascii es256Header).map UInt8.ofNat) = .ok (values.getD 0 .null) :=
  read_text (by decide +kernel)

theorem opened_rp1 : PrivateKeyJwt.opened server rp1Assertion = .ok (openedAssertion "rp1" rp1Signature) :=
  PrivateKeyJwt.opened_eq_ok.mpr ⟨_, _, _, (ascii (assertionPayload "rp1")).map UInt8.ofNat, values.getD 1 .null,
    parsed (by decide +kernel), header_decoded, header_read, rfl, decoded (by decide +kernel) (by decide +kernel),
    read_text (by decide +kernel), by decide, rfl, rfl⟩

theorem opened_rp2 : PrivateKeyJwt.opened server rp2Assertion = .ok (openedAssertion "rp2" rp2Signature) :=
  PrivateKeyJwt.opened_eq_ok.mpr ⟨_, _, _, (ascii (assertionPayload "rp2")).map UInt8.ofNat, values.getD 2 .null,
    parsed (by decide +kernel), header_decoded, header_read, rfl, decoded (by decide +kernel) (by decide +kernel),
    read_text (by decide +kernel), by decide, rfl, rfl⟩

/-- The bytes of a coordinate. -/
private def coordinate (text : String) : List UInt8 := (decode text.toList).toOption.getD []

theorem signature_rp1 : PrivateKeyJwt.check_signature server (openedAssertion "rp1" rp1Signature) rp1Key = .ok () :=
  PrivateKeyJwt.check_signature_eq_ok.mpr ⟨coordinate rp1Key.x, coordinate rp1Key.y, coordinate rp1Key.x ++ coordinate rp1Key.y,
    rp1Signature.map UInt8.ofNat, rp1Signature.map UInt8.ofNat, by decide +kernel, by decide +kernel, by decide +kernel,
    decoded (by decide +kernel) (by decide +kernel), by decide +kernel, by decide +kernel, rfl⟩

theorem signature_rp2 : PrivateKeyJwt.check_signature server (openedAssertion "rp2" rp2Signature) rp2Key = .ok () :=
  PrivateKeyJwt.check_signature_eq_ok.mpr ⟨coordinate rp2Key.x, coordinate rp2Key.y, coordinate rp2Key.x ++ coordinate rp2Key.y,
    rp2Signature.map UInt8.ofNat, rp2Signature.map UInt8.ofNat, by decide +kernel, by decide +kernel, by decide +kernel,
    decoded (by decide +kernel) (by decide +kernel), by decide +kernel, by decide +kernel, rfl⟩

end RustOp.Reference
