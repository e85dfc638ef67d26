import RustOp.Web.Host

/-!
The provider as the web endpoints see it: what its configuration adds to the one
of the grants, the library functions that open signed texts, and the parts of
requests and responses.
-/
namespace RustOp.Web
open RustOp.Effects RustOp.Text

/-! ### Library functions -/

/-- Functions of the libraries that decode and verify signed texts. A verifying
    key and a signature are known by their bytes. -/
structure Jose where
  /-- `URL_SAFE_NO_PAD.decode` -/
  decode_url_safe : String → Except String (List UInt8)
  /-- `serde_json::from_slice` -/
  from_slice : List UInt8 → Except String Json
  /-- `serde_json::to_string` -/
  json_to_string : Json → Option String
  /-- `VerifyingKey::from_encoded_point` -/
  from_encoded_point : List UInt8 → List UInt8 → Except String (List UInt8)
  /-- `Signature::from_slice` -/
  signature_from_slice : List UInt8 → Except String (List UInt8)
  /-- `VerifyingKey::verify` -/
  verify : List UInt8 → String → List UInt8 → Bool
  /-- The text between quotes, as `{:?}` writes it. -/
  debug : String → String

namespace es256

/-- Accepts the standard alphabet and padding too. -/
def b64url_decode (j : Jose) (s : String) : Except String (List UInt8) :=
  let t := (trim s).toList.map fun c => if c = '+' then '-' else if c = '/' then '_' else c
  (j.decode_url_safe (String.ofList (trim_end_matches (· == '=') t))).mapError ("base64: " ++ ·)

def pad32 (b : List UInt8) : Except String (List UInt8) :=
  if b.length > 32 then .error "coordinate > 32 bytes" else .ok (List.replicate (32 - b.length) 0 ++ b)

def verifying_key_from_xy (j : Jose) (x y : List UInt8) : Except String (List UInt8) := do
  let xb ← pad32 x
  let yb ← pad32 y
  (j.from_encoded_point xb yb).mapError ("bad EC point: " ++ ·)

/-- RFC 7638: the digest of the members of the key in their order. -/
def jwk_thumbprint_p256 (p : Platform) (x_b64 y_b64 : String) : String :=
  p.b64url (p.sha256 ("\x7b\"crv\":\"P-256\",\"kty\":\"EC\",\"x\":\"" ++ x_b64 ++ "\",\"y\":\"" ++ y_b64 ++ "\"\x7d"))

end es256

/-- The parts of a compact JWS. -/
structure Compact where
  header : String
  payload : String
  signature : String
deriving DecidableEq, Repr

/-- Exactly three parts between dots. -/
def Compact.parse (jws : String) : Option Compact :=
  match (split '.' jws.toList).map String.ofList with
  | [header, payload, signature] => some ⟨header, payload, signature⟩
  | _ => none

def Compact.signing_input (c : Compact) : String := c.header ++ "." ++ c.payload

/-! ### The provider -/

/-- The configuration of a provider with its endpoints. Static clients are
    listed under their own identifiers. -/
structure Server extends Provider, Jose where
  clients : List Client
  /-- `serde_json::from_str::<Client>` -/
  client_from_str : String → Option Client
  has_firestore : Bool
  base_path : String
  /-- Percent-decoding of a form component, with `+` as a space. -/
  decode : String → String
  /-- `serde_urlencoded::to_string` -/
  to_string : Form → String
  /-- Standard base64 of UTF-8 text. -/
  decode_basic : String → Option String

namespace Server

def path (p : Server) (target : String) : String := p.base_path ++ target

/-- `serde_urlencoded::from_str` into a map. -/
def form (p : Server) (text : String) : Form := urlencoded p.decode text

end Server

def dcr_store.load_client (p : Server) (client_id : String) : Prog Host (Option Client) := do
  match ← fs (.get_doc .clients client_id) with
  | .ok (some fields) => return (Firestore.field_str fields "json").bind p.client_from_str
  | _ => return none

/-- A static client, or one that was registered dynamically. -/
def Server.resolve_client (p : Server) (id : String) : Prog Host (Option Client) :=
  match p.clients.find? fun c => c.client_id == id with
  | some c => return some c
  | none => if p.has_firestore then dcr_store.load_client p id else return none

/-! ### Requests and responses -/

/-- Header fields in the order they were sent, names in lower case, each byte of
    a value as a character. -/
abbrev Headers := List (String × String)

namespace Headers

def get_all (headers : Headers) (name : String) : List String :=
  (headers.filter fun field => field.1 == name).map Prod.snd

def get (headers : Headers) (name : String) : Option String := (headers.get_all name).head?

/-- `HeaderValue::to_str`: visible ASCII characters, spaces and tabs. -/
def to_str (value : String) : Option String :=
  if value.toList.all fun c => (0x20 ≤ c.toNat && c.toNat < 0x7f) || c.toNat == 0x09 then some value else none

end Headers

/-- What an endpoint answers. -/
inductive Response where
  | token (r : TokenResponse)
  | pushed (request_uri : String) (expires_in : Nat)
  | oauth_error (e : OAuthError)
  | text (status : Nat) (body : String)
  | json (status : Nat) (body : Json)
  | redirect (location : String)

def plain_error (msg : String) : Response := .text 400 msg

/-- The DPoP proof of a request. Several headers count as no usable proof, and
    every endpoint has to refuse them. -/
def dpop_header (headers : Headers) : Option String :=
  match headers.get_all "dpop" with
  | [first] => Headers.to_str first
  | _ => none

/-- Scheme and token of the Authorization header. -/
def auth_scheme_token (headers : Headers) : Option (String × String) := do
  let h ← (headers.get "authorization").bind Headers.to_str
  let (scheme, rest) ← split_once ' ' h
  if eq_ignore_ascii_case scheme "bearer" then some ("Bearer", trim rest)
  else if eq_ignore_ascii_case scheme "dpop" then some ("DPoP", trim rest)
  else none

def parse_basic_auth (p : Server) (headers : Headers) : Option (String × String) := do
  let h ← (headers.get "authorization").bind Headers.to_str
  let b64 ← strip_prefix "Basic " h
  let s ← p.decode_basic b64
  split_once ':' s

end RustOp.Web
