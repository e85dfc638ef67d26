import RustOp.Web.Attestation

/-!
The results of the ceremonies of the conformance endpoints. What a browser sends
is checked field by field before anything is looked up.
-/
namespace RustOp.Web.fido
open RustOp.Effects RustOp.Text store

/-- Every refusal is answered in this form. -/
def failed (msg : String) : Response := .json 400 (.obj [("status", .str "failed"), ("errorMessage", .str msg)])

def ok_with (fields : List (String × Json)) : Response :=
  .json 200 (.obj (fields ++ [("status", .str "ok"), ("errorMessage", .str "")]))

/-! ### Requests -/

def parse_object (p : Conformance) (body : String) : Except String Json :=
  match p.json_from_str body with
  | .error e => .error ("invalid JSON: " ++ e)
  | .ok (.obj m) => .ok (.obj m)
  | .ok _ => .error "body must be a JSON object"

/-- Base64url without padding, and not the standard alphabet. -/
def is_b64url (s : String) : Bool := !s.isEmpty && s.toList.all fun c => c.isAlphanum || c == '-' || c == '_'

/-- The fields of the response that a credential carries. -/
def response_object (m : Json) : Option Json :=
  match m.get "response" with
  | some (.obj fields) => some (.obj fields)
  | _ => none

def resp_string (m : Json) (key : String) : Except String String := do
  let resp ← ok_or (response_object m) "missing response object"
  ok_or ((resp.get_str key).filter (!·.isEmpty)) ("response." ++ key ++ " must be a non-empty string")

/-- What both ceremonies ask of a credential; the answer is its identifier. -/
def credential_id (m : Json) : Except String String := do
  let id ← ok_or ((m.get_str "id").filter is_b64url) "id must be a non-empty base64url string"
  refuse (m.get_str "type" ≠ some "public-key") "type must be 'public-key'"
  return id

/-- A credential that was made, as the browser sends it. -/
structure Attested where
  client_data_json : String
  attestation_object : String
  challenge : String
deriving DecidableEq, Repr

def attested (p : Conformance) (body : String) : Except String Attested := do
  let m ← parse_object p body
  let _ ← credential_id m
  let client_data_json ← resp_string m "clientDataJSON"
  let attestation_object ← resp_string m "attestationObject"
  let challenge ← ok_or (webauthn.extract_challenge p.toSite client_data_json)
    "clientDataJSON missing or unparsable challenge"
  return { client_data_json, attestation_object, challenge }

/-- An assertion, as the browser sends it. -/
structure Asserted where
  cred_id : String
  client_data_json : String
  authenticator_data : String
  signature : String
  challenge : String
deriving DecidableEq, Repr

/-- A user handle may be missing or null, but nothing else than a text. -/
def check_user_handle (m : Json) : Except String Unit :=
  match (response_object m).bind (Json.get "userHandle") with
  | none => .ok ()
  | some .null => .ok ()
  | some (.str _) => .ok ()
  | some _ => .error "userHandle must be a string or null"

def asserted (p : Conformance) (body : String) : Except String Asserted := do
  let m ← parse_object p body
  let cred_id ← credential_id m
  check_user_handle m
  let client_data_json ← resp_string m "clientDataJSON"
  let authenticator_data ← resp_string m "authenticatorData"
  let signature ← resp_string m "signature"
  refuse (!is_b64url authenticator_data) "authenticatorData must be base64url"
  refuse (!is_b64url signature) "signature must be base64url"
  let challenge ← ok_or (webauthn.extract_challenge p.toSite client_data_json)
    "clientDataJSON missing or unparsable challenge"
  return { cred_id, client_data_json, authenticator_data, signature, challenge }

/-! ### Results -/

/-- Saves a new passkey whose attestation was accepted. The clock is that of the
    checks of certificates. -/
def attestation_result (p : Conformance) (st : FidoState) (body : String) : Prog FidoStore Response := do
  match attested p body with
  | .error e => return failed e
  | .ok m =>
  let some state ← ask (.get_challenge m.challenge) | return failed "challenge state not found or expired"
  let now ← ask .now
  let require_uv := state.user_verification = some "required"
  match verify_attestation p now st m.client_data_json m.attestation_object m.challenge require_uv with
  | .error e => return failed e
  | .ok cred =>
  ask (.save_credential state.username cred)
  return ok_with []

/-- The checks of an assertion against a passkey; the answer is the new counter.
    A counter of zero is not compared. -/
def check_assertion (p : Conformance) (st : FidoState) (cred : StoredCredential) (m : Asserted) (require_uv : Bool) :
    Except String UInt32 := do
  let client_data ← verify.check_client_data p.toSite m.client_data_json "webauthn.get" m.challenge st.origin
  let auth_data ← es256.b64url_decode p.toJose m.authenticator_data
  let ad ← verify.parse_auth_data auth_data
  verify.check_rp_id_hash p.toSite ad.rp_id_hash st.rp_id
  verify.check_flags ad.flags require_uv
  verify.verify_assertion p.toSite cred.key auth_data client_data (← es256.b64url_decode p.toJose m.signature)
  let sign_count := UInt32.ofNat ad.sign_count
  refuse (sign_count ≠ 0 ∧ sign_count ≤ cred.sign_count) "signCount did not increase (possible clone)"
  return sign_count

/-- Stores the counter of an assertion that was accepted. -/
def assertion_result (p : Conformance) (st : FidoState) (body : String) : Prog FidoStore Response := do
  match asserted p body with
  | .error e => return failed e
  | .ok m =>
  let some state ← ask (.get_challenge m.challenge) | return failed "challenge state not found or expired"
  let require_uv := state.user_verification = some "required"
  let some cred := (← ask (.find_credentials state.username)).find? fun c => c.id == m.cred_id
    | return failed "unknown credential id"
  match check_assertion p st cred m require_uv with
  | .error e => return failed e
  | .ok new_count =>
  ask (.update_sign_count state.username m.cred_id new_count)
  return ok_with []

end RustOp.Web.fido
