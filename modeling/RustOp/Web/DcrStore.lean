import RustOp.Web.Dcr
import RustOp.Web.Registration

/-!
Registered clients and initial access tokens as documents, and the endpoint that
registers a client. A token is looked at first and spent only for a request that
has passed every check, in the version that was looked at.
-/
namespace RustOp.Web
open RustOp.Effects RustOp.Text RustOp.Firestore

/-- `serde_json` on what registration stores. -/
structure Registrar extends Server where
  client_to_string : Client → Except String String
  /-- The message where `client_from_str` finds no client. -/
  client_error : String → String
  constraints_to_string : dcr.IatConstraints → Except String String
  constraints_from_str : String → Except String dcr.IatConstraints

namespace dcr_store

def CLIENTS : Col := .clients
def DCR_TOKENS : Col := .dcrTokens

/-- The fields of a client with a given text. -/
def client_fields (json : String) : Fields := .ofEntries [("json", some (.string json))]

/-- The client that a document holds. -/
def client_of (p : Server) (fields : Fields) : Option Client := (field_str fields "json").bind p.client_from_str

/-- What is written of a client is read back. -/
def RoundTrips (p : Registrar) : Prop := ∀ client json, p.client_to_string client = .ok json → p.client_from_str json = some client

@[simp] theorem client_fields_json (json : String) : field_str (client_fields json) "json" = some json := by
  simp [client_fields, field_str, Table.ofEntries, Table.get_put]

theorem RoundTrips.client_of {p : Registrar} (trips : RoundTrips p) {client : Client} {json : String}
    (printed : p.client_to_string client = .ok json) : client_of p.toServer (client_fields json) = some client := by
  rw [dcr_store.client_of, client_fields_json, Option.bind_some, trips client json printed]

/-- A client is created; an existing one stays as it is. -/
def save_client (p : Registrar) (client : Client) : Prog Fs (Except String Unit) := do
  match p.client_to_string client with
  | .error e => return .error ("serialize client: " ++ e)
  | .ok json =>
  match ← Firestore.fs (.create_if_absent CLIENTS client.client_id (client_fields json)) with
  | .error e => return .error e
  | .ok true => return .ok ()
  | .ok false => return .error ("client " ++ client.client_id ++ " already exists")

def load_client_with_version (p : Registrar) (client_id : String) : Prog Fs (Except String (Option (Client × Nat))) := do
  match ← Firestore.fs (.get_doc_with_update_time CLIENTS client_id) with
  | .error e => return .error e
  | .ok none => return .ok none
  | .ok (some (fields, update_time)) =>
  match field_str fields "json" with
  | none => return .error "client: missing json field"
  | some json =>
  match p.client_from_str json with
  | none => return .error ("client json: " ++ p.client_error json)
  | some client => return .ok (some (client, update_time))

/-- Writes a client that was read, unless somebody wrote it since. -/
def put_client_if_unchanged (p : Registrar) (client : Client) (update_time : Nat) : Prog Fs (Except String Bool) := do
  match p.client_to_string client with
  | .error e => return .error ("serialize client: " ++ e)
  | .ok json => Firestore.fs (.set_doc_if_unchanged CLIENTS client.client_id (client_fields json) update_time)

/-- An initial access token as it was read. -/
structure Iat where
  constraints : dcr.IatConstraints
  expires_at : Nat
  update_time : Nat
  reusable : Bool

/-- Stores a token under its digest. -/
def put_iat (p : Registrar) (hash : String) (constraints : dcr.IatConstraints) (expires_at : Nat) (reusable : Bool) :
    Prog Fs (Except String Unit) := do
  match p.constraints_to_string constraints with
  | .error e => return .error ("serialize constraints: " ++ e)
  | .ok cj =>
  match ← Firestore.fs (.create_if_absent DCR_TOKENS hash
      (.ofEntries [("constraints", some (.string cj)), ("expires_at", some (.integer expires_at)),
        ("reusable", some (.boolean reusable))])) with
  | .error e => return .error e
  | .ok true => return .ok ()
  | .ok false => return .error "initial access token already exists"

/-- A token that nobody marked as reusable is spent by its first use. -/
def is_reusable (fields : Fields) : Bool := (field_bool fields "reusable").getD false

def parse_iat_fields (p : Registrar) (fields : Fields) : Except String (dcr.IatConstraints × Nat × Bool) := do
  let cj ← ok_or (field_str fields "constraints") "iat: missing constraints"
  let constraints ← (p.constraints_from_str cj).mapError ("iat constraints: " ++ ·)
  return (constraints, (field_u64 fields "expires_at").getD 0, is_reusable fields)

/-- Reads a token without spending it. -/
def peek_iat (p : Registrar) (hash : String) : Prog Fs (Except String (Option Iat)) := do
  match ← Firestore.fs (.get_doc_with_update_time DCR_TOKENS hash) with
  | .error e => return .error e
  | .ok none => return .ok none
  | .ok (some (fields, update_time)) =>
  match parse_iat_fields p fields with
  | .error e => return .error e
  | .ok (constraints, expires_at, reusable) => return .ok (some ⟨constraints, expires_at, update_time, reusable⟩)

end dcr_store

namespace oidc

def dcr_error (status : Nat) (error desc : String) : Response :=
  .json status (.obj [("error", .str error), ("error_description", .str desc)])

def json_string_array (v : Json) (key : String) : List String :=
  (((v.get key).bind dcr.as_array).map fun a => a.filterMap Json.as_str).getD []

def registration_request_from_json (j : Jose) (v : Json) : dcr.RegistrationRequest where
  redirect_uris := json_string_array v "redirect_uris"
  post_logout_redirect_uris := json_string_array v "post_logout_redirect_uris"
  grant_types := json_string_array v "grant_types"
  jwks := dcr.jwks_from_jwk_set j (v.get "jwks")
  jwks_uri := v.get_str "jwks_uri"

/-- What a client learns of its registration. -/
def register_response (c : Client) (raw_client_secret : Option String) (now : Nat) : Json :=
  .obj ([("client_id", .str c.client_id), ("client_id_issued_at", .num now),
    ("token_endpoint_auth_method", .str c.token_endpoint_auth_method), ("grant_types", .arr (c.grant_types.map .str)),
    ("redirect_uris", .arr (c.redirect_uris.map .str)),
    ("post_logout_redirect_uris", .arr (c.post_logout_redirect_uris.map .str)),
    ("require_pushed_authorization_requests", .bool c.require_par)] ++
    (c.jwks_uri.map fun uri => ("jwks_uri", .str uri)).toList ++
    (raw_client_secret.map fun secret => [("client_secret", .str secret), ("client_secret_expires_at", .num 0)]).getD [])

/-- A request to register, the random draws made for it, and whether the rate
    limit of its address lets it pass. -/
structure Registering where
  headers : Headers
  body : String
  uuid : String
  random : List UInt8
  passes : Bool

/-- The end of a registration that has passed the checks. -/
def register_checked (p : Registrar) (hash : String) (iat : dcr_store.Iat) (outcome : dcr.RegistrationOutcome) :
    Prog Fs Response := do
  match ← (if iat.reusable then return .ok true else Firestore.dcr_store.consume_iat hash iat.update_time) with
  | .error _ => return dcr_error 500 "server_error" "registration failed"
  | .ok false => return dcr_error 400 "invalid_token" "initial access token already used"
  | .ok true =>
  match ← dcr_store.save_client p outcome.client with
  | .error _ => return dcr_error 500 "server_error" "registration failed"
  | .ok () =>
  let now ← Firestore.fs .now
  return .json 201 (register_response outcome.client outcome.raw_client_secret now)

/-- What the request asks for, checked against its token. -/
def checked (p : Registrar) (r : Registering) (iat : dcr_store.Iat) : Except Response dcr.RegistrationOutcome := do
  refuse (!iat.reusable && !r.passes) (dcr_error 429 "too_many_requests" "registration rate limit exceeded; retry later")
  let v ← ok_or (p.from_str r.body) (dcr_error 400 "invalid_client_metadata" "request body is not valid JSON")
  let req := registration_request_from_json p.toJose v
  (dcr.validate_registration p.toPlatform r.random ("dcr-" ++ r.uuid) req iat.constraints).mapError
    fun e => dcr_error 400 e.code e.description

/-- A request that presents a token. -/
def register_with (p : Registrar) (r : Registering) (hash : String) : Prog Fs Response := do
  match ← dcr_store.peek_iat p hash with
  | .error _ => return dcr_error 500 "server_error" "registration failed"
  | .ok none => return dcr_error 401 "invalid_token" "unknown initial access token"
  | .ok (some iat) =>
  let now ← Firestore.fs .now
  if now ≥ iat.expires_at then
    return dcr_error 401 "invalid_token" "initial access token expired"
  match checked p r iat with
  | .error refused => return refused
  | .ok outcome => register_checked p hash iat outcome

def register (p : Registrar) (r : Registering) : Prog Fs Response := do
  if !p.has_firestore then
    return dcr_error 503 "temporarily_unavailable" "registration unavailable (no Firestore)"
  match auth_scheme_token r.headers with
  | some ("Bearer", raw_iat) => register_with p r (hash_token p.toPlatform raw_iat)
  | _ => return dcr_error 401 "invalid_token" "initial access token required"

end oidc
end RustOp.Web
