import RustOp.JsonFormat
import RustOp.AdminRegistry
import RustOp.RoundTrip
import RustOp.Web.AdminConsole

/-!
A console for the witnesses: clients and the constraints of tokens are printed
and read as their derived serializers do it.
-/
namespace RustOp.Reference
open RustOp.Web RustOp.Effects RustOp.JsonText

section text
open Format

def strings : Format (List String) := list string string_opens

def optional : Format (Option String) := option string string_not_null

def jwk : Format JwkPub :=
  ((field "\x7b\"kid\":" string (field ",\"x\":" string (after ",\"y\":" string))).before "\x7d").map
    (fun k => ⟨k.1, k.2.1, k.2.2⟩) (fun k => (k.kid, k.x, k.y)) fun _ => rfl

def client : Format Client :=
  ((field "\x7b\"client_id\":" string <| field ",\"redirect_uris\":" strings <|
    field ",\"token_endpoint_auth_method\":" string <| field ",\"client_secret\":" optional <|
    field ",\"grant_types\":" strings <| field ",\"post_logout_redirect_uris\":" strings <|
    field ",\"dpop_bound\":" bool <| field ",\"jwks\":" (list jwk fun _ => ⟨_, _, rfl, by decide⟩) <|
    field ",\"jwks_uri\":" optional <| field ",\"require_par\":" bool <| field ",\"require_pkce\":" bool <|
    after ",\"id_token_signed_response_alg\":" optional).before "\x7d").map
    (fun (client_id, redirect_uris, method, secret, grants, logouts, dpop_bound, jwks, jwks_uri, par, pkce, alg) =>
      ⟨client_id, redirect_uris, method, secret, grants, logouts, dpop_bound, jwks, jwks_uri, par, pkce, alg⟩)
    (fun c => (c.client_id, c.redirect_uris, c.token_endpoint_auth_method, c.client_secret, c.grant_types,
      c.post_logout_redirect_uris, c.dpop_bound, c.jwks, c.jwks_uri, c.require_par, c.require_pkce,
      c.id_token_signed_response_alg)) fun _ => rfl

/-- The names of the profiles. -/
def profile_name : dcr.ClientProfile → String
  | .Public => "public"
  | .ConfidentialSecret => "confidential_secret"
  | .ConfidentialKey => "confidential_key"

def profile_of_name (name : String) : Option dcr.ClientProfile :=
  [dcr.ClientProfile.Public, .ConfidentialSecret, .ConfidentialKey].find? fun profile => profile_name profile == name

def constraints : Format dcr.IatConstraints :=
  ((field "\x7b\"allowed_redirect_hosts\":" strings <| field ",\"allowed_grant_types\":" strings <|
    after ",\"profile\":" (string.filterMap profile_of_name profile_name fun profile => by cases profile <;> decide)).before
    "\x7d").map (fun c => ⟨c.1, c.2.1, c.2.2⟩) (fun c => (c.allowed_redirect_hosts, c.allowed_grant_types, c.profile))
    fun _ => rfl

end text

/-- What is asked for, as text and as it is read. -/
def registrationText : String := "\x7b\"redirect_uris\":[\"https://rp.example.com/cb\"]\x7d"
def registrationValue : Json := .obj [("redirect_uris", .arr [.str "https://rp.example.com/cb"])]

/-- The library functions, as they answer on these texts. -/
def console : Console where
  toServer :=
    { RoundTrip.server with
      from_str := fun text => if text = registrationText then some registrationValue else none
      clients := []
      client_from_str := client.decode
      has_firestore := true
      decode_basic := fun text => if text = "Y2liYS1ycDpzZWNyZXQ=" then some "ciba-rp:secret" else none }
  client_to_string c := .ok (client.encode c)
  client_error _ := "expected value at line 1 column 1"
  constraints_to_string c := .ok (constraints.encode c)
  constraints_from_str text := ok_or (constraints.decode text) "expected value at line 1 column 1"
  admins := admin_store.registry
  localize _ text := (text.replace "[[" "").replace "]]" ""
  invite_clients := []
  to_lowercase text := text.map Char.toLower

/-- What is written of a client is read back. -/
theorem console_reads_clients (c : Client) : console.client_from_str (client.encode c) = some c := by
  have library : console.client_from_str = client.decode := rfl
  rw [library, Format.decode_encode]

theorem console_trips : dcr_store.RoundTrips console.toRegistrar := by
  intro client json printed
  cases printed
  exact console_reads_clients client

end RustOp.Reference
