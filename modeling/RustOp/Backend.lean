import RustOp.Effects.Prog
import RustOp.Model

/-!
The storage interface of the provider: the operations of the `Store` and
`CibaStore` traits and the clock, as one signature. Handlers are written once
against it; each storage backend gives the operations their meaning.
-/
namespace RustOp
open RustOp.Effects

/-- Retention of each kind of record in seconds, shared by every store. -/
def INTERACTION_TTL_SECS : Nat := 3600
def SESSION_TTL_SECS : Nat := 7 * 24 * 3600
def ACCESS_TTL_SECS : Nat := 900
def REFRESH_TTL_SECS : Nat := 14 * 24 * 3600

inductive CibaStatus where
  | Pending
  | Approved
  | Denied
deriving DecidableEq, Repr

def CibaStatus.as_str : CibaStatus → String
  | .Pending => "pending"
  | .Approved => "approved"
  | .Denied => "denied"

def CibaStatus.parse (s : String) : CibaStatus :=
  if s = "approved" then .Approved else if s = "denied" then .Denied else .Pending

@[simp] theorem CibaStatus.parse_as_str (status : CibaStatus) : CibaStatus.parse status.as_str = status := by
  cases status <;> decide

/-- A backchannel authentication request. -/
structure BackchannelAuthRequest where
  auth_req_id : String
  client_id : String
  account : String
  scope : String
  binding_message : String
  status : CibaStatus
  expires_at : Nat
  authorization_details : Option String
deriving DecidableEq, Repr

def BackchannelAuthRequest.expired (req : BackchannelAuthRequest) (now : Nat) : Bool :=
  req.expires_at < now

/-- Lifetime of a backchannel request in seconds. -/
def CIBA_TTL_SECS : Nat := 300

structure CibaHistoryEntry where
  auth_req_id : String
  account : String
  client_id : String
  scope : String
  binding_message : String
  authorization_details : Option String
  outcome : String
  resolved_at : Nat
deriving DecidableEq, Repr

def CibaHistoryEntry.from_request (req : BackchannelAuthRequest) (outcome : String)
    (resolved_at : Nat) : CibaHistoryEntry where
  auth_req_id := req.auth_req_id
  account := req.account
  client_id := req.client_id
  scope := req.scope
  binding_message := req.binding_message
  authorization_details := req.authorization_details
  outcome := outcome
  resolved_at := resolved_at

/-- The operations of the `Store` trait that a request handler calls. -/
inductive StoreOp where
  | save_interaction (i : Interaction)
  | get_interaction (uid : String)
  | consume_interaction (uid : String)
  | save_session (s : Session)
  | get_session (sid : String)
  | delete_session (sid : String)
  | save_code (c : AuthorizationCode)
  | take_code (code : String)
  | link_issued_tokens (code access_token : String) (refresh_token : Option String)
  | save_access_token (t : AccessToken)
  | get_access_token (token : String)
  | revoke_access_token (token : String)
  | consume_mandate_if_unused (token : String)
  | save_refresh_token (t : RefreshToken)
  | get_refresh_token (token : String)
  | revoke_refresh_token (token : String)
  | mark_refresh_used (token : String) (replaced_by : Option String)
  | revoke_refresh_family (start_token : String)
  | sweep_expired

@[reducible] def StoreOp.Res : StoreOp → Type
  | .get_interaction _ => Option Interaction
  | .consume_interaction _ => Bool
  | .get_session _ => Option Session
  | .take_code _ => Option AuthorizationCode
  | .get_access_token _ => Option AccessToken
  | .consume_mandate_if_unused _ => Except String Bool
  | .get_refresh_token _ => Option RefreshToken
  | .mark_refresh_used _ _ => Bool
  | _ => Unit

/-- The operations of the `CibaStore` trait. `create` receives the identifier
    that the store draws. -/
inductive CibaOp where
  | create (auth_req_id client_id account scope binding_message : String)
      (authorization_details : Option String)
  | get (auth_req_id : String)
  | transition_if_pending (auth_req_id : String) (status : CibaStatus)
  | consume_if_approved (auth_req_id : String)
  | delete (auth_req_id : String)
  | list_pending (account : String)
  | record_history (entry : CibaHistoryEntry)
  | list_history (account : String) (limit : Nat)
  | sweep_expired (account : String)

@[reducible] def CibaOp.Res : CibaOp → Type
  | .create .. => Except String String
  | .get _ => Except String (Option BackchannelAuthRequest)
  | .transition_if_pending _ _ => Except String Bool
  | .consume_if_approved _ => Except String (Option BackchannelAuthRequest)
  | .delete _ => Except String Unit
  | .list_pending _ => Except String (List BackchannelAuthRequest)
  | .record_history _ => Except String Unit
  | .list_history _ _ => Except String (List CibaHistoryEntry)
  | .sweep_expired _ => Except String Nat

inductive BackendOp where
  | store (o : StoreOp)
  | ciba (o : CibaOp)
  | now

@[reducible] def BackendOp.Res : BackendOp → Type
  | .store o => o.Res
  | .ciba o => o.Res
  | .now => Nat

@[reducible] def Backend : Sig := ⟨BackendOp, BackendOp.Res⟩

/-- One call of the store. -/
@[simp] def store (o : StoreOp) : Prog Backend o.Res := .call (.store o) .ret
/-- One call of the store of backchannel requests. -/
@[simp] def ciba (o : CibaOp) : Prog Backend o.Res := .call (.ciba o) .ret
/-- One reading of the clock, in seconds. -/
@[simp] def now : Prog Backend Nat := .call .now .ret

end RustOp
