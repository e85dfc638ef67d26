import RustOp.RoundTrip
import RustOp.Web.Consents
import RustOp.Web.Service

/-!
The backchannel flow under concurrency: clients ask and poll, users look, approve
and reject, in any number and in any order of single requests to Firestore, each of
which may fail. What a document says of a request can be followed back to the
client that asked for it and to the user who decided.
-/
namespace RustOp.Web.CibaFlow
open RustOp.Effects RustOp.Text RustOp.Firestore

/-! ### Requests -/

inductive Request where
  | backchannel (admitted : Bool) (headers : Headers) (form : Form)
  | approve_options (auth_req_id : String)
  | approve (auth_req_id : String) (shown : AuthVerifyReq)
  | reject (auth_req_id : String)
  | pending_list (headers : Headers)
  | history (headers : Headers)
  | token (headers : Headers) (form : Form)

namespace Request

def run (p : Site) (uuid : Draw → String) : Request → Prog Host Response
  | .backchannel admitted headers form => backchannel_auth p uuid admitted headers form
  | .approve_options auth_req_id => ciba_approve_options p uuid auth_req_id
  | .approve auth_req_id shown => ciba_approve p auth_req_id shown
  | .reject auth_req_id => ciba_reject auth_req_id
  | .pending_list headers => ciba_pending_list p.toServer headers
  | .history headers => ciba_history p.toServer headers
  | .token headers form => Web.token p.toServer uuid headers form

/-- What the request may do. -/
def Lawful (p : Site) (uuid : Draw → String) : Request → Past Host → HostOp → Prop
  | .backchannel _ headers form => BackchannelSaves uuid p headers form
  | .approve_options _ => fun _ => CibaFree
  | .approve auth_req_id shown => Settles auth_req_id .Approved "approved" (Approved p auth_req_id shown)
  | .reject auth_req_id => Settles auth_req_id .Denied "denied" (Rejects auth_req_id)
  | .pending_list _ | .history _ => fun _ => ListSaves
  | .token _ _ => fun _ => TokenFree

/-- What its answer says. -/
def Ends (p : Site) (uuid : Draw → String) : Request → Past Host → Response → Prop
  | .approve auth_req_id shown => fun past r => r = .json 200 (.obj [("ok", .bool true)]) →
      (∃ req, Approved p auth_req_id shown past req) ∧
        ⟨.backend (.ciba (.transition_if_pending auth_req_id .Approved)), .ok true⟩ ∈ past
  | .reject auth_req_id => fun past r => r = .text 204 "" →
      ⟨.backend (.ciba (.transition_if_pending auth_req_id .Denied)), .ok true⟩ ∈ past
  | .pending_list headers => fun past r => ∀ entries, r = .json 200 (.arr entries) →
      ∃ at_ rs, (authenticate_token p.toServer headers "GET" "/ciba/pending" none).Gave (.ok at_) past ∧
        entries = rs.map (shown_request p.toProvider) ∧
        (rs ≠ [] → ⟨.backend (.ciba (.list_pending at_.account_id)), .ok rs⟩ ∈ past)
  | .history headers => fun past r => ∀ entries, r = .json 200 (.arr entries) →
      ∃ at_ es, (authenticate_token p.toServer headers "GET" "/ciba/history" none).Gave (.ok at_) past ∧
        entries = es.map (shown_entry p.toProvider) ∧
        (es ≠ [] → ⟨.backend (.ciba (.list_history at_.account_id 50)), .ok es⟩ ∈ past)
  | .token headers form => fun past r => form.get "grant_type" = some CIBA_GRANT → ∀ resp, r = .token resp →
      ∃ client jkt auth_req_id r, Consumed p.toServer headers form past client jkt auth_req_id r ∧
        ConsentTokens p.toProvider uuid past client r jkt resp
  | _ => fun _ _ => True

theorem run_justified (p : Site) (uuid : Draw → String) (req : Request) :
    (req.run p uuid).Justified (req.Lawful p uuid) (req.Ends p uuid) [] := by
  cases req with
  | backchannel admitted headers form => exact backchannel_auth_justified uuid admitted headers form
  | approve_options auth_req_id =>
    exact (Prog.Justified.of_uses (J := fun _ : Past Host => CibaFree) (fun _ _ free => free)
      (ciba_approve_options_uses uuid auth_req_id) []).mono fun _ _ _ _ => trivial
  | approve auth_req_id shown => exact ciba_approve_justified auth_req_id shown
  | reject auth_req_id => exact ciba_reject_justified auth_req_id
  | pending_list headers => exact ciba_pending_list_justified headers
  | history headers => exact ciba_history_justified headers
  | token headers form =>
    by_cases grant : form.get "grant_type" = some CIBA_GRANT
    · exact (ciba_token_justified uuid headers form grant).mono fun _ _ _ ends _ => ends
    · have free := Prog.Justified.of_uses (J := fun _ : Past Host => TokenFree) (fun _ _ free => free)
        (token_uses (p := p.toServer) uuid headers form) []
      exact free.mono fun _ _ _ _ same => absurd same grant

end Request

/-- The requests with what each may do. -/
def service (p : Site) (ent : Entropy) (requests : ℕ → Request) : Service Response where
  run := fun i => (requests i).run p (ent.uuid i)
  Lawful := fun i => (requests i).Lawful p (ent.uuid i)
  Ends := fun i => (requests i).Ends p (ent.uuid i)
  justified := fun i => (requests i).run_justified p (ent.uuid i)

/-- Requests about to begin. -/
abbrev pool (p : Site) (ent : Entropy) (jwks : ℕ → String → String → Option JwkPub) (requests : ℕ → Request) (db : Db) :
    Pool Fs Db ℕ Response := (service p ent requests).pool jwks db

/-- The run of any number of requests, among anything else that writes no request
    and no outcome. -/
abbrev Run (c c' : Pool Fs Db ℕ Response) : Prop := Service.Run CibaCol c c'

/-- What a thread may ask of Firestore. -/
abbrev Allowed (p : Site) (ent : Entropy) (jwks : ℕ → String → String → Option JwkPub) (requests : ℕ → Request) :
    ℕ → Past Fs → FsOp → Prop := (service p ent requests).Allowed jwks

/-! ### Requests and outcomes as they are stored -/

/-- The same request as Firestore keeps it, whatever became of it. -/
structure Keeps (r₀ r : BackchannelAuthRequest) : Prop where
  auth_req_id : r.auth_req_id = r₀.auth_req_id
  client_id : r.client_id = r₀.client_id
  account : r.account = r₀.account
  scope : r.scope = r₀.scope
  binding_message : r.binding_message = r₀.binding_message
  authorization_details : r.authorization_details = r₀.authorization_details.filter (!·.isEmpty)
  expires_at : r₀.expires_at < YEAR_10000 → r.expires_at = r₀.expires_at

theorem Keeps.trans {a b c : BackchannelAuthRequest} (first : Keeps a b) (last : Keeps b c) : Keeps a c where
  auth_req_id := last.auth_req_id.trans first.auth_req_id
  client_id := last.client_id.trans first.client_id
  account := last.account.trans first.account
  scope := last.scope.trans first.scope
  binding_message := last.binding_message.trans first.binding_message
  authorization_details := by
    rw [last.authorization_details, first.authorization_details, Option.filter_filter]
    simp
  expires_at := fun early => by
    have same := first.expires_at early
    exact (last.expires_at (same ▸ early)).trans same

/-- Reading back gives the same request, with its status. -/
theorem decoded_request (r : BackchannelAuthRequest) :
    Keeps r (BackchannelAuthRequest.from_fields r.auth_req_id (BackchannelAuthRequest.fields r)) ∧
      (BackchannelAuthRequest.from_fields r.auth_req_id (BackchannelAuthRequest.fields r)).status = r.status := by
  have expiry : (BackchannelAuthRequest.fields r).get "expiresAt" = some (ts r.expires_at) := by
    simp [BackchannelAuthRequest.fields, Table.ofEntries, Table.get_put]
  have details : field_str (BackchannelAuthRequest.fields r) "authorizationDetails" = r.authorization_details := by
    have stored : (BackchannelAuthRequest.fields r).get "authorizationDetails" = r.authorization_details.map .string := by
      simp [BackchannelAuthRequest.fields, Table.ofEntries, Table.get_put]
    cases given : r.authorization_details <;> simp [field_str, stored, given]
  refine ⟨⟨rfl, ?_, ?_, ?_, ?_, congrArg (Option.filter fun d : String => !d.isEmpty) details, fun early => ?_⟩, ?_⟩
  iterate 4 · simp [BackchannelAuthRequest.from_fields, BackchannelAuthRequest.fields, Table.ofEntries, Table.get_put, field_str]
  · simp [BackchannelAuthRequest.from_fields, field_ts_secs_ts expiry early]
  · simp [BackchannelAuthRequest.from_fields, BackchannelAuthRequest.fields, Table.ofEntries, Table.get_put, field_str,
      CibaStatus.parse_as_str]

/-- Equal documents are of the same request. -/
theorem keeps_of_fields_eq {a b : BackchannelAuthRequest} (id : a.auth_req_id = b.auth_req_id)
    (same : BackchannelAuthRequest.fields a = BackchannelAuthRequest.fields b) {r : BackchannelAuthRequest} (keeps : Keeps a r) :
    r.client_id = b.client_id ∧ r.account = b.account ∧ r.scope = b.scope ∧ r.binding_message = b.binding_message ∧
      r.authorization_details = b.authorization_details.filter (!·.isEmpty) := by
  have decoded := (decoded_request a).1
  rw [same, id] at decoded
  have decoded' := (decoded_request b).1
  refine ⟨?_, ?_, ?_, ?_, ?_⟩
  · rw [keeps.client_id, ← decoded.client_id, decoded'.client_id]
  · rw [keeps.account, ← decoded.account, decoded'.account]
  · rw [keeps.scope, ← decoded.scope, decoded'.scope]
  · rw [keeps.binding_message, ← decoded.binding_message, decoded'.binding_message]
  · rw [keeps.authorization_details, ← decoded.authorization_details, decoded'.authorization_details]

/-- What an outcome says, as Firestore keeps it. -/
theorem decoded_outcome (e : CibaHistoryEntry) :
    (CibaHistoryEntry.from_fields e.auth_req_id (CibaHistoryEntry.fields e)).outcome = e.outcome ∧
    (CibaHistoryEntry.from_fields e.auth_req_id (CibaHistoryEntry.fields e)).account = e.account ∧
    (CibaHistoryEntry.from_fields e.auth_req_id (CibaHistoryEntry.fields e)).client_id = e.client_id ∧
    (CibaHistoryEntry.from_fields e.auth_req_id (CibaHistoryEntry.fields e)).scope = e.scope ∧
    (CibaHistoryEntry.from_fields e.auth_req_id (CibaHistoryEntry.fields e)).binding_message = e.binding_message := by
  simp [CibaHistoryEntry.from_fields, CibaHistoryEntry.fields, Table.ofEntries, Table.get_put, field_str]

end RustOp.Web.CibaFlow
