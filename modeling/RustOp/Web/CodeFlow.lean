import RustOp.RoundTrip
import RustOp.Web.Pushed
import RustOp.Web.Service

/-!
The authorization code flow under concurrency: any number of requests to the
authorization, login, pushing and token endpoints take turns at single requests to
Firestore, each of which may fail. What a token request redeems can be followed
back through the documents to the requests that put it there.
-/
namespace RustOp.Web.CodeFlow
open RustOp.Effects RustOp.Text RustOp.Firestore

/-! ### Requests -/

inductive Request where
  | authorize (sid raw : Option String)
  | resume (q : Form)
  | cancel (uid : String)
  | login (uid : String) (shown : AuthVerifyReq)
  | par (headers : Headers) (body : String)
  | token (headers : Headers) (form : Form)

namespace Request

/-- The request and its answer; a login may set a cookie. -/
def run (p : Site) (uuid : Draw → String) : Request → Prog Host (Option String × Response)
  | .authorize sid raw => return (none, ← Web.authorize p.toServer uuid sid raw)
  | .resume q => return (none, ← authorize_resume p.toServer uuid q)
  | .cancel uid => return (none, ← authorize_cancel p.toServer uid)
  | .login uid shown => login_passkey_verify p uuid uid shown
  | .par headers body => return (none, ← Web.par p.toServer uuid headers body)
  | .token headers form => return (none, ← Web.token p.toServer uuid headers form)

/-- What the request may do. -/
def Lawful (p : Site) (uuid : Draw → String) : Request → Past Host → HostOp → Prop
  | .authorize sid raw => AuthorizeSaves uuid p.toServer sid (raw.getD "")
  | .resume q => ResumeSaves uuid p.toServer ((q.get "uid").getD "")
  | .cancel _ => fun _ => Plain
  | .login uid shown => LoginSaves p uid shown
  | .par headers body => ParSaves uuid p.toServer headers body
  | .token _ _ => fun _ => TokenFree

/-- What its answer says. -/
def Ends (p : Site) (uuid : Draw → String) : Request → Past Host → Option String × Response → Prop
  | .authorize _ _ => fun past r => Answers p.toServer (· = p.path ("/login/" ++ uuid .interaction_uid)) past r.2
  | .resume _ | .cancel _ => fun past r => Answers p.toServer (fun _ => False) past r.2
  | .token headers form => fun past r => form.get "grant_type" = some "authorization_code" → ∀ resp, r.2 = .token resp →
      ∃ client jkt code c, Redeemed p.toServer headers form past client jkt code c ∧ TokensOf uuid past c jkt resp
  | .login _ _ | .par _ _ => fun _ _ => True

theorem run_justified (p : Site) (uuid : Draw → String) (req : Request) :
    (req.run p uuid).Justified (req.Lawful p uuid) (req.Ends p uuid) [] := by
  cases req with
  | authorize sid raw => exact (authorize_justified uuid sid raw).bind fun _ _ _ ends => .ret ends
  | resume q =>
    refine (authorize_resume_justified uuid q _ fun u named => ?_).bind fun _ _ _ ends => .ret ends
    rw [named]
    rfl
  | cancel uid => exact (authorize_cancel_justified uid).bind fun _ _ _ ends => .ret ends
  | login uid shown => exact login_passkey_verify_justified uuid uid shown
  | par headers body => exact (par_justified p.toServer uuid headers body).bind fun _ _ _ _ => .ret trivial
  | token headers form =>
    by_cases grant : form.get "grant_type" = some "authorization_code"
    · exact (token_justified uuid headers form grant).bind fun _ _ _ ends => .ret fun _ => ends
    · have free := Prog.Justified.of_uses (J := fun _ : Past Host => TokenFree) (fun _ _ free => free)
        (token_uses (p := p.toServer) uuid headers form) []
      exact free.bind fun _ _ _ _ => .ret fun same => absurd same grant

end Request

/-- The requests with what each may do. -/
def service (p : Site) (ent : Entropy) (requests : ℕ → Request) : Service (Option String × Response) where
  run := fun i => (requests i).run p (ent.uuid i)
  Lawful := fun i => (requests i).Lawful p (ent.uuid i)
  Ends := fun i => (requests i).Ends p (ent.uuid i)
  justified := fun i => (requests i).run_justified p (ent.uuid i)

/-- Requests about to begin. -/
abbrev pool (p : Site) (ent : Entropy) (jwks : ℕ → String → String → Option JwkPub) (requests : ℕ → Request) (db : Db) :
    Pool Fs Db ℕ (Option String × Response) := (service p ent requests).pool jwks db

/-- The run of any number of requests, among anything else that writes no such record. -/
abbrev Run (c c' : Pool Fs Db ℕ (Option String × Response)) : Prop := Service.Run FlowCol c c'

/-- What a thread may ask of Firestore. -/
abbrev Allowed (p : Site) (ent : Entropy) (jwks : ℕ → String → String → Option JwkPub) (requests : ℕ → Request) :
    ℕ → Past Fs → FsOp → Prop := (service p ent requests).Allowed jwks

end RustOp.Web.CodeFlow
