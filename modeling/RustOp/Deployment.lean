import RustOp.Firestore.Contract
import RustOp.TokenRuns
import RustOp.Reference

/-!
The two storage implementations a provider can run with.
-/
namespace RustOp
open RustOp.Effects RustOp.Text

/-- Memory for development and tests, Firestore in production. -/
inductive Deployment where
  | memory
  | firestore

namespace Deployment

@[reducible] def State : Deployment → Type
  | .memory => Memory.Mem
  | .firestore => Firestore.Db

def handler : (d : Deployment) → Prog.Handler Backend d.State
  | .memory => Memory.exec
  | .firestore => Firestore.storage

/-- Both keep the contract of a token store. -/
def tokens : (d : Deployment) → TokenStore d.State d.handler
  | .memory => Memory.tokenStore
  | .firestore => Firestore.tokenStore

/-- Storage without records, at time 0. -/
def blank : (d : Deployment) → d.State
  | .memory => { clock := 0 }
  | .firestore => { clock := 0 }

/-- The world after a list of requests on blank storage. -/
def after (d : Deployment) (p : Provider) (ent : Entropy) (events : List Event) : World d.State :=
  events.foldl (fun w e => w.after d.handler p ent e) ⟨d.blank, 0, []⟩

theorem reachable_after (d : Deployment) (p : Provider) (ent : Entropy) (events : List Event) :
    (d.after p ent events).Reachable d.tokens p ent := by
  have start : World.Start d.tokens ⟨d.blank, 0, []⟩ := by
    cases d with
    | memory => exact ⟨trivial, fun _ => rfl, fun _ => rfl, fun _ => rfl, rfl⟩
    | firestore =>
      have early : 0 + REFRESH_TTL_SECS < Firestore.YEAR_10000 := by decide
      exact ⟨early, fun _ => rfl, fun _ => rfl, fun _ => rfl, rfl⟩
  refine ⟨_, start, ?_⟩
  unfold after
  generalize (⟨d.blank, 0, []⟩ : World d.State) = w
  induction events generalizing w with
  | nil => exact .refl
  | cons e rest ih => exact .head (.serve w e) (ih _)

/-- The entry of one more request. -/
def entry (d : Deployment) (p : Provider) (ent : Entropy) (events : List Event) (e : Event) : Entry d.State :=
  let w := d.after p ent events
  let out := serve d.handler p (ent.uuid w.served) w.state e
  ⟨w.served, w.state, e, out.1, out.2⟩

theorem log_after (d : Deployment) (p : Provider) (ent : Entropy) (events : List Event) (e : Event) :
    (d.after p ent (events ++ [e])).log = d.entry p ent events e :: (d.after p ent events).log := by
  unfold after
  rw [List.foldl_append]
  rfl

end Deployment

namespace Reference

/-- A code for `rp` that asks for a refresh token. -/
def offlineCode : AuthorizationCode where
  code := "c"
  client_id := "rp"
  account_id := "alice"
  redirect_uri := "https://rp/cb"
  scope := "openid offline_access"
  nonce := none
  code_challenge := none
  code_challenge_method := none
  auth_time := 0
  acr := none
  dpop_jkt := none
  resource := none
  expires_at := 60

/-- The redemption of that code. -/
def redeemForm : Form := [("code", "c"), ("redirect_uri", "https://rp/cb")]

/-- Firestore after the code was saved. -/
def codeSaved : Firestore.Db := (Firestore.storage (.store (.save_code offlineCode)) { clock := 0 }).2

/-- A code is issued and redeemed. -/
def redeemed : List Event := [.issue offlineCode] ++ [.redeem rp redeemForm none]

/-- Then its refresh token is rotated. -/
def rotated : List Event := redeemed ++ [.refresh rp [("refresh_token", "1r")] none]

end Reference
end RustOp
