import RustOp.Web.ProfileRace
import RustOp.Web.Register
import RustOp.Web.Token

/-!
Claims that are handed out: which of them a scope releases, the answer of the
userinfo endpoint, and the page on which users edit their profile.
-/
namespace RustOp.Web
open RustOp.Effects RustOp.Firestore RustOp.Text registration

/-! ### Scopes -/

namespace claims

def PROFILE : List String :=
  ["name", "family_name", "given_name", "middle_name", "nickname", "preferred_username", "profile", "picture", "website",
    "gender", "birthdate", "zoneinfo", "locale", "updated_at"]

def EMAIL : List String := ["email", "email_verified"]
def ADDRESS : List String := ["address"]
def PHONE : List String := ["phone_number", "phone_number_verified"]

/-- The claims of one word of a scope. -/
def of_scope (s : String) : List String :=
  if s = "profile" then PROFILE
  else if s = "email" then EMAIL
  else if s = "address" then ADDRESS
  else if s = "phone" then PHONE
  else []

/-- The claims that a scope releases. The subject is always among them. -/
def claim_names_for_scopes (scope : String) : List String := "sub" :: (split_whitespace scope).flatMap of_scope

theorem mem_claim_names {scope k : String} :
    k ∈ claim_names_for_scopes scope ↔ k = "sub" ∨ ∃ s ∈ split_whitespace scope, k ∈ of_scope s := by
  simp [claim_names_for_scopes]

/-- Two claims come with one word only. -/
theorem email_released {scope k : String} (email : k ∈ EMAIL) (released : k ∈ claim_names_for_scopes scope) :
    "email" ∈ split_whitespace scope := by
  rcases mem_claim_names.mp released with rfl | ⟨s, word, listed⟩
  · simp [EMAIL] at email
  · by_cases is : s = "email"
    · rwa [← is]
    · exfalso
      revert listed
      simp only [of_scope, is, if_false]
      have elsewhere : k ∉ PROFILE ∧ k ∉ ADDRESS ∧ k ∉ PHONE := by
        simp only [EMAIL, List.mem_cons, List.not_mem_nil, or_false] at email
        rcases email with rfl | rfl
        · simp [PROFILE, ADDRESS, PHONE]
        · simp [PROFILE, ADDRESS, PHONE]
      split_ifs
      · exact elsewhere.1
      · exact elsewhere.2.1
      · exact elsewhere.2.2
      · exact List.not_mem_nil

end claims

/-! ### Endpoints -/

/-- The provider as its users see it. -/
structure ProfileSite extends Site where
  /-- `serde_json::from_str::<HashMap<String, String>>` -/
  string_map_from_str : String → Except String (Table String String)

/-- The claims among the released ones that an account has. -/
def released (scope : String) (account : Table String Json) : Table String Json :=
  .ofEntries ((claims.claim_names_for_scopes scope).map fun name => (name, account.get name))

theorem get_released (scope : String) (account : Table String Json) (k : String) :
    (released scope account).get k = if k ∈ claims.claim_names_for_scopes scope then account.get k else none :=
  Table.get_ofEntries_map _ _ k

namespace oidc

/-- Whoever shows an access token gets the claims of its account that its scope
    releases. -/
def userinfo_respond (p : Server) (headers : Headers) (method : String) (body_token : Option String) : Prog Host Response := do
  match ← authenticate_token p headers method "/userinfo" body_token with
  | .error r => return r
  | .ok at_ =>
  let account ← firestore (FirestoreStore.find_account at_.account_id)
  return .json 200 (.obj (released at_.scope account.claims).pairs)

def userinfo_get (p : Server) (headers : Headers) : Prog Host Response := userinfo_respond p headers "GET" none

/-- The token may be in the body too. -/
def userinfo_post (p : Server) (headers : Headers) (body : String) : Prog Host Response :=
  userinfo_respond p headers "POST" ((p.form body).get "access_token")

/-- Merges the fields of the body into the profile of whoever shows the token. -/
def profile_put (p : ProfileSite) (headers : Headers) (body : String) : Prog Host Response := do
  match ← authenticate_token p.toServer headers "PUT" "/me/profile" none with
  | .error r => return r
  | .ok at_ =>
  if !p.has_firestore then
    return .text 501 "profile store unavailable"
  firestore (RustOp.Web.profile_put at_.account_id (p.string_map_from_str body))

end oidc
end RustOp.Web
