import RustOp.Web.Dcr
import RustOp.Reference

/-!
What the administrator grants with an initial access token, and the clients that
are registered with it.
-/
namespace RustOp.Web.dcr
open RustOp.Effects RustOp.Effects.Checks RustOp.Text

/-- How a client has to authenticate, and what else is required of it. -/
structure Requirements where
  token_endpoint_auth_method : String
  par : Bool
  pkce : Bool
  dpop : Bool
deriving DecidableEq, Repr

/-- What each profile stands for. -/
def ClientProfile.requirements : ClientProfile → Requirements
  | .Public => ⟨"none", false, true, true⟩
  | .ConfidentialSecret => ⟨"client_secret_basic", false, true, false⟩
  | .ConfidentialKey => ⟨"private_key_jwt", true, true, true⟩

/-- What is required of a client. A public one always needs PKCE. -/
def requirements_of (client : Client) : Requirements :=
  ⟨client.token_endpoint_auth_method, client.require_par, client.is_public || client.require_pkce, client.dpop_bound⟩

/-- A registered client stays within its token. -/
structure WithinToken (p : Platform) (c : IatConstraints) (o : RegistrationOutcome) : Prop where
  grants : ∀ g ∈ o.client.grant_types, g ∈ c.allowed_grant_types
  profile : requirements_of o.client = c.profile.requirements
  /-- A secret is shown exactly for its profile, and its hash is what is stored. -/
  shown : o.raw_client_secret.isSome = true ↔ c.profile = .ConfidentialSecret
  stored : o.client.client_secret = o.raw_client_secret.map (hash_token p)

section registration
variable {p : Platform} {random : List UInt8} {client_id : String} {req : RegistrationRequest} {c : IatConstraints}
  {o : RegistrationOutcome}

/-- The profile alone decides how the client authenticates. -/
theorem with_profile_requirements {profile : ClientProfile} (made : with_profile p random client_id req profile = .ok o) :
    requirements_of o.client = profile.requirements ∧ (o.raw_client_secret.isSome = true ↔ profile = .ConfidentialSecret) ∧
      o.client.client_secret = o.raw_client_secret.map (hash_token p) := by
  cases profile with
  | ConfidentialKey =>
    simp only [with_profile, bind_eq_ok, pure_eq_ok] at made
    obtain ⟨-, -, rfl⟩ := made
    exact ⟨rfl, by simp, rfl⟩
  | ConfidentialSecret =>
    cases made
    exact ⟨rfl, by simp, rfl⟩
  | Public =>
    cases made
    exact ⟨rfl, by simp, rfl⟩

/-- A request without grant types is for codes. -/
theorem with_profile_grants {profile : ClientProfile} (made : with_profile p random client_id req profile = .ok o) :
    o.client.grant_types = if req.grant_types.isEmpty then ["authorization_code"] else req.grant_types := by
  cases profile with
  | ConfidentialKey =>
    simp only [with_profile, bind_eq_ok, pure_eq_ok] at made
    obtain ⟨-, -, rfl⟩ := made
    rfl
  | ConfidentialSecret =>
    cases made
    rfl
  | Public =>
    cases made
    rfl

/-- A client stays within its token exactly if its request named grant types, or the
    token allows codes. -/
theorem registered_within_token_iff (made : validate_registration p random client_id req c = .ok o) :
    WithinToken p c o ↔ req.grant_types ≠ [] ∨ "authorization_code" ∈ c.allowed_grant_types := by
  obtain ⟨-, -, -, allowed, made⟩ := validate_registration_eq_ok.mp made
  have grants := with_profile_grants made
  obtain ⟨profile, shown, stored⟩ := with_profile_requirements made
  constructor
  · intro within
    by_cases none_named : req.grant_types = []
    · right
      apply within.grants
      rw [grants, none_named]
      exact List.mem_singleton_self _
    · exact .inl none_named
  · intro named
    refine ⟨fun g listed => ?_, profile, shown, stored⟩
    rw [grants] at listed
    by_cases none_named : req.grant_types = []
    · rw [none_named] at listed
      obtain rfl := List.mem_singleton.mp listed
      exact named.resolve_left (fun some_named => some_named none_named)
    · rw [if_neg (by simpa using none_named)] at listed
      exact allowed g listed

end registration

/-! ### A token without codes -/

section codeless
open Reference

/-- The token allows one grant. -/
def codeless (grant : String) : IatConstraints := ⟨["rp.example.com"], [grant], .ConfidentialSecret⟩

def bareRequest : RegistrationRequest := ⟨["https://rp.example.com/cb"], [], [], [], none⟩

private theorem bare_registered (grant : String) :
    ∃ o, validate_registration provider.toPlatform [] "dcr-1" bareRequest (codeless grant) = .ok o ∧
      o.client.grant_types = ["authorization_code"] := by
  have hosts : check_hosts DcrError.InsecureRedirectUri .RedirectHostNotAllowed ["rp.example.com"] ["https://rp.example.com/cb"] =
      .ok () := by decide +kernel
  exact ⟨_, validate_registration_eq_ok.mpr ⟨rfl, hosts, rfl, by simp [bareRequest], rfl⟩, rfl⟩

theorem registered_within_token_bare :
    ∃ o, validate_registration provider.toPlatform [] "dcr-1" bareRequest (codeless "authorization_code") = .ok o ∧
      (WithinToken provider.toPlatform (codeless "authorization_code") o ↔
        bareRequest.grant_types ≠ [] ∨ "authorization_code" ∈ (codeless "authorization_code").allowed_grant_types) := by
  obtain ⟨o, made, -⟩ := bare_registered "authorization_code"
  exact ⟨o, made, registered_within_token_iff made⟩

/-- A request that names no grant gets one that the token does not allow. -/
theorem registered_beyond_token :
    ∃ o, validate_registration provider.toPlatform [] "dcr-1" bareRequest (codeless "refresh_token") = .ok o ∧
      ¬ WithinToken provider.toPlatform (codeless "refresh_token") o := by
  obtain ⟨o, made, grants⟩ := bare_registered "refresh_token"
  refine ⟨o, made, fun within => ?_⟩
  have listed := within.grants "authorization_code" (by rw [grants]; exact List.mem_singleton_self _)
  revert listed
  decide

end codeless
end RustOp.Web.dcr
