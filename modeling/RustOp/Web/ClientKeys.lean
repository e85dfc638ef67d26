import RustOp.Web.DcrStore
import RustOp.Web.Reference

/-!
The keys of a client: those it registered, and those it publishes under a URI.
Client assertions are verified with either, request objects with the former only.
-/
namespace RustOp.Web
open RustOp.Effects RustOp.Effects.Checks RustOp.Text

/-! ### The resolver -/

namespace JwksResolver
variable {published : Nat → String → Option (List JwkPub)} {now : Nat} {uri kid : String} {r : JwksResolver}

/-- The keys fetched from a URI that are still used. -/
def live (now : Nat) (uri : String) (r : JwksResolver) : Option Cached := (r.cache.get uri).filter fun c => c.expires_at > now

/-- The keys that a lookup at a URI sees: those that are still used, or else the
    ones that are fetched. -/
def offered (published : Nat → String → Option (List JwkPub)) (now : Nat) (uri : String) (r : JwksResolver) : List JwkPub :=
  match r.live now uri with
  | some c => c.keys
  | none => (fetch published now uri).getD []

theorem resolve_eq : (resolve published now uri kid r).1 = find (offered published now uri r) kid := by
  unfold resolve offered live
  cases (r.cache.get uri).filter fun c => c.expires_at > now with
  | some c => rfl
  | none => cases fetch published now uri <;> rfl

theorem find_isSome {keys : List JwkPub} : (find keys kid).isSome = true ↔ ∃ k ∈ keys, k.kid = kid := by
  simp [find, List.find?_isSome]

theorem find_mem {keys : List JwkPub} {k : JwkPub} (found : find keys kid = some k) : k ∈ keys :=
  List.mem_of_find?_eq_some found

end JwksResolver

/-- A process whose lookups go to a resolver. -/
structure Resolving {σ : Type} (h : Prog.Handler Host σ) (published : Nat → String → Option (List JwkPub)) where
  clock : σ → Nat
  resolver : σ → JwksResolver
  resolves : ∀ uri kid s, (h (.resolve_jwk uri kid) s).1 = ((resolver s).resolve published (clock s) uri kid).1
  /-- An operation fetches keys or leaves them alone. -/
  keeps : ∀ o s, resolver (h o s).2 = resolver s ∨
    ∃ uri kid, resolver (h o s).2 = ((resolver s).resolve published (clock s) uri kid).2

def MemoryHost.resolving (published : Nat → String → Option (List JwkPub)) : Resolving (MemoryHost.exec published) published where
  clock m := m.mem.clock
  resolver m := m.jwks
  resolves _ _ _ := rfl
  keeps o m := by
    cases o with
    | resolve_jwk uri kid => exact .inr ⟨uri, kid, rfl⟩
    | backend | firestore | claim => exact .inl rfl

def FirestoreHost.resolving (published : Nat → String → Option (List JwkPub)) :
    Resolving (FirestoreHost.exec published) published where
  clock m := m.db.clock
  resolver m := m.jwks
  resolves _ _ _ := rfl
  keeps o m := by
    cases o with
    | resolve_jwk uri kid => exact .inr ⟨uri, kid, rfl⟩
    | backend | firestore | claim => exact .inl rfl

namespace Resolving
variable {σ : Type} {h : Prog.Handler Host σ} {published : Nat → String → Option (List JwkPub)} (R : Resolving h published)

/-- The states of a process that began without any keys. What else happens leaves
    its resolver alone. -/
inductive Reached : σ → Prop where
  | start {s : σ} (empty : R.resolver s = {}) : Reached s
  | step {s : σ} (reached : Reached s) (o : HostOp) : Reached (h o s).2
  | other {s s' : σ} (reached : Reached s) (same : R.resolver s' = R.resolver s) : Reached s'

/-- The keys that a lookup at a URI sees in a state. -/
def offered (s : σ) (uri : String) : List JwkPub := (R.resolver s).offered published (R.clock s) uri

/-- The key that a client assertion is verified with. -/
theorem run_key_of {client : Client} {kid : String} {s : σ} :
    (Prog.run h (PrivateKeyJwt.key_of client kid) s).1.toOption =
      (JwksResolver.find client.jwks kid).or (client.jwks_uri.bind fun uri => JwksResolver.find (R.offered s uri) kid) := by
  unfold PrivateKeyJwt.key_of JwksResolver.find
  cases inline : client.jwks.find? fun k => k.kid == kid with
  | some k => rfl
  | none =>
    cases client.jwks_uri with
    | none => rfl
    | some uri =>
      have resolved : (h (.resolve_jwk uri kid) s).1 = (R.offered s uri).find? fun k => k.kid == kid :=
        (R.resolves uri kid s).trans JwksResolver.resolve_eq
      simp only [resolve_jwk, Prog.call_bind, Prog.ret_bind, Prog.run_call, resolved]
      cases found : (R.offered s uri).find? fun k => k.kid == kid <;> simp [found, Prog.run_ret, Except.toOption]

end Resolving

/-! ### Request objects -/

namespace request_object

/-- The key that a request object is verified with. -/
def key_of (client : Client) (kid : String) : Except OAuthError JwkPub :=
  ok_or (JwksResolver.find client.jwks kid) (bad "no client key matches request object kid")

theorem key_of_toOption {client : Client} {kid : String} : (key_of client kid).toOption = JwksResolver.find client.jwks kid := by
  unfold key_of
  cases JwksResolver.find client.jwks kid <;> rfl

/-- A request object that is opened was signed with that key. -/
theorem opened_key {p : Server} {client : Client} {jwt : String} {payload : Json} (opened : opened p client jwt = .ok payload) :
    ∃ parts bytes header jwk, Compact.parse jwt = some parts ∧ es256.b64url_decode p.toJose parts.header = .ok bytes ∧
      p.from_slice bytes = .ok header ∧ key_of client ((header.get_str "kid").getD "") = .ok jwk ∧
      ∃ x y vk sig, es256.b64url_decode p.toJose jwk.x = .ok x ∧ es256.b64url_decode p.toJose jwk.y = .ok y ∧
        es256.verifying_key_from_xy p.toJose x y = .ok vk ∧ p.verify vk parts.signing_input sig = true := by
  simp only [request_object.opened, request_object.dec, bind_eq_ok, ok_or_eq_ok, mapError_eq_ok, refuse_eq_ok, exists_const,
    Bool.not_eq_true', Bool.not_eq_false] at opened
  obtain ⟨parts, parsed, bytes, decoded, header, read, -, jwk, found, x, decoded_x, y, decoded_y, vk, point, _, -, sig, -, verified,
    -⟩ := opened
  exact ⟨parts, bytes, header, jwk, parsed, decoded, read, ok_or_eq_ok.mpr found, x, y, vk, sig, decoded_x, decoded_y, point,
    verified⟩

end request_object

section agreement
variable {σ : Type} {h : Prog.Handler Host σ} {published : Nat → String → Option (List JwkPub)}

/-- Both lookups give the same key, or both fail: exactly of identifiers that are
    registered, or that the client does not publish either. -/
theorem keys_agree_iff (R : Resolving h published) (client : Client) (kid : String) (s : σ) :
    (request_object.key_of client kid).toOption = (Prog.run h (PrivateKeyJwt.key_of client kid) s).1.toOption ↔
      (∃ k ∈ client.jwks, k.kid = kid) ∨ ∀ uri, client.jwks_uri = some uri → ∀ k ∈ R.offered s uri, k.kid ≠ kid := by
  rw [request_object.key_of_toOption, R.run_key_of, ← JwksResolver.find_isSome]
  cases inline : JwksResolver.find client.jwks kid with
  | some k => simp
  | none =>
    cases client.jwks_uri with
    | none => simp
    | some uri =>
      simp only [Option.none_or, Option.bind_some, Option.isSome_none, Bool.false_eq_true, false_or, Option.some.injEq,
        forall_eq']
      rw [eq_comm, ← Option.not_isSome_iff_eq_none, JwksResolver.find_isSome]
      constructor
      · intro unpublished k listed same
        exact unpublished ⟨k, listed, same⟩
      · rintro unpublished ⟨k, listed, same⟩
        exact unpublished k listed same

end agreement

/-! ### Registered keys -/

/-- A key that signatures can be verified with. -/
def Usable (j : Jose) (k : JwkPub) : Prop :=
  ∃ x y vk, es256.b64url_decode j k.x = .ok x ∧ es256.b64url_decode j k.y = .ok y ∧ es256.verifying_key_from_xy j x y = .ok vk

/-- A JWK with a point of P-256, whatever its name. -/
def ValidKey (j : Jose) (k : Json) : Prop :=
  k.get_str "kty" = some "EC" ∧ k.get_str "crv" = some "P-256" ∧
    ∃ x y, k.get_str "x" = some x ∧ k.get_str "y" = some y ∧ Usable j ⟨"", x, y⟩

/-- A JWK that has an identifier. -/
def NamedKey (k : Json) : Prop := ∃ kid, k.get_str "kid" = some kid ∧ kid ≠ ""

/-- The keys of a JWK set. -/
def set_keys (v : Json) : List Json := ((v.get "keys").bind dcr.as_array).getD []

section registered
variable {j : Jose}

theorem jwk_from_json_eq_some {k : Json} {jwk : JwkPub} :
    dcr.jwk_from_json j k = some jwk ↔ k.get_str "kty" = some "EC" ∧ k.get_str "crv" = some "P-256" ∧
      k.get_str "kid" = some jwk.kid ∧ jwk.kid ≠ "" ∧ k.get_str "x" = some jwk.x ∧ k.get_str "y" = some jwk.y ∧ Usable j jwk := by
  unfold dcr.jwk_from_json
  simp only [Option.bind_eq_bind, Option.bind_eq_some_iff, Option.bind_none, Option.ite_none_left_eq_some, toOption_eq_some,
    not_or, not_not, ne_eq, String.isEmpty_iff, Option.some.injEq]
  constructor
  · rintro ⟨_, kty, _, crv, ⟨rfl, rfl⟩, kid, named, full, x, first, y, second, bx, decoded_x, bY, decoded_y, vk, key, rfl⟩
    exact ⟨kty, crv, named, full, first, second, bx, bY, vk, decoded_x, decoded_y, key⟩
  · rintro ⟨kty, crv, named, full, first, second, bx, bY, vk, decoded_x, decoded_y, key⟩
    exact ⟨_, kty, _, crv, ⟨rfl, rfl⟩, _, named, full, _, first, _, second, bx, decoded_x, bY, decoded_y, vk, key, rfl⟩

/-- A key is taken from a set if it is valid and has an identifier. -/
theorem jwks_from_jwk_set_ne_nil {v : Json} :
    dcr.jwks_from_jwk_set j (some v) ≠ [] ↔ ∃ k ∈ set_keys v, ValidKey j k ∧ NamedKey k := by
  have taken : dcr.jwks_from_jwk_set j (some v) = (set_keys v).filterMap (dcr.jwk_from_json j) := rfl
  rw [taken]
  constructor
  · intro some_
    obtain ⟨jwk, listed⟩ := List.exists_mem_of_ne_nil _ some_
    obtain ⟨k, listed, is⟩ := List.mem_filterMap.mp listed
    obtain ⟨kty, crv, named, full, first, second, usable⟩ := jwk_from_json_eq_some.mp is
    exact ⟨k, listed, ⟨kty, crv, jwk.x, jwk.y, first, second, usable⟩, jwk.kid, named, full⟩
  · rintro ⟨k, listed, ⟨kty, crv, x, y, first, second, usable⟩, kid, named, full⟩
    have is := (@jwk_from_json_eq_some j k ⟨kid, x, y⟩).mpr ⟨kty, crv, named, full, first, second, usable⟩
    exact List.ne_nil_of_mem (List.mem_filterMap.mpr ⟨k, listed, is⟩)

theorem usable_of_mem_set {v : Option Json} {jwk : JwkPub} (listed : jwk ∈ dcr.jwks_from_jwk_set j v) : Usable j jwk := by
  obtain ⟨k, -, is⟩ := List.mem_filterMap.mp listed
  exact (jwk_from_json_eq_some.mp is).2.2.2.2.2.2

/-! ### What is fetched -/

/-- The keys of the JWK sets that the servers of clients answer with. -/
def served (j : Jose) (answers : Nat → String → Option Json) (now : Nat) (uri : String) : Option (List JwkPub) :=
  (answers now uri).map fun v => dcr.jwks_from_jwk_set j (some v)

/-- What was fetched came from https, and is not empty nor of use to nobody. -/
def JwksResolver.Sound (j : Jose) (r : JwksResolver) : Prop :=
  ∀ uri c, r.cache.get uri = some c → starts_with "https://" uri = true ∧ c.keys ≠ [] ∧ ∀ k ∈ c.keys, Usable j k

namespace JwksResolver
variable {answers : Nat → String → Option Json} {now : Nat} {uri kid : String} {r : JwksResolver}

theorem sound_new : Sound j {} := by
  intro uri c cached
  cases cached

theorem fetch_eq_some {keys : List JwkPub} :
    fetch (served j answers) now uri = some keys ↔ starts_with "https://" uri = true ∧ keys ≠ [] ∧
      ∃ v, answers now uri = some v ∧ dcr.jwks_from_jwk_set j (some v) = keys := by
  unfold fetch served
  by_cases https : starts_with "https://" uri = true
  · simp only [https, if_true, Option.filter_eq_some_iff, Option.map_eq_some_iff, Bool.not_eq_true', List.isEmpty_eq_false_iff,
      true_and]
    constructor
    · rintro ⟨⟨v, answered, rfl⟩, some_⟩
      exact ⟨some_, v, answered, rfl⟩
    · rintro ⟨some_, v, answered, rfl⟩
      exact ⟨⟨v, answered, rfl⟩, some_⟩
  · simp [https]

/-- A lookup keeps the cache sound. -/
theorem resolve_sound (sound : Sound j r) : Sound j (resolve (served j answers) now uri kid r).2 := by
  unfold resolve
  split
  · exact sound
  · split
    · exact sound
    · rename_i keys fetched
      obtain ⟨https, some_, v, -, rfl⟩ := fetch_eq_some.mp fetched
      intro u c cached
      by_cases same : u = uri
      · subst same
        rw [Table.get_set_self] at cached
        cases cached
        exact ⟨https, some_, fun k listed => usable_of_mem_set listed⟩
      · rw [Table.get_set_ne _ same] at cached
        exact sound u c cached

/-- A lookup sees some key at a URI, if one is still used or there is one to fetch. -/
theorem offered_ne_nil (sound : Sound j r) :
    offered (served j answers) now uri r ≠ [] ↔ (r.live now uri).isSome = true ∨
      (starts_with "https://" uri = true ∧ ∃ v, answers now uri = some v ∧ ∃ k ∈ set_keys v, ValidKey j k ∧ NamedKey k) := by
  unfold offered
  cases kept : r.live now uri with
  | some c =>
    obtain ⟨cached, -⟩ := Option.filter_eq_some_iff.mp kept
    simp [(sound uri c cached).2.1]
  | none =>
    simp only [Option.isSome_none, Bool.false_eq_true, false_or]
    cases fetched : fetch (served j answers) now uri with
    | none =>
      constructor
      · intro absurd_
        cases absurd_ rfl
      · rintro ⟨https, v, answered, named⟩
        have some_ := jwks_from_jwk_set_ne_nil.mpr named
        rw [fetch_eq_some.mpr ⟨https, some_, v, answered, rfl⟩] at fetched
        cases fetched
    | some keys =>
      obtain ⟨https, some_, v, answered, rfl⟩ := fetch_eq_some.mp fetched
      exact ⟨fun _ => ⟨https, v, answered, jwks_from_jwk_set_ne_nil.mp some_⟩, fun _ => some_⟩

/-- And all keys it sees are of use. -/
theorem offered_usable (sound : Sound j r) {k : JwkPub} (listed : k ∈ offered (served j answers) now uri r) : Usable j k := by
  unfold offered at listed
  split at listed
  · rename_i c kept
    obtain ⟨cached, -⟩ := Option.filter_eq_some_iff.mp kept
    exact (sound uri c cached).2.2 k listed
  · cases fetched : fetch (served j answers) now uri with
    | none =>
      rw [fetched] at listed
      cases listed
    | some keys =>
      rw [fetched] at listed
      obtain ⟨-, -, v, -, rfl⟩ := fetch_eq_some.mp fetched
      exact usable_of_mem_set listed

end JwksResolver

/-! ### Clients that are registered with keys -/

variable {σ : Type} {p : Server} {answers : Nat → String → Option Json}
  {h : Prog.Handler Host σ} (R : Resolving h (served p.toJose answers))

/-- Some assertion of a client finds a key that it can be verified with. -/
def CanAuthenticate (h : Prog.Handler Host σ) (p : Server) (client : Client) (s : σ) : Prop :=
  ∃ kid k, (Prog.run h (PrivateKeyJwt.key_of client kid) s).1 = .ok k ∧ Usable p.toJose k

/-- A client can authenticate if it has a key that is of use, and a lookup sees it. -/
theorem canAuthenticate_iff {client : Client} {s : σ} (sound : (R.resolver s).Sound p.toJose)
    (usable : ∀ k ∈ client.jwks, Usable p.toJose k) :
    CanAuthenticate h p client s ↔ client.jwks ≠ [] ∨ ∃ uri, client.jwks_uri = some uri ∧ R.offered s uri ≠ [] := by
  have found : ∀ kid k, (Prog.run h (PrivateKeyJwt.key_of client kid) s).1 = .ok k ↔
      (JwksResolver.find client.jwks kid).or (client.jwks_uri.bind fun uri => JwksResolver.find (R.offered s uri) kid) = some k :=
    fun kid k => by rw [← toOption_eq_some, R.run_key_of]
  unfold CanAuthenticate
  simp only [found]
  constructor
  · rintro ⟨kid, k, is, -⟩
    rcases Option.or_eq_some_iff.mp is with inline | ⟨-, remote⟩
    · exact .inl (List.ne_nil_of_mem (JwksResolver.find_mem inline))
    · obtain ⟨uri, published, remote⟩ := Option.bind_eq_some_iff.mp remote
      exact .inr ⟨uri, published, List.ne_nil_of_mem (JwksResolver.find_mem remote)⟩
  · intro keys
    by_cases inline : client.jwks = []
    · obtain ⟨uri, published, some_⟩ := keys.resolve_left (fun registered => registered inline)
      obtain ⟨k, listed⟩ := List.exists_mem_of_ne_nil _ some_
      obtain ⟨k', is⟩ := Option.isSome_iff_exists.mp (JwksResolver.find_isSome.mpr ⟨k, listed, rfl⟩)
      refine ⟨k.kid, k', ?_, JwksResolver.offered_usable sound (JwksResolver.find_mem is)⟩
      rw [inline, published, Option.bind_some, is]
      rfl
    · obtain ⟨k, listed⟩ := List.exists_mem_of_ne_nil _ inline
      obtain ⟨k', is⟩ := Option.isSome_iff_exists.mp (JwksResolver.find_isSome.mpr ⟨k, listed, rfl⟩)
      refine ⟨k.kid, k', ?_, usable k' (JwksResolver.find_mem is)⟩
      rw [is]
      rfl

/-- With the profile for keys, the client has the keys of its request. -/
theorem registered_keys {random : List UInt8} {client_id : String} {req : dcr.RegistrationRequest} {c : dcr.IatConstraints}
    {o : dcr.RegistrationOutcome} (profile : c.profile = .ConfidentialKey)
    (made : dcr.validate_registration p.toPlatform random client_id req c = .ok o) :
    o.client.jwks = req.jwks ∧ o.client.jwks_uri = req.jwks_uri := by
  obtain ⟨-, -, -, -, made⟩ := dcr.validate_registration_eq_ok.mp made
  rw [profile] at made
  simp only [dcr.with_profile, bind_eq_ok, pure_eq_ok] at made
  obtain ⟨-, -, rfl⟩ := made
  exact ⟨rfl, rfl⟩

/-- Every process keeps its cache sound. -/
theorem Resolving.Reached.sound {s : σ} (reached : R.Reached s) : (R.resolver s).Sound p.toJose := by
  induction reached with
  | start empty =>
    rw [empty]
    exact JwksResolver.sound_new
  | step _ o ih =>
    rcases R.keeps o _ with same | ⟨uri, kid, resolved⟩
    · rw [same]
      exact ih
    · rw [resolved]
      exact JwksResolver.resolve_sound ih
  | other _ same ih =>
    rw [same]
    exact ih

/-- Where a registration has no keys of its own, the server at its URI answers with
    a valid one. -/
def Answered (p : Server) (answers : Nat → String → Option Json) (now : Nat) (body : Json) : Prop :=
  dcr.jwks_from_jwk_set p.toJose (body.get "jwks") = [] → ∀ uri, body.get_str "jwks_uri" = some uri →
    ∃ v, answers now uri = some v ∧ ∃ k ∈ set_keys v, ValidKey p.toJose k

/-- A client whose keys are answered can authenticate: exactly if it registered keys,
    or its URI is of https, and keys from there are still used or a valid one has an
    identifier. -/
theorem registered_client_authenticates_iff {random : List UInt8} {client_id : String} {body : Json} {c : dcr.IatConstraints}
    {o : dcr.RegistrationOutcome} {s : σ} (reached : R.Reached s) (profile : c.profile = .ConfidentialKey)
    (made : dcr.validate_registration p.toPlatform random client_id (oidc.registration_request_from_json p.toJose body) c = .ok o) :
    (Answered p answers (R.clock s) body → CanAuthenticate h p o.client s) ↔
      (Answered p answers (R.clock s) body →
        dcr.jwks_from_jwk_set p.toJose (body.get "jwks") ≠ [] ∨ ∃ uri, body.get_str "jwks_uri" = some uri ∧
          (((R.resolver s).live (R.clock s) uri).isSome = true ∨ (starts_with "https://" uri = true ∧
            ∃ v, answers (R.clock s) uri = some v ∧ ∃ k ∈ set_keys v, ValidKey p.toJose k ∧ NamedKey k))) := by
  obtain ⟨inline, published⟩ := registered_keys profile made
  have usable : ∀ k ∈ o.client.jwks, Usable p.toJose k := by
    intro k listed
    rw [inline] at listed
    exact usable_of_mem_set listed
  have sound := reached.sound
  rw [canAuthenticate_iff R sound usable, inline, published]
  simp only [oidc.registration_request_from_json, Resolving.offered, JwksResolver.offered_ne_nil sound]

end registered

/-! ### A client that publishes its keys -/

section publishing
open Reference

/-- A client that registered a URI only. -/
def publishing : Client := { rp1 with jwks := [], jwks_uri := some "https://rp1/jwks.json" }

/-- Its assertion is verified with the published key. The same text is no request
    object that is, since no key is found. -/
theorem keys_disagree :
    let process := MemoryHost.exec fun _ _ => some [rp1Key]
    (Prog.run process (PrivateKeyJwt.key_of publishing "k") { mem := { clock := 1000 } }).1 = .ok rp1Key ∧
    PrivateKeyJwt.check_signature server (openedAssertion "rp1" rp1Signature) rp1Key = .ok () ∧
    request_object.key_of publishing "k" = .error (request_object.bad "no client key matches request object kid") ∧
    (request_object.key_of publishing "k").toOption ≠
      (Prog.run process (PrivateKeyJwt.key_of publishing "k") { mem := { clock := 1000 } }).1.toOption := by
  have published : (Prog.run (MemoryHost.exec fun _ _ => some [rp1Key]) (PrivateKeyJwt.key_of publishing "k")
      { mem := { clock := 1000 } }).1 = .ok rp1Key := by decide +kernel
  refine ⟨published, signature_rp1, rfl, ?_⟩
  rw [published]
  nofun

/-- A registration with a URI for its keys. -/
def uriBody (uri : String) : Json :=
  .obj [("redirect_uris", .arr [.str "https://rp.example.com/cb"]), ("jwks_uri", .str uri)]

def keyToken : dcr.IatConstraints := ⟨["rp.example.com"], ["authorization_code"], .ConfidentialKey⟩

def rp1Jwk : Json :=
  .obj [("kty", .str "EC"), ("crv", .str "P-256"), ("kid", .str "k"), ("x", .str rp1Key.x), ("y", .str rp1Key.y)]

/-- Every URI has this key. -/
def everywhere (_ : Nat) (_ : String) : Option Json := some (.obj [("keys", .arr [rp1Jwk])])

private theorem uri_registered {uri : String} (full : uri.isEmpty = false) :
    ∃ o, dcr.validate_registration server.toPlatform [] "dcr-1" (oidc.registration_request_from_json server.toJose (uriBody uri))
      keyToken = .ok o := by
  have hosts : dcr.check_hosts dcr.DcrError.InsecureRedirectUri .RedirectHostNotAllowed ["rp.example.com"]
      ["https://rp.example.com/cb"] = .ok () := by decide +kernel
  have asked : oidc.registration_request_from_json server.toJose (uriBody uri) =
      ⟨["https://rp.example.com/cb"], [], [], [], some uri⟩ := rfl
  have keyed : ∃ o, dcr.with_profile server.toPlatform [] "dcr-1" ⟨["https://rp.example.com/cb"], [], [], [], some uri⟩
      .ConfidentialKey = .ok o := by
    simp only [dcr.with_profile, bind_eq_ok, refuse_eq_ok, pure_eq_ok]
    exact ⟨_, (), by simp [full], rfl⟩
  obtain ⟨o, made⟩ := keyed
  rw [asked]
  exact ⟨o, dcr.validate_registration_eq_ok.mpr ⟨rfl, hosts, rfl, by simp, made⟩⟩

private theorem everywhere_answered (uri : String) (now : Nat) : Answered server everywhere now (uriBody uri) := by
  intro _ uri' _
  refine ⟨_, rfl, rp1Jwk, by simp [set_keys, Json.get, dcr.as_array], rfl, rfl, rp1Key.x, rp1Key.y, rfl, rfl, ?_⟩
  obtain ⟨x, y, vk, bytes, sig, decoded_x, decoded_y, point, -⟩ := PrivateKeyJwt.check_signature_eq_ok.mp signature_rp1
  exact ⟨x, y, vk, decoded_x, decoded_y, point⟩

/-- A process that has fetched nothing. -/
def unfetched : MemoryHost := { mem := { clock := 1000 } }

theorem registered_client_authenticates_https :
    ∃ o, (Answered server everywhere 1000 (uriBody "https://rp.example.com/jwks.json") →
        CanAuthenticate (MemoryHost.exec (served server.toJose everywhere)) server o unfetched) ↔
      (Answered server everywhere 1000 (uriBody "https://rp.example.com/jwks.json") →
        dcr.jwks_from_jwk_set server.toJose ((uriBody "https://rp.example.com/jwks.json").get "jwks") ≠ [] ∨
          ∃ uri, (uriBody "https://rp.example.com/jwks.json").get_str "jwks_uri" = some uri ∧
            ((unfetched.jwks.live 1000 uri).isSome = true ∨ (starts_with "https://" uri = true ∧
              ∃ v, everywhere 1000 uri = some v ∧ ∃ k ∈ set_keys v, ValidKey server.toJose k ∧ NamedKey k))) := by
  obtain ⟨o, made⟩ := @uri_registered "https://rp.example.com/jwks.json" (by decide +kernel)
  exact ⟨o.client, registered_client_authenticates_iff (MemoryHost.resolving _) (s := unfetched) (.start rfl) rfl made⟩

/-- Keys without https are registered, and never fetched. -/
theorem registered_client_shut_out :
    ∃ o, dcr.validate_registration server.toPlatform [] "dcr-1"
        (oidc.registration_request_from_json server.toJose (uriBody "http://rp.example.com/jwks.json")) keyToken = .ok o ∧
      Answered server everywhere 1000 (uriBody "http://rp.example.com/jwks.json") ∧
      ¬ CanAuthenticate (MemoryHost.exec (served server.toJose everywhere)) server o.client unfetched := by
  obtain ⟨o, made⟩ := @uri_registered "http://rp.example.com/jwks.json" (by decide +kernel)
  refine ⟨o, made, everywhere_answered _ _, ?_⟩
  obtain ⟨inline, published⟩ := registered_keys rfl made
  have none_registered : o.client.jwks = [] := inline
  have insecure : o.client.jwks_uri = some "http://rp.example.com/jwks.json" := published
  have sound : JwksResolver.Sound server.toJose {} := JwksResolver.sound_new
  rw [canAuthenticate_iff (MemoryHost.resolving _) sound (by simp [none_registered]), none_registered, insecure]
  rintro (registered | ⟨uri, is, some_⟩)
  · exact registered rfl
  · obtain rfl := Option.some.inj is
    rcases (JwksResolver.offered_ne_nil sound).mp some_ with live | ⟨https, -⟩
    · cases live
    · revert https
      decide +kernel

end publishing
end RustOp.Web
