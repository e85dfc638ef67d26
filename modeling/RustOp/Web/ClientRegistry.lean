import RustOp.Web.AdminConsole

/-!
Where clients come from: a few are configured or migrated by hand, the others
register themselves, and administrators replace their return addresses. Whatever
the order of all this, a client has a secret exactly if it authenticates with one.
-/
namespace RustOp.Web
open RustOp.Effects RustOp.Effects.Checks RustOp.Text RustOp.Firestore
open dcr_store (client_of RoundTrips)

/-! ### Configured clients -/

/-- The clients that were once part of the program, for their migration. -/
def static_app_clients (issuer ciba_rp_secret_hash : String) : List Client :=
  [{ client_id := "demo-rp"
     redirect_uris := [issuer ++ "/callback"]
     post_logout_redirect_uris := [issuer ++ "/"]
     token_endpoint_auth_method := "none"
     client_secret := none
     grant_types := ["authorization_code", "refresh_token"]
     dpop_bound := true
     jwks := []
     jwks_uri := none
     require_par := false
     require_pkce := false
     id_token_signed_response_alg := none },
   { client_id := "mobile-rp"
     redirect_uris := ["jp.co.sonrisa.fido2demo://callback"]
     post_logout_redirect_uris := ["jp.co.sonrisa.fido2demo://logout"]
     token_endpoint_auth_method := "none"
     client_secret := none
     grant_types := ["authorization_code", "refresh_token"]
     dpop_bound := true
     jwks := []
     jwks_uri := none
     require_par := false
     require_pkce := false
     id_token_signed_response_alg := none },
   { client_id := "ciba-rp"
     redirect_uris := []
     post_logout_redirect_uris := []
     token_endpoint_auth_method := "client_secret_basic"
     client_secret := some ciba_rp_secret_hash
     grant_types := ["urn:openid:params:grant-type:ciba"]
     dpop_bound := false
     jwks := []
     jwks_uri := none
     require_par := false
     require_pkce := false
     id_token_signed_response_alg := none }]

/-- A client of the conformance suite, if all of its key is configured. -/
def fapi_client_from_env (env : String → Option String) (client_id keys : String) : Option Client := do
  let x ← env (keys ++ "_X")
  let y ← env (keys ++ "_Y")
  let kid ← env (keys ++ "_KID")
  let callback := (env "CONFORMANCE_FAPI_CALLBACK").getD "https://www.certification.openid.net/test/a/rustop-fapi2/callback"
  some {
    client_id := client_id
    redirect_uris := [callback]
    post_logout_redirect_uris := []
    token_endpoint_auth_method := "private_key_jwt"
    client_secret := none
    grant_types := ["authorization_code", "refresh_token"]
    dpop_bound := true
    jwks := [⟨kid, x, y⟩]
    jwks_uri := none
    require_par := true
    require_pkce := true
    id_token_signed_response_alg := none }

/-- The clients a provider starts with. -/
def fapi_clients (env : String → Option String) : List Client :=
  [("fapi-1", "FAPI1"), ("fapi-2", "FAPI2")].filterMap fun c => fapi_client_from_env env c.1 c.2

namespace ClientRegistry

/-- A client has a secret exactly if it authenticates with one. -/
inductive Sound (client : Client) : Prop where
  | none (method : client.token_endpoint_auth_method = "none") (secret : client.client_secret = none)
  | client_secret_basic (method : client.token_endpoint_auth_method = "client_secret_basic")
      (secret : client.client_secret.isSome = true)
  | private_key_jwt (method : client.token_endpoint_auth_method = "private_key_jwt") (secret : client.client_secret = none)

theorem static_app_clients_sound {issuer hash : String} {client : Client} (listed : client ∈ static_app_clients issuer hash) :
    Sound client := by
  simp only [static_app_clients, List.mem_cons, List.not_mem_nil, or_false] at listed
  rcases listed with rfl | rfl | rfl
  · exact .none rfl rfl
  · exact .none rfl rfl
  · exact .client_secret_basic rfl rfl

theorem fapi_clients_sound {env : String → Option String} {client : Client} (listed : client ∈ fapi_clients env) : Sound client := by
  obtain ⟨c, -, configured⟩ := List.mem_filterMap.mp listed
  simp only [fapi_client_from_env, Option.bind_eq_bind, Option.bind_eq_some_iff, Option.some.injEq] at configured
  obtain ⟨x, -, y, -, kid, -, rfl⟩ := configured
  exact .private_key_jwt rfl rfl

theorem validate_registration_sound {p : Platform} {random : List UInt8} {client_id : String} {req : dcr.RegistrationRequest}
    {c : dcr.IatConstraints} {o : dcr.RegistrationOutcome} (valid : dcr.validate_registration p random client_id req c = .ok o) :
    Sound o.client := by
  obtain ⟨-, -, -, -, made⟩ := dcr.validate_registration_eq_ok.mp valid
  cases profile : c.profile with
  | ConfidentialKey =>
    rw [profile] at made
    simp only [dcr.with_profile, bind_eq_ok, pure_eq_ok] at made
    obtain ⟨-, -, rfl⟩ := made
    exact .private_key_jwt rfl rfl
  | ConfidentialSecret =>
    rw [profile] at made
    cases made
    exact .client_secret_basic rfl rfl
  | Public =>
    rw [profile] at made
    cases made
    exact .none rfl rfl

/-! ### Changes -/

/-- A change to the registry of clients. -/
inductive Change where
  | register (r : oidc.Registering)
  | migrate (issuer ciba_rp_secret_hash : String) (client : Client)
      (listed : client ∈ static_app_clients issuer ciba_rp_secret_hash)
  | replace (uuid : Draw → String) (b : admin.Browser) (client_id text : String)

def Change.run (p : Console) (jwks : String → String → Option JwkPub) : Change → Prog Fs Unit
  | .register r => do
    let _ ← oidc.register p.toRegistrar r
    return ()
  | .migrate _ _ client _ => do
    let _ ← dcr_store.save_client p.toRegistrar client
    return ()
  | .replace uuid b client_id text => do
    let _ ← (admin.client_set_post_logout p uuid b client_id text).lower (production jwks)
    return ()

variable {ι : Type}

/-- Changes about to begin. -/
def pool (p : Console) (jwks : String → String → Option JwkPub) (changes : ι → Change) (db : Db) : Pool Fs Db ι Unit :=
  ⟨db, fun i => (changes i).run p jwks, []⟩

/-- Others may delete clients, and do anything to other documents. -/
def Elsewhere (db db' : Db) : Prop :=
  ∀ id, db'.docs.get (.clients, id) = db.docs.get (.clients, id) ∨ db'.docs.get (.clients, id) = none

/-- Every stored client is sound, and stored under its own identifier. -/
def SoundDb (p : Server) (db : Db) : Prop :=
  ∀ id doc client, db.docs.get (.clients, id) = some doc → client_of p doc.fields = some client → Sound client ∧ client.client_id = id

/-- A client was read. -/
@[reducible] def Load (id : String) (fields : Fields) (update_time : Nat) : (o : FsOp) × o.Res :=
  ⟨.get_doc_with_update_time .clients id, .ok (some (fields, update_time))⟩

/-- A change creates a sound client, or writes one that it read with other return addresses. -/
inductive Lawful (p : Console) (past : Past Fs) : FsOp → Prop where
  | other {o : FsOp} (elsewhere : ∀ id, o.writes ≠ some (.clients, id)) : Lawful p past o
  | create {client : Client} {json : String} (sound : Sound client) (printed : p.client_to_string client = .ok json) :
      Lawful p past (.create_if_absent .clients client.client_id (dcr_store.client_fields json))
  | replace {id : String} {fields : Fields} {update_time : Nat} {client : Client} {uris : List String} {json : String}
      (read : Load id fields update_time ∈ past) (holds : client_of p.toServer fields = some client)
      (printed : p.client_to_string { client with post_logout_redirect_uris := uris } = .ok json) :
      Lawful p past (.set_doc_if_unchanged .clients client.client_id (dcr_store.client_fields json) update_time)

section changes
variable {p : Console} {past : Past Fs}

private theorem lawful_read {o : FsOp} (none : o.writes = none) : Lawful p past o :=
  .other fun id writes => by rw [none] at writes; cases writes

private theorem save_client_justified (p : Console) {client : Client} (sound : Sound client) (past : Past Fs) :
    (dcr_store.save_client p.toRegistrar client).Justified (Lawful p) (fun _ _ => True) past := by
  unfold dcr_store.save_client
  cases printed : p.client_to_string client with
  | error e => exact .ret trivial
  | ok json =>
    refine .call (.create sound printed) fun answer => ?_
    rcases answer with e | _ | _ <;> exact .ret trivial

private theorem register_checked_justified (hash : String) (iat : dcr_store.Iat) {o : dcr.RegistrationOutcome}
    (sound : Sound o.client) (past : Past Fs) :
    (oidc.register_checked p.toRegistrar hash iat o).Justified (Lawful p) (fun _ _ => True) past := by
  unfold oidc.register_checked
  by_cases reusable : iat.reusable = true
  · rw [if_pos reusable]
    refine (save_client_justified p sound past).bind fun later r _ _ => ?_
    cases r with
    | error e => exact .ret trivial
    | ok u => exact .call (lawful_read rfl) fun _ => .ret trivial
  · rw [if_neg reusable]
    refine .call (.other fun id => by simp [FsOp.writes]) fun answer => ?_
    rcases answer with e | _ | _
    · exact .ret trivial
    · exact .ret trivial
    · refine (save_client_justified p sound _).bind fun later r _ _ => ?_
      cases r with
      | error e => exact .ret trivial
      | ok u => exact .call (lawful_read rfl) fun _ => .ret trivial

private theorem register_justified (p : Console) (r : oidc.Registering) (past : Past Fs) :
    (oidc.register p.toRegistrar r).Justified (Lawful p) (fun _ _ => True) past := by
  unfold oidc.register
  split
  · exact .ret trivial
  · split
    · refine .call (lawful_read rfl) fun answer => ?_
      rcases answer with e | _ | ⟨fields, update_time⟩
      · exact .ret trivial
      · exact .ret trivial
      · dsimp only [Prog.bind]
        cases dcr_store.parse_iat_fields p.toRegistrar fields with
        | error e => exact .ret trivial
        | ok read =>
          obtain ⟨constraints, expires_at, reusable⟩ := read
          refine .call (lawful_read rfl) fun t => ?_
          dsimp only [Prog.bind]
          split
          · exact .ret trivial
          · cases passed : oidc.checked p.toRegistrar r ⟨constraints, expires_at, update_time, reusable⟩ with
            | error refused => exact .ret trivial
            | ok o =>
              simp only [oidc.checked, bind_eq_ok, mapError_eq_ok] at passed
              obtain ⟨-, -, v, -, valid⟩ := passed
              exact register_checked_justified _ _ (validate_registration_sound valid) _
    · exact .ret trivial

private theorem replace_justified (jwks : String → String → Option JwkPub) (uuid : Draw → String) (b : admin.Browser)
    (client_id text : String) (past : Past Fs) :
    ((admin.client_set_post_logout p uuid b client_id text).lower (production jwks)).Justified (Lawful p) (fun _ _ => True) past := by
  refine as_admin_justified (fun _ _ => lawful_read) (fun _ _ _ => trivial) fun viewer past _ => ?_
  unfold admin.client_set_post_logout_as dcr_store.load_client_with_version
  refine .call (lawful_read rfl) fun answer => ?_
  rcases answer with e | _ | ⟨fields, update_time⟩
  · exact .ret trivial
  · exact .ret trivial
  · dsimp only [Prog.bind]
    cases json : field_str fields "json" with
    | none => exact .ret trivial
    | some json' =>
      dsimp only
      cases parsed : p.client_from_str json' with
      | none => exact .ret trivial
      | some client =>
        have holds : client_of p.toServer fields = some client := by rw [client_of, json, Option.bind_some, parsed]
        simp only [Prog.pure_eq, Prog.bind]
        cases dcr.check_admin_post_logout_uris (admin.lines text) client.redirect_uris with
        | error msg => exact .ret trivial
        | ok u =>
          dsimp only
          unfold dcr_store.put_client_if_unchanged
          cases printed : p.client_to_string { client with post_logout_redirect_uris := admin.lines text } with
          | error e => exact .ret trivial
          | ok json'' =>
            refine .call (@Lawful.replace p _ client_id fields update_time client _ json'' List.mem_cons_self holds printed)
              fun answer => ?_
            rcases answer with e | _ | _
            · exact .ret trivial
            · exact .ret trivial
            · exact .call (lawful_read rfl) fun t => .call (.other fun id => by simp [FsOp.writes]) fun _ => .ret trivial

private theorem change_justified (p : Console) (jwks : String → String → Option JwkPub) (change : Change) :
    (change.run p jwks).Justified (Lawful p) (fun _ _ => True) [] := by
  cases change with
  | register r => exact (register_justified p r []).bind fun _ _ _ _ => .ret trivial
  | migrate issuer hash client listed =>
    exact (save_client_justified p (static_app_clients_sound listed) []).bind fun _ _ _ _ => .ret trivial
  | replace uuid b client_id text => exact (replace_justified jwks uuid b client_id text []).bind fun _ _ _ _ => .ret trivial

end changes

/-! ### Runs -/

/-- The stored clients, and those that were read, are sound. -/
structure Inv (p : Console) (c : Pool Fs Db ι Unit) : Prop where
  stored : SoundDb p.toServer c.state
  read : ∀ e ∈ c.trace, ∀ id fields update_time, (⟨e.op, e.answer⟩ : (o : FsOp) × o.Res) = Load id fields update_time →
    ∀ client, client_of p.toServer fields = some client → Sound client ∧ client.client_id = id

/-- Other return addresses do not matter. -/
private theorem Sound.with_addresses {client : Client} (sound : Sound client) (uris : List String) :
    Sound { client with post_logout_redirect_uris := uris } := by
  cases sound with
  | none method secret => exact .none method secret
  | client_secret_basic method secret => exact .client_secret_basic method secret
  | private_key_jwt method secret => exact .private_key_jwt method secret

/-- Writing a sound client under its identifier. -/
private theorem SoundDb.write {p : Console} (trips : RoundTrips p.toRegistrar) {db : Db} (sound : SoundDb p.toServer db) {client : Client}
    {json : String} (fresh : Sound client) (printed : p.client_to_string client = .ok json) :
    SoundDb p.toServer (db.write (.clients, client.client_id) (dcr_store.client_fields json)) := by
  intro id doc client' stored holds
  rw [get_write] at stored
  split at stored
  · rename_i here
    cases stored
    rw [trips.client_of printed] at holds
    cases holds
    exact ⟨fresh, (Prod.mk.inj here).2.symm⟩
  · exact sound id doc client' stored holds

private theorem Inv.step [DecidableEq ι] {p : Console} (trips : RoundTrips p.toRegistrar) {c c' : Pool Fs Db ι Unit} (inv : Inv p c)
    (did : Pool.Did sem Elsewhere (fun _ => Lawful p) c c') : Inv p c' := by
  cases did with
  | env changes trace threads =>
    refine ⟨fun id doc client stored holds => ?_, by rw [trace]; exact inv.read⟩
    rcases changes id with same | removed
    · exact inv.stored id doc client (same ▸ stored) holds
    · rw [removed] at stored
      cases stored
  | act e k next allowed does trace threads =>
    refine ⟨?_, ?_⟩
    · obtain ⟨i, o, a⟩ := e
      cases allowed with
      | other elsewhere =>
        intro id doc client stored holds
        exact inv.stored id doc client (sem_frame (elsewhere id) does ▸ stored) holds
      | @create client json sound printed =>
        obtain ⟨same, -⟩ | ⟨-, written, -⟩ := sem_create_if_absent does
        · rw [same]
          exact inv.stored
        · rw [written]
          exact inv.stored.write trips sound printed
      | @replace id fields update_time client uris json read holds printed =>
        obtain ⟨same, -⟩ | ⟨-, written, -⟩ := sem_set_if_unchanged does
        · rw [same]
          exact inv.stored
        · rw [written]
          have sound := (inv.read _ (Pool.mem_past.mp read) id fields update_time rfl client holds).1
          exact @SoundDb.write p trips _ inv.stored { client with post_logout_redirect_uris := uris } json (sound.with_addresses uris)
            printed
    · rw [trace]
      intro x listed id fields update_time is client holds
      rcases List.mem_cons.mp listed with rfl | before
      · obtain ⟨i, o, a⟩ := x
        cases is
        have found := (sem_get_with_time does).2 _ rfl
        obtain ⟨doc, stored, same⟩ := Option.map_eq_some_iff.mp found.symm
        cases same
        exact inv.stored id doc client stored holds
      · exact inv.read x before id fields update_time is client holds

/-- Whatever changes are made in whatever order, the stored clients stay sound. -/
theorem registry_sound [DecidableEq ι] {p : Console} (trips : RoundTrips p.toRegistrar) (jwks : String → String → Option JwkPub)
    (changes : ι → Change) {db : Db} (sound : SoundDb p.toServer db) {c : Pool Fs Db ι Unit}
    (steps : Relation.ReflTransGen (Pool.Step sem Elsewhere) (pool p jwks changes db) c) : SoundDb p.toServer c.state := by
  have honest : (pool p jwks changes db).Honest (fun _ => Lawful p) fun _ _ _ => True :=
    fun i => change_justified p jwks (changes i)
  have start : Inv p (pool p jwks changes db) := ⟨sound, fun e listed => absurd listed List.not_mem_nil⟩
  have always : Relation.ReflTransGen (fun c c' => Pool.Step sem Elsewhere c c' ∧ True) (pool p jwks changes db) c :=
    Relation.ReflTransGen.mono (fun _ _ step => ⟨step, trivial⟩) _ _ steps
  exact (honest.induct (fun _ _ inv _ did _ => inv.step trips did) start always).1.stored

end ClientRegistry
end RustOp.Web
