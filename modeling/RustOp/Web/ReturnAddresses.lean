import RustOp.Web.RegistrarReference

/-!
Where the browser may be sent back to. What registration accepts as the host of an
address is what a browser takes for its host, and administrators only ever
replace return addresses by others on hosts of the same client.
-/
namespace RustOp.Web.ReturnAddresses
open RustOp.Effects RustOp.Effects.Checks RustOp.Text RustOp.Firestore dcr
open dcr_store (client_of RoundTrips)

/-! ### What a browser sees -/

/-- A URL with an authority, in parts. -/
structure BrowserUrl where
  scheme : String
  userinfo : Option String
  host : String
  fragment : Option String
deriving DecidableEq, Repr

/-- Where the authority of a URL ends. -/
def ends_authority (c : Char) : Bool := c == '/' || c == '\\' || c == '?' || c == '#'

/-- How browsers take a URL apart: the host follows the last `@` of the authority. -/
def browse (uri : String) : Option BrowserUrl :=
  let scheme := uri.toList.takeWhile (· ≠ ':')
  match uri.toList.dropWhile (· ≠ ':') with
  | ':' :: '/' :: '/' :: rest =>
    let authority := rest.takeWhile fun c => !ends_authority c
    some {
      scheme := String.ofList (scheme.map Char.toLower)
      userinfo := if '@' ∈ authority then some (String.ofList ((authority.reverse.dropWhile (· ≠ '@')).drop 1).reverse) else none
      host := String.ofList ((authority.reverse.takeWhile (· ≠ '@')).reverse.takeWhile (· ≠ ':'))
      fragment := if '#' ∈ rest then some (String.ofList ((rest.dropWhile (· ≠ '#')).drop 1)) else none }
  | _ => none

example : browse "https://rp.example.com:x@evil.com\\@rp.example.com/cb#f" =
    some ⟨"https", some "rp.example.com:x", "evil.com", some "f"⟩ := by decide +kernel

/-- A name of letters, digits, hyphens and dots. -/
def PlainName (name : String) : Prop := ∀ c ∈ name.toList, c.isAlphanum = true ∨ c = '-' ∨ c = '.'

/-- The browser goes to an allowed host over https, and nothing is hidden in the address. -/
def Inside (allowed : List String) (uri : String) : Prop :=
  ∃ url, browse uri = some url ∧ url.scheme = "https" ∧ url.userinfo = none ∧ url.fragment = none ∧
    ∃ h ∈ allowed, eq_ignore_ascii_case h url.host = true

/-- What the host of an accepted address is. -/
theorem https_host_eq_some {uri host : String} : https_host uri = some host ↔
    '#' ∉ uri.toList ∧ ∃ rest, uri.toList = "https://".toList ++ rest ∧ '@' ∉ rest.takeWhile (· ≠ '/') ∧
      host.toList = (rest.takeWhile (· ≠ '/')).takeWhile (· ≠ ':') ∧ host ≠ "" := by
  unfold https_host
  by_cases fragment : '#' ∈ uri.toList
  · simp [fragment]
  rw [if_neg fragment]
  unfold strip_prefix
  by_cases https : "https://".toList.isPrefixOf uri.toList = true
  · obtain ⟨rest, begins⟩ := List.isPrefixOf_iff_prefix.mp https
    have dropped : uri.toList.drop "https://".length = rest := by
      rw [← begins]
      exact List.drop_left
    rw [if_pos https, Option.bind_some, dropped, String.toList_ofList]
    simp only [headD_split]
    constructor
    · intro found
      split at found
      · cases found
      · rename_i plain
        split at found
        · cases found
        · rename_i named
          cases found
          refine ⟨fragment, rest, begins.symm, plain, by simp, fun empty => named ?_⟩
          simpa using congrArg String.toList empty
    · rintro ⟨-, rest', begins', plain, named, nonempty⟩
      obtain rfl : rest' = rest := List.append_cancel_left (begins'.symm.trans begins.symm)
      rw [if_neg plain, if_neg, ← named, String.ofList_toList]
      rw [← named]
      simpa using nonempty
  · rw [if_neg https]
    simp only [Option.bind_none, reduceCtorEq, false_iff, not_and]
    rintro - ⟨rest, begins, -⟩
    exact https (List.isPrefixOf_iff_prefix.mpr ⟨rest, begins.symm⟩)

private theorem PlainName.char {name : String} (plain : PlainName name) {host : String}
    (same : eq_ignore_ascii_case name host = true) : ∀ c ∈ host.toList, ends_authority c = false ∧ c ≠ '@' ∧ c ≠ ':' := by
  intro c listed
  have lower : name.toList.map Char.toLower = host.toList.map Char.toLower := by
    simpa [eq_ignore_ascii_case] using same
  obtain ⟨d, listed', same⟩ := List.mem_map.mp (lower ▸ List.mem_map_of_mem listed)
  -- A delimiter is its own lower case, and no character of a name has it as its lower case.
  have own : ∀ x ∈ ['/', '\\', '?', '#', '@', ':'], c ≠ x := by
    rintro x delimits rfl
    have other : c.toLower = c ∧ c.isAlpha = false ∧ c.isAlphanum = false ∧ c ≠ '-' ∧ c ≠ '.' := by
      fin_cases delimits <;> decide
    obtain ⟨kept, alpha, alphanum, hyphen, dot⟩ := other
    have letter : d.isAlpha = false := by rw [← Char.isAlpha_toLower_eq_isAlpha, same, kept, alpha]
    have upper : ¬ d.isUpper = true := by
      intro upper
      simp [Char.isAlpha, upper] at letter
    have equal : d = c := by rw [← kept, ← same, Char.toLower_eq_of_not_isUpper upper]
    subst equal
    rcases plain d listed' with named | named | named
    · rw [named] at alphanum
      cases alphanum
    · exact hyphen named
    · exact dot named
  refine ⟨?_, own _ (by simp), own _ (by simp)⟩
  simp only [ends_authority, Bool.or_eq_false_iff, beq_eq_false_iff_ne]
  exact ⟨⟨⟨own _ (by simp), own _ (by simp)⟩, own _ (by simp)⟩, own _ (by simp)⟩

/-- An accepted address on a host with a plain name is what it seems to a browser. -/
theorem https_host_inside {allowed : List String} {uri host h : String} (found : https_host uri = some host) (listed : h ∈ allowed)
    (plain : PlainName h) (same : eq_ignore_ascii_case h host = true) : Inside allowed uri := by
  obtain ⟨fragment, rest, begins, userinfo, named, -⟩ := https_host_eq_some.mp found
  have clean := plain.char same
  have fragment : '#' ∉ rest := fun listed => fragment (by rw [begins]; exact List.mem_append_right _ listed)
  generalize whole : rest.takeWhile (· ≠ '/') = written at userinfo named
  -- The authority that the browser sees begins with the host, and a port may follow.
  obtain ⟨port, split, colon⟩ : ∃ port, written = host.toList ++ port ∧ ∀ p : Char → Bool, (port.takeWhile p).takeWhile (· ≠ ':') = [] := by
    refine ⟨written.dropWhile (· ≠ ':'), by rw [named, List.takeWhile_append_dropWhile], fun p => ?_⟩
    cases rest' : written.dropWhile (· ≠ ':') with
    | nil => rfl
    | cons c cs =>
      have first := List.head?_dropWhile_not (· ≠ ':') written
      rw [rest'] at first
      obtain rfl : c = ':' := by simpa using first
      rw [List.takeWhile_cons]
      split <;> simp
  have seen : (rest.takeWhile fun c => !ends_authority c) = host.toList ++ port.takeWhile fun c => !ends_authority c := by
    have shorter : (rest.takeWhile fun c => !ends_authority c) = written.takeWhile fun c => !ends_authority c := by
      rw [← whole, List.takeWhile_takeWhile]
      refine congrArg (fun p => rest.takeWhile p) (funext fun c => ?_)
      by_cases slash : c = '/'
      · simp [slash, ends_authority]
      · simp [slash]
    rw [shorter, split, List.takeWhile_append_of_pos]
    exact fun c listed => by simp [(clean c listed).1]
  have bare : '@' ∉ rest.takeWhile fun c => !ends_authority c := by
    intro listed
    rw [seen] at listed
    refine userinfo ?_
    rw [split]
    rcases List.mem_append.mp listed with inHost | inPort
    · exact List.mem_append_left _ inHost
    · exact List.mem_append_right _ (List.takeWhile_sublist _ |>.subset inPort)
  have all : ((rest.takeWhile fun c => !ends_authority c).reverse.takeWhile (· ≠ '@')).reverse =
      rest.takeWhile fun c => !ends_authority c := by
    rw [List.takeWhile_eq_self_iff.mpr, List.reverse_reverse]
    intro c listed
    simp only [ne_eq, decide_not, Bool.not_eq_true', decide_eq_false_iff_not]
    rintro rfl
    exact bare (List.mem_reverse.mp listed)
  have hostSeen : (rest.takeWhile fun c => !ends_authority c).takeWhile (· ≠ ':') = host.toList := by
    rw [seen, List.takeWhile_append_of_pos, colon, List.append_nil]
    exact fun c listed => by simp [(clean c listed).2.2]
  refine ⟨⟨"https", none, host, none⟩, ?_, rfl, rfl, rfl, h, listed, same⟩
  unfold browse
  rw [begins]
  have scheme : ("https://".toList ++ rest).takeWhile (· ≠ ':') = "https".toList := by simp
  have after : ("https://".toList ++ rest).dropWhile (· ≠ ':') = ':' :: '/' :: '/' :: rest := by simp
  rw [scheme, after]
  simp only [if_neg bare, if_neg fragment, all, hostSeen, String.ofList_toList]
  simp

/-! ### Clients -/

/-- Every address of the client has an allowed host. -/
def Allowed (allowed : List String) (client : Client) : Prop :=
  ∀ uri ∈ client.redirect_uris ++ client.post_logout_redirect_uris,
    ∃ host, https_host uri = some host ∧ ∃ h ∈ allowed, eq_ignore_ascii_case h host = true

private theorem eq_ignore_ascii_case_trans {a b c : String} (ab : eq_ignore_ascii_case a b = true)
    (bc : eq_ignore_ascii_case b c = true) : eq_ignore_ascii_case a c = true := by
  simp only [eq_ignore_ascii_case, beq_iff_eq] at *
  exact ab.trans bc

/-- What registration makes is allowed. -/
theorem validate_registration_allowed {p : Platform} {random : List UInt8} {client_id : String} {req : RegistrationRequest}
    {c : IatConstraints} {o : RegistrationOutcome} (valid : validate_registration p random client_id req c = .ok o) :
    Allowed c.allowed_redirect_hosts o.client := by
  obtain ⟨-, redirects, logouts, -, made⟩ := validate_registration_eq_ok.mp valid
  obtain ⟨-, redirect_uris, post_logout⟩ := with_profile_base made
  intro uri listed
  rcases List.mem_append.mp listed with redirect | logout
  · exact check_hosts_eq_ok.mp redirects uri (redirect_uris ▸ redirect)
  · exact check_hosts_eq_ok.mp logouts uri (post_logout ▸ logout)

/-- What an administrator may put in their place is allowed too. -/
theorem check_admin_allowed {allowed uris : List String} {client : Client} (stored : Allowed allowed client)
    (checked : check_admin_post_logout_uris uris client.redirect_uris = .ok ()) :
    Allowed allowed { client with post_logout_redirect_uris := uris } := by
  intro uri listed
  rcases List.mem_append.mp listed with redirect | logout
  · exact stored uri (List.mem_append_left _ redirect)
  · obtain ⟨host, found, own, ownHost, same⟩ := check_hosts_eq_ok.mp checked uri logout
    obtain ⟨redirect, listed', found'⟩ := List.mem_filterMap.mp ownHost
    obtain ⟨host', found'', h, inside, same'⟩ := stored redirect (List.mem_append_left _ listed')
    rw [found'] at found''
    cases found''
    exact ⟨host, found, h, inside, eq_ignore_ascii_case_trans same' same⟩

/-! ### Replacements -/

/-- An administrator sends other return addresses. -/
structure Replacement where
  uuid : Draw → String
  browser : admin.Browser
  text : String

variable {ι : Type}

/-- Replacements for one client about to begin. -/
def pool (p : Console) (jwks : String → String → Option JwkPub) (client_id : String) (requests : ι → Replacement) (db : Db) :
    Pool Fs Db ι Response :=
  ⟨db, fun i => (admin.client_set_post_logout p (requests i).uuid (requests i).browser client_id (requests i).text).lower
    (production jwks), []⟩

/-- Others may delete the client, and do anything to other documents. -/
def Elsewhere (client_id : String) (db db' : Db) : Prop :=
  db'.docs.get (.clients, client_id) = db.docs.get (.clients, client_id) ∨ db'.docs.get (.clients, client_id) = none

/-- The client that is registered under an identifier. -/
def registered (p : Console) (client_id : String) (db : Db) : Option Client :=
  (db.docs.get (.clients, client_id)).bind fun doc => client_of p.toServer doc.fields

/-- The client was read. -/
@[reducible] def Load (client_id : String) (fields : Fields) (update_time : Nat) : (o : FsOp) × o.Res :=
  ⟨.get_doc_with_update_time .clients client_id, .ok (some (fields, update_time))⟩

/-- A replacement reads the client, and writes it with other return addresses on its own hosts. -/
inductive Lawful (p : Console) (client_id : String) (past : Past Fs) : FsOp → Prop where
  | reads {o : FsOp} (none : o.writes = none) : Lawful p client_id past o
  | write {fields : Fields} {update_time : Nat} {client : Client} {uris : List String} {json : String}
      (read : Load client_id fields update_time ∈ past) (holds : client_of p.toServer fields = some client)
      (checked : check_admin_post_logout_uris uris client.redirect_uris = .ok ())
      (printed : p.client_to_string { client with post_logout_redirect_uris := uris } = .ok json) :
      Lawful p client_id past (.set_doc_if_unchanged .clients client.client_id (dcr_store.client_fields json) update_time)
  | log {id : String} {f : Fields} : Lawful p client_id past (.create_if_absent .auditLog id f)

private theorem replacement_justified (p : Console) (jwks : String → String → Option JwkPub) (client_id : String) (r : Replacement) :
    ((admin.client_set_post_logout p r.uuid r.browser client_id r.text).lower (production jwks)).Justified
      (Lawful p client_id) (fun _ _ => True) [] := by
  refine as_admin_justified (fun _ _ => .reads) (fun _ _ _ => trivial) fun viewer past _ => ?_
  unfold admin.client_set_post_logout_as dcr_store.load_client_with_version
  refine .call (.reads rfl) fun answer => ?_
  rcases answer with e | _ | ⟨fields, update_time⟩
  · exact .ret trivial
  · exact .ret trivial
  · dsimp only [Prog.bind]
    cases text : field_str fields "json" with
    | none => exact .ret trivial
    | some json =>
      dsimp only
      cases parsed : p.client_from_str json with
      | none => exact .ret trivial
      | some client =>
        have holds : client_of p.toServer fields = some client := by rw [client_of, text, Option.bind_some, parsed]
        simp only [Prog.pure_eq, Prog.bind]
        cases checked : check_admin_post_logout_uris (admin.lines r.text) client.redirect_uris with
        | error msg => exact .ret trivial
        | ok u =>
          dsimp only
          unfold dcr_store.put_client_if_unchanged
          cases printed : p.client_to_string { client with post_logout_redirect_uris := admin.lines r.text } with
          | error e => exact .ret trivial
          | ok json' =>
            refine .call (@Lawful.write p client_id _ fields update_time client _ json' List.mem_cons_self holds checked printed)
              fun answer => ?_
            rcases answer with e | _ | _
            · exact .ret trivial
            · exact .ret trivial
            · exact .call (.reads rfl) fun t => .call .log fun _ => .ret trivial

/-! ### Runs -/

/-- The client that is stored, and each one that was read, is allowed. -/
structure Inv (p : Console) (allowed : List String) (client_id : String) (c : Pool Fs Db ι Response) : Prop where
  stored : ∀ client, registered p client_id c.state = some client → Allowed allowed client
  read : ∀ e ∈ c.trace, ∀ fields update_time, (⟨e.op, e.answer⟩ : (o : FsOp) × o.Res) = Load client_id fields update_time →
    ∀ client, client_of p.toServer fields = some client → Allowed allowed client

variable {p : Console} {allowed : List String} {client_id : String}

private theorem registered_same {db db' : Db} (same : db'.docs.get (.clients, client_id) = db.docs.get (.clients, client_id)) :
    registered p client_id db' = registered p client_id db := by rw [registered, same, registered]

private theorem Inv.step [DecidableEq ι] (trips : RoundTrips p.toRegistrar) {c c' : Pool Fs Db ι Response} (inv : Inv p allowed client_id c)
    (did : Pool.Did sem (Elsewhere client_id) (fun _ => Lawful p client_id) c c') : Inv p allowed client_id c' := by
  cases did with
  | env changes trace threads =>
    refine ⟨fun client holds => ?_, by rw [trace]; exact inv.read⟩
    rcases changes with same | removed
    · exact inv.stored client (registered_same same ▸ holds)
    · rw [registered, removed] at holds
      cases holds
  | act e k next allowed' does trace threads =>
    refine ⟨fun client holds => ?_, ?_⟩
    · by_cases writes : e.op.writes = some (.clients, client_id)
      · obtain ⟨i, o, a⟩ := e
        cases allowed' with
        | reads quiet =>
          rw [show o.writes = none from quiet] at writes
          cases writes
        | @write fields update_time client' uris json read holds' checked printed =>
          have own : client'.client_id = client_id := by simpa [FsOp.writes] using writes
          have legal := check_admin_allowed (inv.read _ (Pool.mem_past.mp read) fields update_time rfl client' holds') checked
          obtain ⟨same, -⟩ | ⟨-, written, -⟩ := sem_set_if_unchanged does
          · rw [same] at holds
            exact inv.stored client holds
          · rw [written, own, registered, get_write, if_pos rfl, Option.bind_some, trips.client_of printed] at holds
            cases holds
            exact legal
        | log => cases writes
      · exact inv.stored client (registered_same (sem_frame writes does) ▸ holds)
    · rw [trace]
      intro x listed fields update_time is client holds
      rcases List.mem_cons.mp listed with rfl | before
      · obtain ⟨i, o, a⟩ := x
        cases is
        have found := (sem_get_with_time does).2 _ rfl
        obtain ⟨doc, stored, same⟩ := Option.map_eq_some_iff.mp found.symm
        cases same
        exact inv.stored client (by rw [registered, stored]; exact holds)
      · exact inv.read x before fields update_time is client holds

/-- A client that was registered with a token sends browsers to the hosts of the
    token only, whatever administrators replace its return addresses with. -/
theorem return_addresses_stay [DecidableEq ι] (p : Console) (trips : RoundTrips p.toRegistrar) (jwks : String → String → Option JwkPub)
    (random : List UInt8) (client_id : String) (req : RegistrationRequest) (constraints : IatConstraints)
    (plain : ∀ h ∈ constraints.allowed_redirect_hosts, PlainName h) (o : RegistrationOutcome)
    (valid : validate_registration p.toPlatform random client_id req constraints = .ok o) (requests : ι → Replacement)
    {before db : Db} (absent : before.docs.get (.clients, client_id) = none) {saved : Except String Unit}
    (save : Runs sem (dcr_store.save_client p.toRegistrar o.client) before saved db) {c : Pool Fs Db ι Response}
    (steps : Relation.ReflTransGen (Pool.Step sem (Elsewhere client_id)) (pool p jwks client_id requests db) c) (client : Client)
    (holds : registered p client_id c.state = some client) :
    ∀ uri ∈ client.redirect_uris ++ client.post_logout_redirect_uris, Inside constraints.allowed_redirect_hosts uri := by
  have named := (with_profile_base (validate_registration_eq_ok.mp valid).2.2.2.2).1
  have first : ∀ client, registered p client_id db = some client → Allowed constraints.allowed_redirect_hosts client := by
    intro client holds
    unfold dcr_store.save_client at save
    cases printed : p.client_to_string o.client with
    | error e =>
      rw [printed] at save
      obtain ⟨-, rfl⟩ := runs_ret.mp save
      rw [registered, absent] at holds
      cases holds
    | ok json =>
      rw [printed] at save
      obtain ⟨created, db', does, rest⟩ := runs_call.mp save
      have same : db = db' := by
        rcases created with e | _ | _ <;> exact (runs_ret.mp rest).2
      obtain ⟨rfl, -⟩ | ⟨-, rfl, -⟩ := sem_create_if_absent does
      · rw [same, registered, absent] at holds
        cases holds
      · have key : (dcr_store.CLIENTS, o.client.client_id) = ((.clients, client_id) : Col × String) := by rw [named]; rfl
        rw [same, registered, key, get_write, if_pos rfl, Option.bind_some, trips.client_of printed] at holds
        cases holds
        exact validate_registration_allowed valid
  have honest : (pool p jwks client_id requests db).Honest (fun _ => Lawful p client_id) fun _ _ _ => True :=
    fun i => replacement_justified p jwks client_id (requests i)
  have start : Inv p constraints.allowed_redirect_hosts client_id (pool p jwks client_id requests db) :=
    ⟨first, fun e listed => absurd listed List.not_mem_nil⟩
  have always : Relation.ReflTransGen (fun c c' => Pool.Step sem (Elsewhere client_id) c c' ∧ True)
      (pool p jwks client_id requests db) c := Relation.ReflTransGen.mono (fun _ _ step => ⟨step, trivial⟩) _ _ steps
  obtain ⟨inv, -⟩ := honest.induct (fun _ _ inv _ did _ => inv.step trips did) start always
  intro uri listed
  obtain ⟨host, found, h, inside, same⟩ := inv.stored client holds uri listed
  exact https_host_inside found inside (plain h inside) same

/-! ### A replacement -/

/-- What an administrator sends is stored if it passes the checks. -/
theorem replacement_stored {p : Console} (trips : RoundTrips p.toRegistrar) (r : Replacement) (viewer : String) {db : Db} {client : Client}
    {json json' : String} {update_time : Nat}
    (stored : db.docs.get (.clients, client.client_id) = some ⟨dcr_store.client_fields json, update_time⟩)
    (parsed : p.client_from_str json = some client)
    (checked : check_admin_post_logout_uris (admin.lines r.text) client.redirect_uris = .ok ())
    (printed : p.client_to_string { client with post_logout_redirect_uris := admin.lines r.text } = .ok json') :
    registered p client.client_id
      (Prog.run exec (admin.client_set_post_logout_as p r.uuid r.browser client.client_id r.text viewer) db).2 =
      some { client with post_logout_redirect_uris := admin.lines r.text } := by
  have loaded : Prog.run exec (dcr_store.load_client_with_version p.toRegistrar client.client_id) db =
      (.ok (some (client, update_time)), db) := by
    simp [dcr_store.load_client_with_version, exec, dcr_store.CLIENTS, stored, parsed]
  have current : db.unchanged (.clients, client.client_id) update_time = true :=
    Db.unchanged_iff.mpr ⟨_, stored, rfl⟩
  have put : Prog.run exec (dcr_store.put_client_if_unchanged p.toRegistrar
      { client with post_logout_redirect_uris := admin.lines r.text } update_time) db =
      (.ok true, db.write (.clients, client.client_id) (dcr_store.client_fields json')) := by
    simp [dcr_store.put_client_if_unchanged, printed, exec, dcr_store.CLIENTS, current]
  have logged : ∀ (s : Db) detail, registered p client.client_id
      (Prog.run exec (audit_log.record (r.uuid .audit_log) viewer "set_post_logout_redirect_uris" client.client_id detail) s).2 =
      registered p client.client_id s := by
    intro s detail
    have uses : (audit_log.record (r.uuid .audit_log) viewer "set_post_logout_redirect_uris" client.client_id detail).Uses
        fun o : FsOp => o.writes ≠ some (.clients, client.client_id) :=
      ⟨by simp [FsOp.writes], fun _ => ⟨by simp [FsOp.writes], fun _ => trivial⟩⟩
    refine uses.preserves (I := fun s' => registered p client.client_id s' = registered p client.client_id s)
      (fun o s' other same => ?_) rfl
    rw [← same]
    exact registered_same (exec_frame other s')
  unfold admin.client_set_post_logout_as
  rw [Prog.run_bind, loaded]
  dsimp only
  rw [checked]
  dsimp only
  rw [Prog.run_bind, put]
  dsimp only
  rw [Prog.run_bind]
  show registered p client.client_id (Prog.run exec (audit_log.record _ _ _ _ _) _).2 = _
  rw [logged, registered, get_write, if_pos rfl, Option.bind_some, trips.client_of printed]

def request : RegistrationRequest := ⟨["https://rp.example.com/cb"], ["https://rp.example.com/bye"], [], [], none⟩
def constraints : IatConstraints := ⟨["rp.example.com"], ["authorization_code"], .Public⟩

/-- The client that is registered with it. -/
def made : Client :=
  { base "dcr-1" request with token_endpoint_auth_method := "none", dpop_bound := true }

/-- An administrator is signed in. -/
def signedIn : Db :=
  (Db.write { clock := 1000 } (.sessions, "s1") (Session.to_fields ⟨"s1", "u1", 900⟩ 2000)).write (.admins, "_registry")
    (admin_store.entries_field admin_store.registry [⟨"u1", "cli", 7⟩])

/-- The client is saved. -/
def savedClient : Db := signedIn.write (.clients, "dcr-1") (dcr_store.client_fields (Reference.client.encode made))

/-- One of the addresses has a port, and lines may end in two characters. -/
def replacement : Replacement where
  uuid _ := "log-1"
  browser := ⟨[], some "s1"⟩
  text := "https://rp.example.com/\x0d\n\x0d\n https://RP.example.com:8443/out "

/-- The client after it. -/
def replaced : Client := { made with post_logout_redirect_uris := ["https://rp.example.com/", "https://RP.example.com:8443/out"] }

private theorem save_made : Prog.run exec (dcr_store.save_client Reference.console.toRegistrar made) signedIn = (.ok (), savedClient) := by
  have free : signedIn.docs.get (.clients, "dcr-1") = none := rfl
  have printed : Reference.console.client_to_string made = .ok (Reference.client.encode made) := rfl
  have named : made.client_id = "dcr-1" := rfl
  simp [dcr_store.save_client, printed, exec, dcr_store.CLIENTS, named, free, savedClient]

/-- The request of the administrator. -/
def replacing : Prog Fs Response :=
  (admin.client_set_post_logout Reference.console replacement.uuid replacement.browser made.client_id replacement.text).lower
    (production fun _ _ => none)

private theorem replace_made : registered Reference.console made.client_id (Prog.run exec replacing savedClient).2 = some replaced := by
  have signed : (Prog.run exec ((admin.require_admin Reference.console replacement.browser).lower (production fun _ _ => none))
      savedClient).1.toOption = some "u1" := by decide +kernel
  have stored : savedClient.docs.get (.clients, made.client_id) =
      some ⟨dcr_store.client_fields (Reference.client.encode made), 3⟩ := rfl
  have lines : admin.lines replacement.text = ["https://rp.example.com/", "https://RP.example.com:8443/out"] := by decide +kernel
  have checked : check_admin_post_logout_uris (admin.lines replacement.text) made.redirect_uris = .ok () := by
    rw [lines]
    decide +kernel
  have changed : { made with post_logout_redirect_uris := admin.lines replacement.text } = replaced := by rw [lines]; rfl
  have printed : Reference.console.client_to_string { made with post_logout_redirect_uris := admin.lines replacement.text } =
      .ok (Reference.client.encode replaced) := by rw [changed]; rfl
  rw [replacing, admin.client_set_post_logout, run_as_admin signed, ← changed]
  exact replacement_stored Reference.console_trips replacement "u1" stored (Reference.console_reads_clients made) checked printed

theorem return_addresses_stay_replaced : ∃ c : Pool Fs Db (Fin 1) Response,
    registered Reference.console made.client_id c.state = some replaced ∧
    ∀ uri ∈ replaced.redirect_uris ++ replaced.post_logout_redirect_uris, Inside ["rp.example.com"] uri := by
  have plain : ∀ h ∈ constraints.allowed_redirect_hosts, PlainName h := by
    intro h listed
    obtain rfl : h = "rp.example.com" := by simpa [constraints] using listed
    have letters : ("rp.example.com".toList.all fun c => c.isAlphanum || c == '-' || c == '.') = true := by decide +kernel
    intro c inside
    simpa [or_assoc] using List.all_eq_true.mp letters c inside
  have save : Runs sem (dcr_store.save_client Reference.console.toRegistrar made) signedIn (.ok ()) savedClient :=
    (runs_ofHandler.mpr save_made).mono fun _ _ _ _ does => .inl does
  obtain ⟨answer, last, ends⟩ : ∃ answer last, Prog.run exec replacing savedClient = (answer, last) := ⟨_, _, Prod.mk.eta.symm⟩
  have now : registered Reference.console made.client_id last = some replaced := by
    have state : (Prog.run exec replacing savedClient).2 = last := by rw [ends]
    rw [← state, replace_made]
  have runs := (runs_ofHandler.mpr ends).mono fun o s r s' does => (show sem o s r s' from .inl does)
  have here : (pool Reference.console (fun _ _ => none) made.client_id (fun _ : Fin 1 => replacement) savedClient).threads 0 =
      replacing := rfl
  obtain ⟨c, steps, state⟩ : ∃ c, Relation.ReflTransGen (Pool.Step sem (Elsewhere made.client_id))
      (pool Reference.console (fun _ _ => none) made.client_id (fun _ : Fin 1 => replacement) savedClient) c ∧ c.state = last := by
    obtain ⟨trace, steps⟩ := Pool.runs_steps (Elsewhere made.client_id) runs here rfl
    exact ⟨_, steps, rfl⟩
  have now : registered Reference.console made.client_id c.state = some replaced := by rw [state, now]
  exact ⟨c, now, return_addresses_stay Reference.console Reference.console_trips (fun _ _ => none) [] made.client_id request
    constraints plain ⟨made, none⟩ rfl (fun _ => replacement) rfl save steps _ now⟩

end RustOp.Web.ReturnAddresses
