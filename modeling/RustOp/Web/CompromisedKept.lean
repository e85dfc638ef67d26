import RustOp.Web.MdsLoader
import RustOp.Web.AttestationReference

/-!
What is known of an authenticator after the metadata service was configured. An
entry takes the place of every earlier one for the same authenticator, and its
reports go with it.
-/
namespace RustOp.Web.fido
open RustOp.Effects RustOp.Text mds

variable (p : Mds)

/-! ### The cache as a history of entries -/

namespace mds

/-- A report makes the authenticator unacceptable. -/
def Entry.Compromised (e : Entry) : Prop := ∃ r ∈ e.status_reports, r.status ∈ COMPROMISED

/-- What is stored for an entry, and where. -/
def Entry.write (e : Entry) : Option (String × Entry) := e.aaguid.map fun aaguid => (p.to_lowercase aaguid, e)

theorem insert_all (entries : List mds.Entry) (c : MdsCache) :
    (entries.foldl (MdsCache.insert p) c).entries = c.entries.setAll (entries.filterMap (mds.Entry.write p)) := by
  induction entries generalizing c with
  | nil => rfl
  | cons e rest ih =>
    rw [List.foldl_cons, ih]
    cases named : e.aaguid with
    | none => simp [MdsCache.insert, mds.Entry.write, named]
    | some aaguid => simp [MdsCache.insert, mds.Entry.write, named, Table.setAll]

/-- The last of the entries for an authenticator, in whatever case it is named. -/
def last_entry (entries : List mds.Entry) (aaguid : String) : Option mds.Entry :=
  Table.lastWrite (entries.filterMap (mds.Entry.write p)) (p.to_lowercase aaguid)

variable {p}

/-- An authenticator is refused exactly if its entry has a compromising report. -/
theorem get_statement_refused_iff {c : MdsCache} {aaguid : String} :
    (∃ status ∈ COMPROMISED, c.get_statement p.toFido aaguid = .error ("authenticator status compromised: " ++ status)) ↔
      ∃ e, c.entries.get (p.to_lowercase aaguid) = some e ∧ e.Compromised := by
  unfold MdsCache.get_statement
  cases stored : c.entries.get (p.to_lowercase aaguid) with
  | none => simp [pure, Except.pure]
  | some e =>
    simp only [Option.some.injEq, exists_eq_left']
    cases found : e.status_reports.find? fun r => COMPROMISED.contains r.status with
    | none =>
      have clean : ¬ e.Compromised := by
        rintro ⟨r, listed, compromised⟩
        simpa [compromised] using List.find?_eq_none.mp found r listed
      simp [pure, Except.pure, clean]
    | some r =>
      have compromised : r.status ∈ COMPROMISED := by simpa using List.find?_some found
      constructor
      · intro _
        exact ⟨r, List.mem_of_find?_eq_some found, compromised⟩
      · intro _
        exact ⟨r.status, compromised, rfl⟩

end mds

/-! ### What a configuration loads -/

section runs
variable {σ : Type} (h : Prog.Handler Net σ)

/-- The entries of the lists that are accepted, each list at its turn. -/
def accepted_blobs (roots : List (List UInt8)) : List String → σ → List (List mds.Entry)
  | [], _ => []
  | blob :: rest, s =>
    match Prog.run h (verified_entries p blob roots) s with
    | (.ok entries, s') => entries :: accepted_blobs roots rest s'
    | (.error _, s') => accepted_blobs roots rest s'

/-- The sequence of signed lists and of statements that one request loads. -/
structure Loads where
  blobs : List (List mds.Entry)
  statements : List mds.Entry

/-- Their entries in the order in which they are stored. -/
def Loads.entries (l : Loads) : List mds.Entry := l.blobs.flatten ++ l.statements

/-- What a request loads, unless it is refused. -/
def loads (body : String) (s : σ) : Option Loads :=
  match read_config p body with
  | .error _ => none
  | .ok c =>
    match Prog.run h (fetch_blobs c.blobs c.blob_urls) s with
    | (.error _, _) => none
    | (.ok blobs, s') => some ⟨accepted_blobs p h c.roots blobs s', c.statements.filterMap statement_entry⟩

theorem run_load_blobs (roots : List (List UInt8)) (i : Nat) (blobs : List String) (l : Loading) (s : σ) :
    (Prog.run h (load_blobs p roots i blobs l) s).1.cache =
      (accepted_blobs p h roots blobs s).flatten.foldl (MdsCache.insert p) l.cache := by
  induction blobs generalizing i l s with
  | nil => rfl
  | cons blob rest ih =>
    unfold load_blobs accepted_blobs MdsCache.load_blob
    simp only [Prog.run_bind]
    generalize Prog.run h (verified_entries p blob roots) s = verified
    obtain ⟨answer, s'⟩ := verified
    cases answer with
    | error e => exact ih _ _ _
    | ok entries =>
      rw [List.flatten_cons, List.foldl_append]
      exact ih _ _ _

theorem load_statements_cache (statements : List Json) (c : MdsCache) :
    (load_statements p statements c).2 = (statements.filterMap statement_entry).foldl (MdsCache.insert p) c := by
  have each : ∀ (n : Nat) (c : MdsCache), (statements.foldl (fun acc stmt =>
      (acc.1 + if (acc.2.load_statement p stmt).1 then 1 else 0, (acc.2.load_statement p stmt).2)) (n, c)).2 =
      (statements.filterMap statement_entry).foldl (MdsCache.insert p) c := by
    induction statements with
    | nil => exact fun _ _ => rfl
    | cons stmt rest ih =>
      intro n c
      rw [List.foldl_cons, ih]
      cases named : statement_entry stmt with
      | none => simp [MdsCache.load_statement, named]
      | some e => simp [MdsCache.load_statement, named]
  exact each 0 c

variable {p h}

/-- The cache holds the entries that were loaded, stored one after the other, and
    nothing of an earlier configuration. -/
theorem mds_config_cache {st : FidoState} {body : String} {s : σ} {l : Loads} (loaded : loads p h body s = some l) :
    (Prog.run h (mds_config p st body) s).1.2.mds.cache.entries = Table.setAll ∅ (l.entries.filterMap (mds.Entry.write p)) := by
  unfold loads at loaded
  unfold mds_config
  cases read : read_config p body with
  | error e =>
    rw [read] at loaded
    cases loaded
  | ok c =>
    rw [read] at loaded
    simp only [Prog.run_bind] at loaded ⊢
    generalize Prog.run h (fetch_blobs c.blobs c.blob_urls) s = fetched at loaded ⊢
    obtain ⟨answer, s'⟩ := fetched
    cases answer with
    | error e => cases loaded
    | ok blobs =>
      obtain rfl := Option.some.inj loaded
      simp only [Prog.run_bind, Prog.pure_eq, Prog.run_ret, load_statements_cache, run_load_blobs, insert_all, Loads.entries,
        List.filterMap_append, Table.setAll_append]

theorem mds_config_get {st : FidoState} {body : String} {s : σ} {l : Loads} (loaded : loads p h body s = some l)
    (aaguid : String) :
    (Prog.run h (mds_config p st body) s).1.2.mds.cache.entries.get (p.to_lowercase aaguid) = last_entry p l.entries aaguid := by
  rw [mds_config_cache loaded, Table.get_setAll, Table.get_empty, Option.or_none]
  rfl

/-- Without reports of its own the last entry counts as good, whatever was loaded
    before it. -/
theorem get_statement_of_last {st : FidoState} {body : String} {s : σ} {l : Loads} {aaguid : String} {last : mds.Entry}
    (loaded : loads p h body s = some l) (is_last : last_entry p l.entries aaguid = some last) (clean : last.status_reports = []) :
    (Prog.run h (mds_config p st body) s).1.2.mds.cache.get_statement p.toFido aaguid = .ok last.metadata_statement := by
  unfold MdsCache.get_statement
  rw [mds_config_get loaded, is_last]
  simp only [clean, List.find?_nil]
  rfl

variable (p) in
/-- Every authenticator that an accepted list reports as compromised is refused,
    in whatever case it is named. -/
def CompromisedRefused (l : Loads) (cache : MdsCache) : Prop :=
  ∀ blob ∈ l.blobs, ∀ e ∈ blob, e.Compromised → ∀ named, e.aaguid = some named →
    ∀ aaguid, p.to_lowercase aaguid = p.to_lowercase named →
      ∃ status ∈ COMPROMISED, cache.get_statement p.toFido aaguid = .error ("authenticator status compromised: " ++ status)

variable (p) in
/-- The last entry for every such authenticator has a compromising report itself. -/
def CompromisedLast (l : Loads) : Prop :=
  ∀ blob ∈ l.blobs, ∀ e ∈ blob, e.Compromised → ∀ named, e.aaguid = some named →
    ∃ last, last_entry p l.entries named = some last ∧ last.Compromised

/-- After a configuration the compromised authenticators of its lists are refused
    exactly if nothing that was loaded later for one of them hides the report. -/
theorem compromised_refused_iff {st : FidoState} {body : String} {s : σ} {l : Loads} (loaded : loads p h body s = some l) :
    CompromisedRefused p l (Prog.run h (mds_config p st body) s).1.2.mds.cache ↔ CompromisedLast p l := by
  constructor
  · intro refused blob listed e among compromised named is
    have here := refused blob listed e among compromised named is named rfl
    rw [get_statement_refused_iff, mds_config_get loaded] at here
    exact here
  · intro last blob listed e among compromised named is aaguid same
    rw [get_statement_refused_iff, mds_config_get loaded]
    have here := last blob listed e among compromised named is
    unfold last_entry at here ⊢
    rw [same]
    exact here

end runs
end RustOp.Web.fido

/-! ### A statement over a report -/

namespace RustOp.Reference
open RustOp.Web RustOp.Effects RustOp.Text RustOp.Web.fido RustOp.Web.fido.mds

/-- Base64 with padding. -/
def standard (bytes : List UInt8) : String :=
  String.ofList ((Base64.encode bytes).map (fun c => if c = '-' then '+' else if c = '_' then '/' else c) ++
    List.replicate ((3 - bytes.length % 3) % 3) '=')

def listedAaguid : String := "01020304-0506-0708-090a-0b0c0d0e0f10"

def blobHeader : List UInt8 :=
  bytesOfText ("\x7b\"alg\":\"ES256\",\"x5c\":[\"" ++ standard attesterDer ++ "\"]\x7d").toList

def blobPayload : List UInt8 :=
  bytesOfText ("\x7b\"no\":1,\"entries\":[\x7b\"aaguid\":\"" ++ listedAaguid ++
    "\",\"statusReports\":[\x7b\"status\":\"ATTESTATION_KEY_COMPROMISE\"\x7d]\x7d]\x7d").toList

/-- Made with the key of the attester over the first two parts of the list. -/
def blobSignature : List UInt8 :=
  [0x0b, 0xd6, 0xdd, 0x5d, 0x21, 0xf0, 0x9c, 0x9f, 0xcb, 0x36, 0xd1, 0xf9, 0x00, 0xb9, 0x7a, 0xca, 0x2c, 0xe2, 0x19,
    0xf7, 0x40, 0x98, 0xa7, 0xa8, 0x2d, 0x8f, 0xf7, 0x20, 0x97, 0xbf, 0x2f, 0x67, 0x76, 0x56, 0x64, 0x0c, 0x2f, 0x24,
    0xc8, 0xf3, 0xfb, 0xcf, 0xd9, 0x66, 0xc8, 0x17, 0xc7, 0x9d, 0xa3, 0x11, 0xe8, 0x05, 0x68, 0x23, 0x44, 0x3c, 0xce,
    0xce, 0x1a, 0x1c, 0x63, 0xc9, 0x20, 0x8b]

def blobParts : Compact := ⟨base64 blobHeader, base64 blobPayload, base64 blobSignature⟩
def blob : String := blobParts.header ++ "." ++ blobParts.payload ++ "." ++ blobParts.signature

/-- What the list says of the authenticator. -/
def reported : mds.Entry := { aaguid := some listedAaguid, status_reports := [⟨"ATTESTATION_KEY_COMPROMISE"⟩] }

def statementValue : Json := .obj [("aaguid", .str listedAaguid)]

/-- What the statement says of it. -/
def restated : mds.Entry := { aaguid := some listedAaguid, metadata_statement := some {} }

/-- A request with the list and the statement, as text and as a value. -/
def configuration : String :=
  "\x7b\"roots\":[\"" ++ standard attesterDer ++ "\"],\"blobs\":[\"" ++ blob ++ "\"],\"statements\":[\x7b\"aaguid\":\"" ++
    listedAaguid ++ "\"\x7d]\x7d"

def configurationValue : Json :=
  .obj [("roots", .arr [.str (standard attesterDer)]), ("blobs", .arr [.str blob]), ("statements", .arr [statementValue])]

/-- The metadata service, as it knows this list. Its root is the certificate of the
    attester. -/
def loader : Mds where
  toConformance :=
    { certifier with
      toSite :=
        { certifier.toSite with
          verify_bytes := fun vk message signature =>
            (vk = attesterX ++ attesterY ∧ message = blobParts.signing_input.toUTF8.toList ∧ signature = blobSignature) ||
              certifier.verify_bytes vk message signature }
      decode_standard := fun text => if text = standard attesterDer then .ok attesterDer else .error "Invalid padding"
      json_from_str := fun body =>
        if body = configuration then .ok configurationValue else .error "expected value at line 1 column 1" }
  blob_header_from_slice := fun bytes =>
    if bytes = blobHeader then .ok ⟨"ES256", [standard attesterDer]⟩ else .error "expected value at line 1 column 1"
  blob_payload_from_slice := fun bytes =>
    if bytes = blobPayload then .ok ⟨1, [reported]⟩ else .error "expected value at line 1 column 1"
  p384_signature_from_slice := fun _ => .error "signature error"
  crl_distribution_points_from_der := fun _ => none
  certificate_list_from_der := fun _ => .error "unexpected ASN.1 DER tag"

/-- A network that reaches nobody, at a fixed time. -/
def offline : Prog.Handler Net Nat
  | .now, clock => (clock, clock)
  | .text _, clock => (.error (.get "error sending request"), clock)
  | .bytes _, clock => (.error (.get "error sending request"), clock)

/-! ### What the checks find -/

/-- White space around the parts is dropped first. -/
private theorem parse_encoded (header payload signature : List UInt8) :
    Compact.parse (trim (base64 header ++ "." ++ base64 payload ++ "." ++ base64 signature)) =
      some ⟨base64 header, base64 payload, base64 signature⟩ := by
  have solid : ∀ bytes, ∀ c ∈ Base64.encode bytes, is_whitespace c = false :=
    fun bytes c listed => (plain_symbol (Base64.isSymbol_of_mem_encode listed)).1
  have spelled : (base64 header ++ "." ++ base64 payload ++ "." ++ base64 signature).toList =
      Base64.encode header ++ '.' :: Base64.encode payload ++ '.' :: Base64.encode signature := by
    simp [base64]
  have untouched : ∀ c ∈ Base64.encode header ++ '.' :: Base64.encode payload ++ '.' :: Base64.encode signature,
      is_whitespace c = false := by
    intro c listed
    simp only [List.mem_append, List.mem_cons] at listed
    rcases listed with (first | rfl | second) | rfl | third
    · exact solid _ c first
    · decide
    · exact solid _ c second
    · decide
    · exact solid _ c third
  rw [trim, spelled, dropWhile_none untouched, trim_end_none untouched]
  exact parse_base64 header payload signature

private theorem b64url_encoded (bytes : List UInt8) : mds.b64url loader (base64 bytes) = .ok bytes := by
  have unpadded : ∀ c ∈ (base64 bytes).toList, (c == '=') = false := by
    intro c listed
    simpa using (plain_symbol (site_codec.symbols bytes c listed)).2.2.2
  rw [mds.b64url, trim_end_none unpadded, String.ofList_toList, Checks.mapError_eq_ok]
  exact site_codec.decode bytes

private theorem chain_valid :
    validate_chain_to_roots loader.toConformance 1800000000 [attesterDer] [attesterDer] true = .ok (.EcP256 attesterX attesterY) := by
  decide +kernel

private theorem blob_signed : jws_verify loader (.EcP256 attesterX attesterY) "ES256" blobParts.signing_input.toUTF8.toList
    blobSignature = .ok () := by
  have whole : loader.signature_from_slice blobSignature = .ok blobSignature := by decide +kernel
  have key : p256_vk loader.toConformance attesterX attesterY = .ok (attesterX ++ attesterY) := by decide +kernel
  have genuine : loader.verify_bytes (attesterX ++ attesterY) blobParts.signing_input.toUTF8.toList blobSignature = true := by
    simp only [loader, and_self, decide_true, Bool.true_or]
  simp only [jws_verify, if_true, Checks.bind_eq_ok, Checks.mapError_eq_ok, Checks.refuse_eq_ok]
  exact ⟨_, whole, _, key, by rw [genuine]; decide⟩

private theorem blob_verified : verify_blob loader 1800000000 blob [attesterDer] (-1) = .ok (1, [reported], [attesterDer]) := by
  have header : loader.blob_header_from_slice blobHeader = .ok ⟨"ES256", [standard attesterDer]⟩ := by
    simp only [loader, if_true]
  have payload : loader.blob_payload_from_slice blobPayload = .ok ⟨1, [reported]⟩ := by simp only [loader, if_true]
  have certificate : loader.decode_standard (standard attesterDer) = .ok attesterDer := by simp only [loader, if_true]
  simp only [verify_blob, Checks.bind_eq_ok, Checks.mapError_eq_ok, Checks.refuse_eq_ok, Checks.ok_or_eq_ok, Checks.mapM_eq_ok,
    Checks.pure_eq_ok]
  have parts : Compact.parse (trim blob) = some blobParts := parse_encoded blobHeader blobPayload blobSignature
  exact ⟨blobParts, parts, blobHeader, b64url_encoded blobHeader, _, header, blobPayload, b64url_encoded blobPayload, _, payload, (),
    by decide, [attesterDer], .cons certificate .nil, _, chain_valid, blobSignature, b64url_encoded blobSignature, (), blob_signed, rfl⟩

/-- A list with one certificate that names no list of revoked ones. -/
private theorem accepted_of {p : Mds} {text : String} {roots : List (List UInt8)} {now : Nat} {no : Int} {entries : List mds.Entry}
    {der : List UInt8} {cert : Certificate} (valid : verify_blob p now text roots (-1) = .ok (no, entries, [der]))
    (read : p.certificate_from_der der = .ok cert) (unlisted : crl_url p cert = none) :
    Prog.run offline (verified_entries p text roots) now = (.ok entries, now) := by
  simp [verified_entries, offline, valid, assert_none_revoked, read, Except.mapError, assert_not_revoked, unlisted]

private theorem blob_accepted :
    Prog.run offline (verified_entries loader blob [attesterDer]) 1800000000 = (.ok [reported], 1800000000) := by
  have certificate : loader.certificate_from_der attesterDer = .ok attesterCertificate := by decide +kernel
  have unlisted : crl_url loader attesterCertificate = none := by decide +kernel
  exact accepted_of blob_verified certificate unlisted

/-- A request with one root, one list and no addresses. -/
private theorem read_configured {p : Mds} {body root text : String} {der : List UInt8} {statements : List Json}
    (value : p.json_from_str body =
      .ok (.obj [("roots", .arr [.str root]), ("blobs", .arr [.str text]), ("statements", .arr statements)]))
    (certificate : p.decode_standard root = .ok der) : read_config p body = .ok ⟨[der], [text], [], statements⟩ := by
  have parsed : parse_object p.toConformance body =
      .ok (.obj [("roots", .arr [.str root]), ("blobs", .arr [.str text]), ("statements", .arr statements)]) := by
    simp [parse_object, value]
  simp only [read_config, Checks.bind_eq_ok, Checks.refuse_eq_ok, Checks.pure_eq_ok]
  refine ⟨_, parsed, (), ?_, ?_⟩
  · simp [str_array, Json.get, Json.as_str, certificate, Except.toOption]
  · simp [str_array, Json.get, Json.as_str, certificate, Except.toOption]

private theorem configuration_read :
    read_config loader configuration = .ok ⟨[attesterDer], [blob], [], [statementValue]⟩ := by
  have certificate : loader.decode_standard (standard attesterDer) = .ok attesterDer := by simp only [loader, if_true]
  have value : loader.json_from_str configuration = .ok configurationValue := by simp only [loader, if_true]
  exact read_configured value certificate

private theorem loads_of {p : Mds} {σ : Type} {h : Prog.Handler Net σ} {s s' : σ} {body text : String} {roots : List (List UInt8)}
    {statements : List Json} {entries : List mds.Entry} (read : read_config p body = .ok ⟨roots, [text], [], statements⟩)
    (accepted : Prog.run h (verified_entries p text roots) s = (.ok entries, s')) :
    loads p h body s = some ⟨[entries], statements.filterMap statement_entry⟩ := by
  simp [loads, read, fetch_blobs, accepted_blobs, accepted]

/-- The request loads the list, and then the statement. -/
private theorem configuration_loads : loads loader offline configuration 1800000000 = some ⟨[[reported]], [restated]⟩ := by
  have entry : [statementValue].filterMap statement_entry = [restated] := by
    simp [statementValue, statement_entry, restated, MetadataStatement.from_value, Json.get_str, Json.get, Json.as_str]
  rw [loads_of configuration_read blob_accepted, entry]

theorem compromised_refused_configuration :
    CompromisedRefused loader ⟨[[reported]], [restated]⟩
      (Prog.run offline (mds_config loader vetting configuration) 1800000000).1.2.mds.cache ↔
    CompromisedLast loader ⟨[[reported]], [restated]⟩ :=
  compromised_refused_iff configuration_loads

/-- A signed list reports the authenticator as compromised. The same request states
    it again without a report, and it counts as good. -/
theorem compromised_restated :
    loads loader offline configuration 1800000000 = some ⟨[[reported]], [restated]⟩ ∧ reported.Compromised ∧
    (Prog.run offline (mds_config loader vetting configuration) 1800000000).1.2.mds.cache.get_statement loader.toFido listedAaguid =
      .ok (some {}) ∧
    ¬ CompromisedRefused loader ⟨[[reported]], [restated]⟩
      (Prog.run offline (mds_config loader vetting configuration) 1800000000).1.2.mds.cache := by
  have compromised : reported.Compromised := ⟨⟨"ATTESTATION_KEY_COMPROMISE"⟩, List.mem_singleton_self _, by simp [COMPROMISED]⟩
  have last : last_entry loader (Loads.entries ⟨[[reported]], [restated]⟩) listedAaguid = some restated := by
    simp [last_entry, Loads.entries, mds.Entry.write, reported, restated, Table.lastWrite]
  have stated : (Prog.run offline (mds_config loader vetting configuration) 1800000000).1.2.mds.cache.get_statement loader.toFido
      listedAaguid = .ok (some {}) := get_statement_of_last configuration_loads last rfl
  refine ⟨configuration_loads, compromised, stated, fun refused => ?_⟩
  obtain ⟨status, -, refusal⟩ := refused [reported] (List.mem_singleton_self _) reported (List.mem_singleton_self _) compromised
    listedAaguid rfl listedAaguid rfl
  rw [stated] at refusal
  cases refusal

end RustOp.Reference
