import RustOp.Web.Conformance
import RustOp.Effects.LastWrite

/-!
What the metadata service loads: signed lists of entries, which are checked
against trusted roots, and statements that are taken as they are.
-/
namespace RustOp.Web
open RustOp.Effects RustOp.Text

/-! ### Library functions -/

inductive GeneralName where
  | UniformResourceIdentifier (uri : String)
  | other
deriving DecidableEq, Repr

inductive DistributionPointName where
  | FullName (names : List GeneralName)
  | NameRelativeToCRLIssuer
deriving DecidableEq, Repr

namespace fido.mds

structure BlobPayload where
  no : Int := 0
  entries : List Entry := []
deriving DecidableEq, Repr

structure BlobHeader where
  alg : String := ""
  /-- In standard base64. -/
  x5c : List String := []
deriving DecidableEq, Repr

end fido.mds

/-- The conformance endpoints with what the metadata service needs. -/
structure Mds extends Conformance where
  /-- `serde_json::from_slice::<BlobHeader>` -/
  blob_header_from_slice : List UInt8 → Except String fido.mds.BlobHeader
  /-- `serde_json::from_slice::<BlobPayload>` -/
  blob_payload_from_slice : List UInt8 → Except String fido.mds.BlobPayload
  /-- `p384::ecdsa::Signature::from_slice` -/
  p384_signature_from_slice : List UInt8 → Except String (List UInt8)
  /-- `CrlDistributionPoints::from_der`: the name of each point. -/
  crl_distribution_points_from_der : List UInt8 → Option (List (Option DistributionPointName))
  /-- `CertificateList::from_der`: the serial numbers of the revoked certificates, if there is a list of them. -/
  certificate_list_from_der : List UInt8 → Except String (Option (List (List UInt8)))

/-- Why a request to a server gave nothing: it failed, or its body did. -/
inductive FetchError where
  | get (e : String)
  | body (e : String)

/-- Requests to other servers, and the clock. -/
inductive NetOp where
  | text (url : String)
  | bytes (url : String)
  | now

@[reducible] def NetOp.Res : NetOp → Type
  | .text _ => Except FetchError String
  | .bytes _ => Except FetchError (List UInt8)
  | .now => Nat

@[reducible] def Net : Sig := ⟨NetOp, NetOp.Res⟩

@[simp] def net (o : NetOp) : Prog Net o.Res := .call o .ret

namespace fido.mds
variable (p : Mds)

/-! ### Signed lists -/

def b64url (s : String) : Except String (List UInt8) :=
  (p.decode_url_safe (String.ofList (trim_end_matches (· == '=') s.toList))).mapError ("jws base64url: " ++ ·)

/-- The algorithm comes from the header, and has to fit the key. -/
def jws_verify (leaf : CertPubKey) (alg : String) (signing_input signature : List UInt8) : Except String Unit :=
  match leaf with
  | .EcP256 x y =>
    if alg = "ES256" then do
      let s ← (p.signature_from_slice signature).mapError ("es256 sig: " ++ ·)
      let vk ← p256_vk p.toConformance x y
      refuse (!p.verify_bytes vk signing_input s) "ES256 verify failed"
    else .error ("JWS alg " ++ alg ++ " not supported or key mismatch")
  | .EcP384 x y =>
    if alg = "ES384" then do
      let s ← (p.p384_signature_from_slice signature).mapError ("es384 sig: " ++ ·)
      let vk ← p384_vk p.toConformance x y
      refuse (!p.p384_verify vk signing_input s) "ES384 verify failed"
    else .error ("JWS alg " ++ alg ++ " not supported or key mismatch")
  | .Rsa n e =>
    if alg = "RS256" then sig.verify_rs256 p.toSignatures n e signing_input signature
    else if alg = "RS384" then sig.verify_rs384 p.toSignatures n e signing_input signature
    else .error ("JWS alg " ++ alg ++ " not supported or key mismatch")

/-- Number, entries and certificates of a list whose signature and chain hold, and
    which is newer than another one. -/
def verify_blob (now : Nat) (blob : String) (roots_der : List (List UInt8)) (prev_no : Int) :
    Except String (Int × List Entry × List (List UInt8)) := do
  let parts ← ok_or (Compact.parse (trim blob)) "mds blob not a JWS compact"
  let header ← (p.blob_header_from_slice (← b64url p parts.header)).mapError ("mds header: " ++ ·)
  let payload ← (p.blob_payload_from_slice (← b64url p parts.payload)).mapError ("mds payload: " ++ ·)
  refuse (payload.no ≤ prev_no) ("mds blob no " ++ toString payload.no ++ " <= previous " ++ toString prev_no)
  let x5c_der ← header.x5c.mapM fun c => (p.decode_standard c).mapError ("mds x5c base64: " ++ ·)
  let leaf_key ← validate_chain_to_roots p.toConformance now x5c_der roots_der true
  let signature ← b64url p parts.signature
  jws_verify p leaf_key header.alg parts.signing_input.toUTF8.toList signature
  return (payload.no, payload.entries, x5c_der)

/-! ### Revocation -/

/-- id-ce-cRLDistributionPoints -/
def OID_CRL_DISTRIBUTION_POINTS : String := "2.5.29.31"

def uri_of : GeneralName → Option String
  | .UniformResourceIdentifier uri => some uri
  | .other => none

/-- The first address among the full names of distribution points. -/
def first_uri (points : List (Option DistributionPointName)) : Option String :=
  points.findSome? fun point =>
    match point with
    | some (.FullName names) => names.findSome? uri_of
    | _ => none

/-- An extension that cannot be read ends the search. -/
def crl_url_in : List Extension → Option String
  | [] => none
  | ext :: rest =>
    if ext.extn_id = OID_CRL_DISTRIBUTION_POINTS then
      match p.crl_distribution_points_from_der ext.extn_value with
      | none => none
      | some points => (first_uri points).or (crl_url_in rest)
    else crl_url_in rest

/-- Where the list is that would name a revoked certificate. -/
def crl_url (cert : Certificate) : Option String := cert.tbs_certificate.extensions.bind (crl_url_in p)

/-- A certificate that names no list counts as not revoked. -/
def assert_not_revoked (cert : Certificate) : Prog Net (Except String Unit) := do
  let some url := crl_url p cert | return .ok ()
  match ← net (.bytes url) with
  | .error (.get e) => return .error ("crl fetch " ++ url ++ ": " ++ e)
  | .error (.body e) => return .error ("crl body: " ++ e)
  | .ok bytes =>
  match (p.certificate_list_from_der bytes).mapError ("crl parse: " ++ ·) with
  | .error e => return .error e
  | .ok none => return .ok ()
  | .ok (some revoked) =>
    return refuse (cert.tbs_certificate.serial_number ∈ revoked) "mds chain certificate is revoked"

/-- None of the certificates is revoked. -/
def assert_none_revoked : List (List UInt8) → Prog Net (Except String Unit)
  | [] => return .ok ()
  | der :: rest => do
    match (p.certificate_from_der der).mapError ("x5c parse: " ++ ·) with
    | .error e => return .error e
    | .ok cert =>
    match ← assert_not_revoked p cert with
    | .error e => return .error e
    | .ok () => assert_none_revoked rest

/-! ### The cache -/

/-- Stores an entry in place of an earlier one for the same authenticator. One that
    names no authenticator is passed over. -/
def MdsCache.insert (c : MdsCache) (e : Entry) : MdsCache :=
  match e.aaguid with
  | some aaguid => { entries := c.entries.set (p.to_lowercase aaguid) e }
  | none => c

/-- The entries of a signed list that is accepted. The number of the list is not
    compared with earlier ones. -/
def verified_entries (blob : String) (roots_der : List (List UInt8)) : Prog Net (Except String (List Entry)) := do
  let now ← net .now
  match verify_blob p now blob roots_der (-1) with
  | .error e => return .error e
  | .ok (_no, entries, x5c_der) =>
  match ← assert_none_revoked p x5c_der with
  | .error e => return .error e
  | .ok () => return .ok entries

/-- Loads a signed list; the answer is how many entries were stored. -/
def MdsCache.load_blob (c : MdsCache) (blob : String) (roots_der : List (List UInt8)) :
    Prog Net (Except String (Nat × MdsCache)) := do
  match ← verified_entries p blob roots_der with
  | .error e => return .error e
  | .ok entries => return .ok ((entries.filter fun e => e.aaguid.isSome).length, entries.foldl (insert p) c)

/-- `serde_json::from_value::<MetadataStatement>` -/
def MetadataStatement.from_value (stmt : Json) : Option MetadataStatement :=
  match stmt.get "attestationRootCertificates" with
  | none => some {}
  | some (.arr items) => (items.mapM Json.as_str).map fun certificates => { attestation_root_certificates := certificates }
  | some _ => none

/-- A statement without a signature, as an entry. It has no reports. -/
def statement_entry (stmt : Json) : Option Entry :=
  (stmt.get_str "aaguid").map fun aaguid =>
    { aaguid := some aaguid
      metadata_statement := some ((MetadataStatement.from_value stmt).getD {})
      status_reports := [] }

/-- Loads a statement without a signature, if it names an authenticator. -/
def MdsCache.load_statement (c : MdsCache) (stmt : Json) : Bool × MdsCache :=
  match statement_entry stmt with
  | some e => (true, c.insert p e)
  | none => (false, c)

end fido.mds

/-! ### The configuration -/

namespace fido
open mds
variable (p : Mds)

/-- The texts of a field that is an array. -/
def str_array (m : Json) (key : String) : List String :=
  match m.get key with
  | some (.arr items) => items.filterMap Json.as_str
  | _ => []

/-- What a request configures the metadata service with. -/
structure MdsConfig where
  roots : List (List UInt8)
  blobs : List String
  blob_urls : List String
  statements : List Json

def read_config (body : String) : Except String MdsConfig := do
  let m ← parse_object p.toConformance body
  let roots := (str_array m "roots").filterMap fun s => (p.decode_standard s).toOption
  refuse (roots.isEmpty) "roots required (base64 DER)"
  return {
    roots
    blobs := str_array m "blobs"
    blob_urls := str_array m "blobUrls"
    statements := match m.get "statements" with
      | some (.arr items) => items
      | _ => [] }

/-- The lists of a request and those that are fetched. -/
def fetch_blobs (blobs : List String) : List String → Prog Net (Except String (List String))
  | [] => return .ok blobs
  | url :: rest => do
    match ← net (.text url) with
    | .ok t => fetch_blobs (blobs ++ [t]) rest
    | .error (.body e) => return .error ("fetch " ++ url ++ " body: " ++ e)
    | .error (.get e) => return .error ("fetch " ++ url ++ ": " ++ e)

/-- What was loaded so far. -/
structure Loading where
  cache : MdsCache := {}
  loaded : Nat := 0
  skipped : List Json := []

/-- Loads lists one after the other; those that are not accepted are skipped. -/
def load_blobs (roots : List (List UInt8)) : Nat → List String → Loading → Prog Net Loading
  | _, [], l => return l
  | i, blob :: rest, l => do
    match ← l.cache.load_blob p blob roots with
    | .ok (n, cache) => load_blobs roots (i + 1) rest { l with cache, loaded := l.loaded + n }
    | .error e =>
      load_blobs roots (i + 1) rest { l with skipped := l.skipped ++ [.obj [("index", .num i), ("error", .str e)]] }

/-- Loads statements one after the other, and counts those that were stored. -/
def load_statements (statements : List Json) (c : MdsCache) : Nat × MdsCache :=
  statements.foldl (fun acc stmt =>
    (acc.1 + if (acc.2.load_statement p stmt).1 then 1 else 0, (acc.2.load_statement p stmt).2)) (0, c)

/-- Configures the metadata service anew: signed lists first, then statements. The
    answer comes with the state after it. -/
def mds_config (st : FidoState) (body : String) : Prog Net (Response × FidoState) := do
  match read_config p body with
  | .error e => return (failed e, st)
  | .ok c =>
  match ← fetch_blobs c.blobs c.blob_urls with
  | .error e => return (failed e, st)
  | .ok blobs =>
  let l ← load_blobs p c.roots 0 blobs {}
  let (statements_loaded, cache) := load_statements p c.statements l.cache
  return (ok_with [("enabled", .bool true), ("entries", .num l.loaded), ("statements", .num statements_loaded),
      ("skipped", .arr l.skipped)],
    { st with mds := { enabled := true, roots := c.roots, cache } })

end fido
end RustOp.Web
