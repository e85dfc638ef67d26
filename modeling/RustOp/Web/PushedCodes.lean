import RustOp.Web.FidoStore
import RustOp.Web.GrantedCodes

/-!
A pushed request stays with the client that pushed it: a code for it names this
client, and a request that was pushed with a proof is redeemed with a proof of the
same key.
-/
namespace RustOp.Web.CodeFlow
open RustOp.Effects RustOp.Effects.Checks RustOp.Text RustOp.Firestore

/-! ### The text that is stored -/

private theorem split_ne_nil (separator : Char) (text : List Char) : split separator text ≠ [] := by
  cases text with
  | nil => simp [split]
  | cons c rest =>
    unfold split
    split
    · simp
    · split <;> simp

/-- A separator between two texts separates their pieces. -/
theorem split_append (separator : Char) (text rest : List Char) :
    split separator (text ++ separator :: rest) = split separator text ++ split separator rest := by
  induction text with
  | nil => simp [split]
  | cons c text ih =>
    rw [List.cons_append]
    by_cases same : c = separator
    · simp [split, same, ih]
    · cases pieces : split separator text with
      | nil => exact absurd pieces (split_ne_nil separator text)
      | cons piece pieces' => simp [split, same, ih, pieces]

/-- What comes later counts. -/
theorem get_append (first second : Form) (name : String) : Form.get (first ++ second) name = (second.get name).or (first.get name) := by
  simp only [Form.get, List.reverse_append, List.find?_append]
  cases second.reverse.find? fun pair => pair.1 == name <;> simp

/-- Text without escapes means itself. -/
def PlainDecoded (p : Server) : Prop := ∀ text : String, '%' ∉ text.toList → '+' ∉ text.toList → p.decode text = text

section text
variable {p : Server} (plain : PlainDecoded p) (codec : Base64url p)
include codec

private theorem thumbprint_plain {bytes : List UInt8} {c : Char} (reserved : c ∈ ['&', '=', '%', '+']) :
    c ∉ (p.b64url bytes).toList := by
  intro listed
  have symbol := codec.symbols bytes c listed
  revert symbol
  fin_cases reserved <;> decide

include plain

/-- The key of a proof is one more parameter. -/
private theorem form_bound (text : String) (bytes : List UInt8) :
    p.form (text ++ "&dpop_jkt=" ++ p.b64url bytes) = p.form text ++ [("dpop_jkt", p.b64url bytes)] := by
  have pieces : (text ++ "&dpop_jkt=" ++ p.b64url bytes).toList =
      text.toList ++ '&' :: ("dpop_jkt".toList ++ '=' :: (p.b64url bytes).toList) := by
    simp [String.toList_append]
  have last : split '&' ("dpop_jkt".toList ++ '=' :: (p.b64url bytes).toList) =
      ["dpop_jkt".toList ++ '=' :: (p.b64url bytes).toList] := by
    refine split_absent fun listed => ?_
    rcases List.mem_append.mp listed with name | value
    · revert name
      decide
    · rcases List.mem_cons.mp value with same | value
      · cases same
      · exact thumbprint_plain codec (by simp) value
  have name : p.decode "dpop_jkt" = "dpop_jkt" := plain _ (by decide) (by decide)
  have value : p.decode (p.b64url bytes) = p.b64url bytes :=
    plain _ (thumbprint_plain codec (by simp)) (thumbprint_plain codec (by simp))
  unfold Server.form urlencoded
  rw [pieces, split_append, last, List.filter_append, List.map_append]
  congr 1
  simp [urlencoded_pair, name, value]

omit plain codec in
/-- A proof is accepted with the thumbprint of the key in it. -/
private theorem verified_key {proof htm htu jkt : String} {expected_ath : Option String} {past : Past Host}
    (gave : (Es256Dpop.verify p proof htm htu expected_ath).Gave (.ok jkt) past) : ∃ bytes, jkt = p.b64url bytes := by
  obtain ⟨before, after, leads, -⟩ := gave
  unfold Es256Dpop.verify at leads
  split at leads
  · cases leads.1
  · split at leads
    · cases leads.1
    · obtain ⟨t, leads⟩ := leads
      dsimp only [Prog.bind] at leads
      split at leads
      · cases leads.1
      · obtain ⟨won, leads⟩ := leads
        cases won with
        | false => cases leads.1
        | true => exact ⟨_, Except.ok.inj leads.1⟩

variable {headers : Headers} {body text params : String} {past : Past Host} {client : Client}

/-- The stored parameters name nobody but the client. -/
theorem pushed_names_client (pushed : Pushed p headers body past client text params) {id : String}
    (named : (p.form params).get "client_id" = some id) : id = client.client_id := by
  rcases pushed.bound with ⟨-, rfl⟩ | ⟨proof, jkt, -, verified, ⟨-, rfl⟩ | ⟨-, rfl⟩⟩
  · exact pushed.own id named
  · exact pushed.own id named
  · obtain ⟨bytes, rfl⟩ := verified_key verified
    rw [form_bound plain codec, get_append] at named
    refine pushed.own id ?_
    simpa [Form.get] using named

/-- The stored parameters name the key of the proof. -/
theorem pushed_names_key (pushed : Pushed p headers body past client text params) {proof : String}
    (shown : dpop_header headers = some proof) :
    ∃ jkt, (Es256Dpop.verify p proof "POST" (p.issuer ++ "/par") none).Gave (.ok jkt) past ∧
      (p.form params).get "dpop_jkt" = some jkt := by
  rcases pushed.bound with ⟨absent, -⟩ | ⟨proof', jkt, shown', verified, kept⟩
  · rw [absent] at shown
    cases shown
  · obtain rfl := Option.some.inj (shown'.symm.trans shown)
    refine ⟨jkt, verified, ?_⟩
    rcases kept with ⟨named, rfl⟩ | ⟨-, rfl⟩
    · exact named
    · obtain ⟨bytes, rfl⟩ := verified_key verified
      rw [form_bound plain codec, get_append]
      simp [Form.get]

end text

private theorem from_form_eq {form : Form} {params : AuthParams} (parsed : AuthParams.from_form form = .ok params) :
    params.client_id = form.get "client_id" ∧ params.dpop_jkt = form.get "dpop_jkt" := by
  unfold AuthParams.from_form at parsed
  split at parsed
  · cases parsed
  · cases parsed
    exact ⟨rfl, rfl⟩

/-! ### Codes for pushed requests -/

section runs
variable {p : Site} {ent : Entropy} {jwks : ℕ → String → String → Option JwkPub} {requests : ℕ → Request} {db : Db}
  {c : Pool Fs Db ℕ (Option String × Response)} {trace : List (Occurrence Fs ℕ)}

variable (p ent jwks requests) in
/-- A code for a query that was pushed if its client has to push, and then by this
    client, whose proof names the key of the code. -/
structure OfItsClient (trace : List (Occurrence Fs ℕ)) (c : AuthorizationCode) (q : Query) (sid raw : Option String)
    (first req : AddressedRequest) : Prop where
  accepted : ∃ j above, AcceptedAt p ent jwks requests trace q j sid raw above first
  code : c = code_of req c.code c.account_id c.auth_time c.expires_at
  named : req.params.client_id = first.params.client_id
  required : first.client.require_par = true → q.pushed.isSome
  pushed : ∀ creator uri, q.pushed = some (creator, uri) → ∃ k headers body text above client,
    PushedUnder p ent jwks requests trace uri creator q.raw k headers body text above client ∧
    req.params.client_id = some client.client_id ∧
    (∀ id, (p.form (raw.getD "")).get "client_id" = some id → id = client.client_id) ∧
    ∀ proof, dpop_header headers = some proof →
      ∃ jkt, (Es256Dpop.verify p.toServer proof "POST" (p.issuer ++ "/par") none).Gave (.ok jkt) above ∧
        c.dpop_jkt = some jkt

theorem Granted.of_its_client (plain : PlainDecoded p.toServer) (codec : Base64url p.toServer) {code : AuthorizationCode}
    (granted : Granted p ent jwks requests trace code) :
    ∃ q sid raw first req, OfItsClient p ent jwks requests trace code q sid raw first req := by
  obtain ⟨q, j, sid, raw, above, first, req, accepted, parsed, -, -, same⟩ := granted.asked
  have named : req.params = first.params := by
    have first_parsed := accepted.accepted.addressed.parsed
    rw [parsed] at first_parsed
    exact Except.ok.inj first_parsed
  refine ⟨q, sid, raw, first, req, ⟨j, above, accepted⟩, same, by rw [named], accepted.accepted.pushed, ?_⟩
  intro creator uri pushed
  obtain ⟨k, headers, body, text, above', client, under⟩ := accepted.known creator uri pushed
  obtain ⟨client_id, dpop_jkt⟩ := from_form_eq parsed
  obtain ⟨id, asked, -⟩ := accepted.accepted.addressed.client
  rw [← named, client_id] at asked
  obtain rfl := pushed_names_client plain codec under.pushed asked
  refine ⟨k, headers, body, text, above', client, under, client_id.trans asked, fun id sent => ?_, fun proof shown => ?_⟩
  · exact (accepted.accepted.own creator uri pushed id sent).trans under.creator
  · obtain ⟨jkt, verified, key⟩ := pushed_names_key plain codec under.pushed shown
    refine ⟨jkt, verified, ?_⟩
    rw [same]
    exact dpop_jkt.trans key

variable (plain : PlainDecoded p.toServer) (codec : Base64url p.toServer) (empty : ∀ key, FlowCol key.1 → db.docs.get key = none)
  (run : Run (pool p ent jwks requests db) c)
include plain codec empty run

omit plain codec empty run in
private theorem flowSite_plain : PlainDecoded Reference.flowSite.toServer := fun text percent plus => by
  show String.ofList (Reference.unescape text.length text.toList) = text
  rw [Reference.unescape_plain _ percent plus, String.ofList_toList]

end runs
end RustOp.Web.CodeFlow
