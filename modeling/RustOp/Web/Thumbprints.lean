import RustOp.Web.SiteReference
import RustOp.Effects.Interleave

/-!
The thumbprint that a DPoP proof is accepted with. It is taken of the texts of
the embedded key as they were sent, which several spellings of one key are not
alike in.
-/
namespace RustOp.Web.Es256Dpop
open RustOp.Effects RustOp.Effects.Checks RustOp.Text

/-! ### Embedded keys -/

/-- What is hashed of a key. -/
def jwk_text (x_b64 y_b64 : String) : String :=
  "\x7b\"crv\":\"P-256\",\"kty\":\"EC\",\"x\":\"" ++ x_b64 ++ "\",\"y\":\"" ++ y_b64 ++ "\"\x7d"

/-- The texts of the key in a proof. -/
def Embeds (p : Server) (proof x y : String) : Prop := ∃ payload, opened p proof = .ok ((x, y), payload)

/-- The coordinates of 32 bytes that two texts stand for. -/
def Denotes (p : Server) (x y : String) (key : List UInt8 × List UInt8) : Prop :=
  ∃ bx bY, es256.b64url_decode p.toJose x = .ok bx ∧ es256.b64url_decode p.toJose y = .ok bY ∧
    es256.pad32 bx = .ok key.1 ∧ es256.pad32 bY = .ok key.2

/-- A proof was accepted with a thumbprint: some verification of it ended so. -/
def Accepted {σ : Type} (sem : Sem Host σ) (p : Server) (proof jkt : String) : Prop :=
  ∃ htm htu expected_ath s s', Runs sem (verify p proof htm htu expected_ath) s (.ok jkt) s'

/-- A coordinate is spelled as in a JWK: 32 bytes in base64url. -/
def Canonical (p : Server) (text : String) : Prop := ∃ bytes : List UInt8, bytes.length = 32 ∧ text = p.b64url bytes

section thumbprints
variable {p : Server}

/-- A key that is accepted is one of 32 bytes for each coordinate. -/
theorem Embeds.denotes {proof x y : String} (embeds : Embeds p proof x y) : ∃ key, Denotes p x y key := by
  obtain ⟨payload, opened⟩ := embeds
  obtain ⟨_, -, _, -, _, -, -, -, _, -, -, -, -, -, bx, decoded_x, bY, decoded_y, vk, key, -⟩ := opened_eq_ok.mp opened
  simp only [es256.verifying_key_from_xy, bind_eq_ok] at key
  obtain ⟨kx, padded_x, ky, padded_y, -⟩ := key
  exact ⟨(kx, ky), bx, bY, decoded_x, decoded_y, padded_x, padded_y⟩

theorem Denotes.unique {x y : String} {one other : List UInt8 × List UInt8} (first : Denotes p x y one)
    (second : Denotes p x y other) : one = other := by
  obtain ⟨bx, bY, decoded_x, decoded_y, padded_x, padded_y⟩ := first
  obtain ⟨bx', bY', decoded_x', decoded_y', padded_x', padded_y'⟩ := second
  obtain rfl := Except.ok.inj (decoded_x.symm.trans decoded_x')
  obtain rfl := Except.ok.inj (decoded_y.symm.trans decoded_y')
  exact Prod.ext (Except.ok.inj (padded_x.symm.trans padded_x')) (Except.ok.inj (padded_y.symm.trans padded_y'))

/-- The answer is the thumbprint of the texts. -/
theorem Accepted.embeds {σ : Type} {sem : Sem Host σ} {proof jkt : String} (accepted : Accepted sem p proof jkt) :
    ∃ x y, Embeds p proof x y ∧ jkt = p.b64url (p.sha256 (jwk_text x y)) := by
  obtain ⟨htm, htu, expected_ath, s, s', runs⟩ := accepted
  unfold verify at runs
  split at runs
  · cases (runs_ret.mp runs).1
  · rename_i x y payload opened
    refine ⟨x, y, ⟨payload, opened⟩, ?_⟩
    split at runs
    · cases (runs_ret.mp runs).1
    · obtain ⟨t, s₁, -, runs⟩ := runs_bind.mp runs
      split at runs
      · cases (runs_ret.mp runs).1
      · obtain ⟨won, s₂, -, runs⟩ := runs_bind.mp runs
        cases won with
        | false => cases (runs_ret.mp runs).1
        | true => exact Except.ok.inj (runs_ret.mp runs).1

/-! ### Texts without quotes -/

private theorem mem_dropWhile {drop : Char → Bool} {text : List Char} {c : Char} (listed : c ∈ text) (keeps : drop c = false) :
    c ∈ text.dropWhile drop := by
  induction text with
  | nil => cases listed
  | cons a rest ih =>
    rw [List.dropWhile_cons]
    split
    · rename_i dropped
      rcases List.mem_cons.mp listed with rfl | later
      · rw [keeps] at dropped
        cases dropped
      · exact ih later
    · exact listed

private theorem mem_trim_end {drop : Char → Bool} {text : List Char} {c : Char} (listed : c ∈ text) (keeps : drop c = false) :
    c ∈ trim_end_matches drop text :=
  List.mem_reverse.mpr (mem_dropWhile (List.mem_reverse.mpr listed) keeps)

/-- The decoder of the library takes symbols only. -/
def OnlySymbols (p : Server) : Prop :=
  ∀ text bytes, p.decode_url_safe text = .ok bytes → ∀ c ∈ text.toList, Base64.IsSymbol c

/-- What is removed or replaced before decoding is no quote. -/
private theorem no_quote (symbols : OnlySymbols p) {text : String} {bytes : List UInt8}
    (decoded : es256.b64url_decode p.toJose text = .ok bytes) : '\x22' ∉ text.toList := by
  intro listed
  rw [es256.b64url_decode, mapError_eq_ok] at decoded
  have trimmed : '\x22' ∈ (trim text).toList := by
    rw [trim, String.toList_ofList]
    exact mem_trim_end (mem_dropWhile listed (by decide)) (by decide)
  have symbol := symbols _ _ decoded '\x22' (by
    rw [String.toList_ofList]
    exact mem_trim_end (List.mem_map.mpr ⟨_, trimmed, by decide⟩) (by decide))
  revert symbol
  decide

private theorem split_quote {a b c d : List Char} (plain : '\x22' ∉ a) (plain' : '\x22' ∉ b)
    (same : a ++ '\x22' :: c = b ++ '\x22' :: d) : a = b ∧ c = d := by
  induction a generalizing b with
  | nil =>
    cases b with
    | nil => exact ⟨rfl, (List.cons.inj same).2⟩
    | cons e rest =>
      obtain ⟨rfl, -⟩ := List.cons.inj same
      exact absurd List.mem_cons_self plain'
  | cons e rest ih =>
    cases b with
    | nil =>
      obtain ⟨rfl, -⟩ := List.cons.inj same
      exact absurd List.mem_cons_self plain
    | cons e' rest' =>
      obtain ⟨rfl, others⟩ := List.cons.inj same
      obtain ⟨rfl, ends⟩ := ih (fun listed => plain (List.mem_cons_of_mem _ listed))
        (fun listed => plain' (List.mem_cons_of_mem _ listed)) others
      exact ⟨rfl, ends⟩

/-- Two texts without quotes are read back from between quotes. -/
private theorem quoted_inj {before between after x y x' y' : String} {between' after' : List Char}
    (quote : between.toList = '\x22' :: between') (last : after.toList = '\x22' :: after') (plain_x : '\x22' ∉ x.toList)
    (plain_y : '\x22' ∉ y.toList) (plain_x' : '\x22' ∉ x'.toList) (plain_y' : '\x22' ∉ y'.toList)
    (same : before ++ x ++ between ++ y ++ after = before ++ x' ++ between ++ y' ++ after) : x = x' ∧ y = y' := by
  have lists := congrArg String.toList same
  simp only [String.toList_append, List.append_assoc, quote, last, List.cons_append] at lists
  obtain ⟨first, rest⟩ := split_quote plain_x plain_x' (List.append_cancel_left lists)
  obtain ⟨second, -⟩ := split_quote plain_y plain_y' (List.append_cancel_left rest)
  exact ⟨String.toList_injective first, String.toList_injective second⟩

private theorem jwk_text_inj {x y x' y' : String} (plain_x : '\x22' ∉ x.toList) (plain_y : '\x22' ∉ y.toList)
    (plain_x' : '\x22' ∉ x'.toList) (plain_y' : '\x22' ∉ y'.toList) (same : jwk_text x y = jwk_text x' y') : x = x' ∧ y = y' := by
  unfold jwk_text at same
  have between : "\",\"y\":\"".toList = '\x22' :: _ := String.toList_ofList
  have closing : "\"\x7d".toList = '\x22' :: _ := String.toList_ofList
  exact quoted_inj between closing plain_x plain_y plain_x' plain_y' same

/-! ### Thumbprints and keys -/

private theorem Embeds.unique {proof x y x' y' : String} (one : Embeds p proof x y) (other : Embeds p proof x' y') :
    x = x' ∧ y = y' := by
  obtain ⟨payload, opened⟩ := one
  obtain ⟨payload', opened'⟩ := other
  cases Except.ok.inj (opened.symm.trans opened')
  exact ⟨rfl, rfl⟩

private theorem Embeds.plain (symbols : OnlySymbols p) {proof x y : String} (embeds : Embeds p proof x y) :
    '\x22' ∉ x.toList ∧ '\x22' ∉ y.toList := by
  obtain ⟨payload, opened⟩ := embeds
  obtain ⟨_, -, _, -, _, -, -, -, _, -, -, -, -, -, bx, decoded_x, bY, decoded_y, -⟩ := opened_eq_ok.mp opened
  exact ⟨no_quote symbols decoded_x, no_quote symbols decoded_y⟩

/-- A text that is spelled canonically stands for the bytes that it spells. -/
private theorem canonical_decoded (codec : Base64url p) {text : String} (canonical : Canonical p text) :
    ∃ bytes, text = p.b64url bytes ∧ es256.b64url_decode p.toJose text = .ok bytes ∧ es256.pad32 bytes = .ok bytes := by
  obtain ⟨bytes, full, rfl⟩ := canonical
  refine ⟨bytes, rfl, codec.b64url_decode bytes, ?_⟩
  rw [es256.pad32, if_neg (by omega), full]
  rfl

private theorem canonical_inj (codec : Base64url p) {x y x' y' : String} {key : List UInt8 × List UInt8} (cx : Canonical p x)
    (cy : Canonical p y) (cx' : Canonical p x') (cy' : Canonical p y') (denotes : Denotes p x y key)
    (denotes' : Denotes p x' y' key) : x = x' ∧ y = y' := by
  have spelled : ∀ {text : String} {bytes coordinate : List UInt8}, Canonical p text →
      es256.b64url_decode p.toJose text = .ok bytes → es256.pad32 bytes = .ok coordinate → text = p.b64url coordinate := by
    intro text bytes coordinate canonical decoded padded
    obtain ⟨b, rfl, decoded', padded'⟩ := canonical_decoded codec canonical
    obtain rfl := Except.ok.inj (decoded.symm.trans decoded')
    rw [Except.ok.inj (padded.symm.trans padded')]
  obtain ⟨bx, bY, decoded_x, decoded_y, padded_x, padded_y⟩ := denotes
  obtain ⟨bx', bY', decoded_x', decoded_y', padded_x', padded_y'⟩ := denotes'
  exact ⟨(spelled cx decoded_x padded_x).trans (spelled cx' decoded_x' padded_x').symm,
    (spelled cy decoded_y padded_y).trans (spelled cy' decoded_y' padded_y').symm⟩

/-- Two proofs are accepted with one thumbprint if they spell their keys alike, and
    then they embed the same key. Where both spell it canonically, it is the same key
    exactly if the thumbprint is the same. -/
theorem thumbprints_of_spelling {σ σ' : Type} {sem : Sem Host σ} {sem' : Sem Host σ'} {proof proof' jkt jkt' x y x' y' : String}
    (symbols : OnlySymbols p) (codec : Base64url p) (accepted : Accepted sem p proof jkt) (accepted' : Accepted sem' p proof' jkt')
    (embeds : Embeds p proof x y) (embeds' : Embeds p proof' x' y')
    (injective : Set.InjOn p.sha256 {jwk_text x y, jwk_text x' y'}) :
    (jkt = jkt' ↔ x = x' ∧ y = y') ∧ (jkt = jkt' → ∃ key, Denotes p x y key ∧ Denotes p x' y' key) ∧
      (Canonical p x → Canonical p y → Canonical p x' → Canonical p y' →
        (jkt = jkt' ↔ ∃ key, Denotes p x y key ∧ Denotes p x' y' key)) := by
  have texts : jkt = jkt' ↔ x = x' ∧ y = y' := by
    obtain ⟨_, _, embedded, rfl⟩ := accepted.embeds
    obtain ⟨rfl, rfl⟩ := embeds.unique embedded
    obtain ⟨_, _, embedded', rfl⟩ := accepted'.embeds
    obtain ⟨rfl, rfl⟩ := embeds'.unique embedded'
    obtain ⟨plain_x, plain_y⟩ := embeds.plain symbols
    obtain ⟨plain_x', plain_y'⟩ := embeds'.plain symbols
    constructor
    · intro same
      have digests : p.sha256 (jwk_text x y) = p.sha256 (jwk_text x' y') :=
        Except.ok.inj ((codec.decode _).symm.trans ((congrArg p.decode_url_safe same).trans (codec.decode _)))
      exact jwk_text_inj plain_x plain_y plain_x' plain_y' (injective (by simp) (by simp) digests)
    · rintro ⟨rfl, rfl⟩
      rfl
  have same_key : jkt = jkt' → ∃ key, Denotes p x y key ∧ Denotes p x' y' key := by
    intro same
    obtain ⟨rfl, rfl⟩ := texts.mp same
    obtain ⟨key, denotes⟩ := embeds.denotes
    exact ⟨key, denotes, denotes⟩
  refine ⟨texts, same_key, fun cx cy cx' cy' => ⟨same_key, ?_⟩⟩
  rintro ⟨key, denotes, denotes'⟩
  exact texts.mpr (canonical_inj codec cx cy cx' cy' denotes denotes')

end thumbprints

/-! ### A key with padding -/

section padded
open RustOp.Reference

def keyX : String := "nT44-IPfrzqUGE-wtzgCKHa0-tMQu1N2b9RWfwMHJIg"
def keyY : String := "RlGCkmBgrV4IphC5xCl8SgrfGHXwn_mZzcEIxgbZUN4"

/-- The same coordinate with the padding that base64url does without. -/
def paddedX : String := "nT44-IPfrzqUGE-wtzgCKHa0-tMQu1N2b9RWfwMHJIg="

def proofHeader (x : String) : String :=
  "\x7b\"typ\":\"dpop+jwt\",\"alg\":\"ES256\",\"jwk\":\x7b\"kty\":\"EC\",\"crv\":\"P-256\",\"x\":\"" ++ x ++ "\",\"y\":\"" ++ keyY ++
    "\"\x7d\x7d"

def proofPayload (jti : String) : String :=
  "\x7b\"htm\":\"POST\",\"htu\":\"https://op/token\",\"iat\":1000,\"jti\":\"" ++ jti ++ "\"\x7d"

def headerValue (x : String) : Json :=
  .obj [("typ", .str "dpop+jwt"), ("alg", .str "ES256"),
    ("jwk", .obj [("kty", .str "EC"), ("crv", .str "P-256"), ("x", .str x), ("y", .str keyY)])]

def payloadValue (jti : String) : Json :=
  .obj [("htm", .str "POST"), ("htu", .str "https://op/token"), ("iat", .num 1000), ("jti", .str jti)]

def proofTexts : List String := [proofHeader keyX, proofHeader paddedX, proofPayload "a", proofPayload "b"]
def proofValues : List Json := [headerValue keyX, headerValue paddedX, payloadValue "a", payloadValue "b"]

def signatureA : List UInt8 :=
  [0x67, 0x78, 0xfd, 0x11, 0x98, 0x3d, 0x2a, 0xad, 0x2c, 0x3b, 0xfe, 0xe5, 0x80, 0x7d, 0x94, 0x59, 0xa1, 0x88, 0x4d,
    0xcd, 0x89, 0x8e, 0x5a, 0xbf, 0xb6, 0x60, 0x4e, 0x60, 0x5a, 0x22, 0x92, 0x80, 0xff, 0x6b, 0x09, 0x19, 0x04, 0xeb,
    0xd0, 0x5c, 0xa6, 0xea, 0x07, 0xc0, 0xd2, 0xae, 0x75, 0xe1, 0xbc, 0x2e, 0xbd, 0x33, 0x33, 0x11, 0x34, 0x68, 0x1d,
    0x9f, 0x6e, 0xd3, 0xc4, 0xa5, 0x07, 0x1e]

def signatureB : List UInt8 :=
  [0xcc, 0x8e, 0x0e, 0x03, 0x6a, 0x1a, 0x47, 0xa7, 0x2b, 0x1a, 0x6e, 0xde, 0x02, 0x4b, 0x91, 0xe3, 0x14, 0x58, 0x73,
    0x46, 0x5f, 0xf0, 0x18, 0xb6, 0x38, 0xc5, 0x4c, 0x6e, 0xc8, 0xec, 0xc5, 0x00, 0xba, 0xf0, 0xc3, 0xda, 0xf0, 0x52,
    0x2d, 0x97, 0xe5, 0x7f, 0x8f, 0xe2, 0x42, 0xdb, 0xbb, 0x08, 0xd6, 0x41, 0xc1, 0x7e, 0xda, 0xee, 0x5a, 0x5d, 0x8f,
    0x50, 0x48, 0xa5, 0x1f, 0x7e, 0x71, 0x18]

/-- The parts of a proof. -/
def proofParts (x jti : String) (signature : List UInt8) : Compact where
  header := base64 (bytesOfText (proofHeader x).toList)
  payload := base64 (bytesOfText (proofPayload jti).toList)
  signature := base64 signature

def proofOf (x jti : String) (signature : List UInt8) : String :=
  String.ofList (Base64.encode (bytesOfText (proofHeader x).toList) ++
    '.' :: Base64.encode (bytesOfText (proofPayload jti).toList) ++ '.' :: Base64.encode signature)

def pointOf : List UInt8 × List UInt8 := ((Base64.decode keyX.toList).getD [], (Base64.decode keyY.toList).getD [])

/-- The library functions, as they answer on two proofs of this key. -/
def proofServer : Server :=
  { site.toServer with
    from_slice := fun bytes =>
      match proofTexts.findIdx? fun text => bytesOfText text.toList == bytes with
      | some i => .ok (proofValues.getD i .null)
      | none => .error "expected value"
    verify := fun vk message signature =>
      vk = pointOf.1 ++ pointOf.2 ∧
        ((message = (proofParts keyX "a" signatureA).signing_input ∧ signature = signatureA) ∨
          (message = (proofParts paddedX "b" signatureB).signing_input ∧ signature = signatureB)) }

/-! ### What the library answers on them -/

private theorem codec : Base64url proofServer := ⟨site_codec.decode, site_codec.symbols⟩

private theorem symbols : OnlySymbols proofServer := by
  intro text bytes decoded c listed
  exact Base64.isSymbol_of_decode (ok_or_eq_ok.mp decoded) listed

private theorem base64_read (bytes : List UInt8) : es256.b64url_decode proofServer.toJose (base64 bytes) = .ok bytes :=
  codec.b64url_decode bytes

private theorem header_spelled : ∃ before after : List UInt8, 69 ≤ before.length ∧
    ∀ x, bytesOfText (proofHeader x).toList = before ++ bytesOfText x.toList ++ after := by
  refine ⟨bytesOfText "\x7b\"typ\":\"dpop+jwt\",\"alg\":\"ES256\",\"jwk\":\x7b\"kty\":\"EC\",\"crv\":\"P-256\",\"x\":\"".toList,
    bytesOfText ("\",\"y\":\"".toList ++ keyY.toList ++ "\"\x7d\x7d".toList), ?_, fun x => ?_⟩
  · rw [bytesOfText, List.length_map, String.toList_ofList]
    exact Nat.le_refl 69
  · unfold proofHeader bytesOfText
    simp only [String.toList_append, List.map_append, List.append_assoc]

private theorem payload_spelled : ∃ before after : List UInt8, before.length + after.length = 59 ∧
    ∀ jti, bytesOfText (proofPayload jti).toList = before ++ bytesOfText jti.toList ++ after := by
  refine ⟨bytesOfText "\x7b\"htm\":\"POST\",\"htu\":\"https://op/token\",\"iat\":1000,\"jti\":\"".toList, bytesOfText "\"\x7d".toList, ?_, fun jti => ?_⟩
  · rw [bytesOfText, bytesOfText, List.length_map, List.length_map, String.toList_ofList, String.toList_ofList]
    rfl
  · unfold proofPayload bytesOfText
    simp only [String.toList_append, List.map_append]

/-- A header is longer than a payload. -/
private theorem header_ne_payload (x : String) {jti : String} (short : jti.toList.length = 1) :
    bytesOfText (proofHeader x).toList ≠ bytesOfText (proofPayload jti).toList := by
  obtain ⟨before, after, long, header⟩ := header_spelled
  obtain ⟨before', after', short', payload⟩ := payload_spelled
  intro same
  rw [header, payload] at same
  have lengths := congrArg List.length same
  simp only [List.length_append, bytesOfText, List.length_map] at lengths
  omega

private theorem keyX_list : keyX.toList.length = 43 := by
  rw [show keyX.toList = _ from String.toList_ofList]
  rfl

private theorem paddedX_list : paddedX.toList.length = 44 := by
  rw [show paddedX.toList = _ from String.toList_ofList]
  rfl

/-- The padding makes the header longer. -/
private theorem headers_differ : bytesOfText (proofHeader keyX).toList ≠ bytesOfText (proofHeader paddedX).toList := by
  obtain ⟨before, after, -, spelled⟩ := header_spelled
  intro same
  rw [spelled, spelled] at same
  have lengths := congrArg List.length (List.append_cancel_left (List.append_cancel_right same))
  simp only [bytesOfText, List.length_map, keyX_list, paddedX_list] at lengths
  cases lengths

private theorem payloads_differ : bytesOfText (proofPayload "a").toList ≠ bytesOfText (proofPayload "b").toList := by
  obtain ⟨before, after, -, spelled⟩ := payload_spelled
  intro same
  rw [spelled, spelled] at same
  have names := List.append_cancel_left (List.append_cancel_right same)
  revert names
  decide

/-- A text that is listed is read as the value in its place. -/
private theorem read_text {bytes : List UInt8} {i : Nat}
    (found : proofTexts.findIdx? (fun text => bytesOfText text.toList == bytes) = some i) :
    proofServer.from_slice bytes = .ok (proofValues.getD i .null) := by
  simp only [proofServer, found]

private theorem header_read : proofServer.from_slice (bytesOfText (proofHeader keyX).toList) = .ok (headerValue keyX) := by
  apply read_text (i := 0)
  rw [proofTexts, List.findIdx?_cons, beq_self_eq_true, if_pos rfl]

private theorem padded_read : proofServer.from_slice (bytesOfText (proofHeader paddedX).toList) = .ok (headerValue paddedX) := by
  apply read_text (i := 1)
  rw [proofTexts, List.findIdx?_cons, List.findIdx?_cons, beq_self_eq_true, beq_eq_false_iff_ne.mpr headers_differ]
  rfl

private theorem payload_read : proofServer.from_slice (bytesOfText (proofPayload "a").toList) = .ok (payloadValue "a") := by
  have short : "a".toList.length = 1 := by decide
  apply read_text (i := 2)
  rw [proofTexts, List.findIdx?_cons, List.findIdx?_cons, List.findIdx?_cons, beq_self_eq_true,
    beq_eq_false_iff_ne.mpr (header_ne_payload keyX short), beq_eq_false_iff_ne.mpr (header_ne_payload paddedX short)]
  rfl

private theorem other_payload_read : proofServer.from_slice (bytesOfText (proofPayload "b").toList) = .ok (payloadValue "b") := by
  have short : "b".toList.length = 1 := by decide
  apply read_text (i := 3)
  rw [proofTexts, List.findIdx?_cons, List.findIdx?_cons, List.findIdx?_cons, List.findIdx?_cons, beq_self_eq_true,
    beq_eq_false_iff_ne.mpr (header_ne_payload keyX short), beq_eq_false_iff_ne.mpr (header_ne_payload paddedX short),
    beq_eq_false_iff_ne.mpr payloads_differ]
  rfl

/-- The coordinates that the three texts stand for, of 32 bytes each. -/
private theorem coordinates_read : es256.b64url_decode proofServer.toJose keyX = .ok pointOf.1 ∧
    es256.b64url_decode proofServer.toJose keyY = .ok pointOf.2 ∧
    es256.b64url_decode proofServer.toJose paddedX = .ok pointOf.1 ∧
    es256.pad32 pointOf.1 = .ok pointOf.1 ∧ es256.pad32 pointOf.2 = .ok pointOf.2 := by
  unfold es256.b64url_decode trim pointOf
  rw [show keyX.toList = _ from String.toList_ofList, show keyY.toList = _ from String.toList_ofList,
    show paddedX.toList = _ from String.toList_ofList]
  decide +kernel

private theorem key_denoted {x : String} (decoded : es256.b64url_decode proofServer.toJose x = .ok pointOf.1) :
    Denotes proofServer x keyY pointOf := by
  obtain ⟨-, decoded_y, -, padded_x, padded_y⟩ := coordinates_read
  exact ⟨pointOf.1, pointOf.2, decoded, decoded_y, padded_x, padded_y⟩

/-- A proof with a genuine signature is opened. -/
private theorem opened_of {x jti : String} {signature : List UInt8}
    (header : proofServer.from_slice (bytesOfText (proofHeader x).toList) = .ok (headerValue x))
    (payload : proofServer.from_slice (bytesOfText (proofPayload jti).toList) = .ok (payloadValue jti))
    (decoded : es256.b64url_decode proofServer.toJose x = .ok pointOf.1)
    (whole : proofServer.signature_from_slice signature = .ok signature)
    (genuine : proofServer.verify (pointOf.1 ++ pointOf.2) (proofParts x jti signature).signing_input signature = true) :
    opened proofServer (proofOf x jti signature) = .ok ((x, keyY), payloadValue jti) := by
  obtain ⟨-, decoded_y, -, padded_x, padded_y⟩ := coordinates_read
  have parsed : Compact.parse (proofOf x jti signature) = some (proofParts x jti signature) := parse_base64 _ _ _
  have key : es256.verifying_key_from_xy proofServer.toJose pointOf.1 pointOf.2 = .ok (pointOf.1 ++ pointOf.2) := by
    simp only [es256.verifying_key_from_xy, padded_x, padded_y]
    rfl
  exact opened_eq_ok.mpr ⟨proofParts x jti signature, parsed, _, base64_read _, headerValue x, header, rfl, rfl, _, rfl,
    ⟨rfl, rfl⟩, rfl, rfl, rfl, pointOf.1, decoded, pointOf.2, decoded_y, _, key, signature, base64_read signature, signature,
    whole, genuine, _, base64_read _, payload⟩

private theorem opened_a : opened proofServer (proofOf keyX "a" signatureA) = .ok ((keyX, keyY), payloadValue "a") := by
  have whole : proofServer.signature_from_slice signatureA = .ok signatureA := rfl
  have genuine : proofServer.verify (pointOf.1 ++ pointOf.2) (proofParts keyX "a" signatureA).signing_input signatureA = true := by
    simp only [proofServer, true_and, true_or, decide_true]
  exact opened_of header_read payload_read coordinates_read.1 whole genuine

private theorem opened_b : opened proofServer (proofOf paddedX "b" signatureB) = .ok ((paddedX, keyY), payloadValue "b") := by
  have whole : proofServer.signature_from_slice signatureB = .ok signatureB := rfl
  have genuine : proofServer.verify (pointOf.1 ++ pointOf.2) (proofParts paddedX "b" signatureB).signing_input signatureB = true := by
    simp only [proofServer, true_and, or_true, decide_true]
  exact opened_of padded_read other_payload_read coordinates_read.2.2.1 whole genuine

/-- A process in memory at the time of the proofs. -/
def atTime : MemoryHost := { mem := { clock := 1000 } }

private theorem accepted_of {proof x jti : String} (is : opened proofServer proof = .ok ((x, keyY), payloadValue jti)) :
    Accepted (Sem.ofHandler (MemoryHost.exec fun _ _ => none)) proofServer proof
      (es256.jwk_thumbprint_p256 proofServer.toPlatform x keyY) := by
  have reached : addressed proofServer (payloadValue jti) "POST" "https://op/token" = .ok 1000 := by
    simp [addressed, payloadValue, Json.get_str, Json.get_i64, Json.get, Json.as_str, Json.as_i64, bind_eq_ok, refuse_eq_ok,
      ok_or_eq_ok]
  have young : fresh (payloadValue jti) 1000 1000 none = .ok jti := by
    simp [fresh, payloadValue, Json.get_str, Json.get, Json.as_str, bind_eq_ok, refuse_eq_ok, ok_or_eq_ok, IAT_SKEW_SECS]
  have ran : (Prog.run (MemoryHost.exec fun _ _ => none) (verify proofServer proof "POST" "https://op/token" none) atTime).1 =
      .ok (es256.jwk_thumbprint_p256 proofServer.toPlatform x keyY) := by
    have clock : MemoryHost.exec (fun _ _ => none) (.backend .now) atTime = (1000, atTime) := rfl
    have won : (MemoryHost.exec (fun _ _ => none) (.claim .dpop ("dpop:" ++ jti) JTI_TTL) atTime).1 = true := rfl
    unfold verify
    simp only [is, reached, now, claim, Prog.call_bind, Prog.ret_bind, Prog.run_call, clock, Nat.cast_ofNat, young, won]
    rfl
  exact ⟨"POST", "https://op/token", none, atTime, _, runs_ofHandler.mpr (Prod.ext ran rfl)⟩

/-- The digests of the two spellings. -/
private theorem digests_differ : proofServer.sha256 (jwk_text keyX keyY) ≠ proofServer.sha256 (jwk_text paddedX keyY) := by
  have digest : proofServer.sha256 = sha256 := rfl
  rw [digest]
  unfold sha256 jwk_text
  simp only [String.toList_append]
  rw [show keyX.toList = _ from String.toList_ofList, show keyY.toList = _ from String.toList_ofList,
    show paddedX.toList = _ from String.toList_ofList,
    show "\x7b\"crv\":\"P-256\",\"kty\":\"EC\",\"x\":\"".toList = _ from String.toList_ofList]
  decide +kernel

/-- The thumbprint of this key, for a spelling of its first coordinate. -/
def thumbprintOf (x : String) : String := es256.jwk_thumbprint_p256 proofServer.toPlatform x keyY

theorem thumbprints_of_spelling_padded :
    (thumbprintOf keyX = thumbprintOf paddedX ↔ keyX = paddedX ∧ keyY = keyY) ∧
    (thumbprintOf keyX = thumbprintOf paddedX →
      ∃ key, Denotes proofServer keyX keyY key ∧ Denotes proofServer paddedX keyY key) ∧
    (Canonical proofServer keyX → Canonical proofServer keyY → Canonical proofServer paddedX → Canonical proofServer keyY →
      (thumbprintOf keyX = thumbprintOf paddedX ↔
        ∃ key, Denotes proofServer keyX keyY key ∧ Denotes proofServer paddedX keyY key)) :=
  thumbprints_of_spelling symbols codec (accepted_of opened_a) (accepted_of opened_b) ⟨_, opened_a⟩ ⟨_, opened_b⟩
    (by simp [Set.InjOn, digests_differ, digests_differ.symm])

/-- One key, two thumbprints. -/
theorem padded_key_differs : ∃ (sem : Sem Host MemoryHost) (jkt jkt' : String),
    Accepted sem proofServer (proofOf keyX "a" signatureA) jkt ∧ Accepted sem proofServer (proofOf paddedX "b" signatureB) jkt' ∧
    Embeds proofServer (proofOf keyX "a" signatureA) keyX keyY ∧ Embeds proofServer (proofOf paddedX "b" signatureB) paddedX keyY ∧
    (∃ key, Denotes proofServer keyX keyY key ∧ Denotes proofServer paddedX keyY key) ∧ jkt ≠ jkt' := by
  refine ⟨_, _, _, accepted_of opened_a, accepted_of opened_b, ⟨_, opened_a⟩, ⟨_, opened_b⟩,
    ⟨pointOf, key_denoted coordinates_read.1, key_denoted coordinates_read.2.2.1⟩, fun same => digests_differ ?_⟩
  exact Except.ok.inj ((codec.decode _).symm.trans ((congrArg proofServer.decode_url_safe same).trans (codec.decode _)))

end padded
end RustOp.Web.Es256Dpop
