import RustOp.Backend

/-!
The provider: its configuration, the library functions it calls, and the
random identifiers a request draws.
-/
namespace RustOp
open RustOp.Text

/-- Functions of the libraries the provider links. `sha256` is the digest of
    the UTF-8 bytes of a text. -/
structure Platform where
  sha256 : String → List UInt8
  b64url : List UInt8 → String
  from_str : String → Option Json

/-- The configuration of a provider. A signing key is known by its algorithm. -/
structure Provider extends Platform where
  issuer : String
  signer : String
  extra_signers : List String

def Provider.signer_for (p : Provider) : Option String → Except OAuthError String
  | none => .ok p.signer
  | some a =>
    if a = p.signer then .ok p.signer
    else match p.extra_signers.find? (· == a) with
      | some s => .ok s
      | none => .error (.ServerError ("no signer registered for alg " ++ a))

/-- The places in the code that draw a random identifier. A request passes each
    of them at most once. -/
inductive Draw where
  | access_token
  | refresh_token
  | family_id
  | rotated_token
  | code
  | interaction_uid
  | sid
  | request_uri
  | auth_req_id
  | challenge
  | account_id
  | email_token
  | audit_log
deriving DecidableEq, Repr

/-- The identifiers drawn by the requests, numbered in any order: no two draws
    agree. -/
structure Entropy where
  uuid : Nat → Draw → String
  distinct : ∀ {i j : Nat} {a b : Draw}, uuid i a = uuid j b → i = j ∧ a = b

/-- A mark of each place. -/
def Draw.mark : Draw → Char
  | .access_token => 'a'
  | .refresh_token => 'r'
  | .family_id => 'f'
  | .rotated_token => 'n'
  | .code => 'c'
  | .interaction_uid => 'u'
  | .sid => 's'
  | .request_uri => 'p'
  | .auth_req_id => 'q'
  | .challenge => 'h'
  | .account_id => 'i'
  | .email_token => 't'
  | .audit_log => 'l'

/-- Such a supply exists: count in unary and end with the mark of the place. -/
def Entropy.unary : Entropy where
  uuid := fun i a => String.ofList (List.replicate i '1' ++ [a.mark])
  distinct := by
    intro i j a b same
    have lists : List.replicate i '1' ++ [a.mark] = List.replicate j '1' ++ [b.mark] := by
      simpa using congrArg String.toList same
    have lengths := congrArg List.length lists
    simp only [List.length_append, List.length_replicate, List.length_cons, List.length_nil] at lengths
    obtain rfl : i = j := by omega
    refine ⟨rfl, ?_⟩
    have marks : a.mark = b.mark := by simpa using List.append_cancel_left lists
    cases a <;> cases b <;> first | rfl | exact absurd marks (by decide)

end RustOp
