import RustOp.Effects.Checks

/-!
Signatures by the algorithm of their key, wherever the parts of the key come from.
-/
namespace RustOp.Web
open RustOp.Effects

/-- Functions of the libraries that digest and verify. Keys are known by their
    bytes. -/
structure Signatures where
  /-- `Sha256::digest` -/
  digest : List UInt8 → List UInt8
  /-- `Sha384::digest` -/
  sha384 : List UInt8 → List UInt8
  /-- `Sha1::digest` -/
  sha1 : List UInt8 → List UInt8
  /-- `RsaPublicKey::new` for a modulus and an exponent in big-endian bytes. -/
  rsa_public_key : List UInt8 → List UInt8 → Except String (List UInt8)
  /-- `RsaPublicKey::verify` with PKCS #1 v1.5: the name of the hash, and the digest. -/
  rsa_verify : List UInt8 → String → List UInt8 → List UInt8 → Bool
  /-- `ed25519_dalek::VerifyingKey::from_bytes` -/
  ed25519_from_bytes : List UInt8 → Except String (List UInt8)
  /-- `ed25519_dalek::VerifyingKey::verify` -/
  ed25519_verify : List UInt8 → List UInt8 → List UInt8 → Bool

namespace sig

def rsa_key (s : Signatures) (n e : List UInt8) : Except String (List UInt8) :=
  (s.rsa_public_key n e).mapError ("rsa key: " ++ ·)

/-- RSASSA-PKCS1-v1.5 over a digest. -/
def verify_rsa (s : Signatures) (alg hash : String) (digest : List UInt8 → List UInt8) (n e message signature : List UInt8) :
    Except String Unit := do
  let key ← rsa_key s n e
  refuse (!s.rsa_verify key hash (digest message) signature) ("invalid " ++ alg ++ " signature")

def verify_rs256 (s : Signatures) (n e message signature : List UInt8) : Except String Unit :=
  verify_rsa s "RS256" "SHA-256" s.digest n e message signature

def verify_rs384 (s : Signatures) (n e message signature : List UInt8) : Except String Unit :=
  verify_rsa s "RS384" "SHA-384" s.sha384 n e message signature

def verify_rs1 (s : Signatures) (n e message signature : List UInt8) : Except String Unit :=
  verify_rsa s "RS1" "SHA-1" s.sha1 n e message signature

def verify_ed25519 (s : Signatures) (public_key message signature : List UInt8) : Except String Unit := do
  refuse (public_key.length ≠ 32) "ed25519 pubkey != 32 bytes"
  let key ← (s.ed25519_from_bytes public_key).mapError ("ed25519 key: " ++ ·)
  refuse (signature.length ≠ 64) "ed25519 sig != 64 bytes"
  refuse (!s.ed25519_verify key message signature) "invalid Ed25519 signature"

end sig
end RustOp.Web
