import RustOp.Provider

/-!
A provider that can be run: SHA-256 and unpadded base64url as the linked
libraries compute them, and one configuration. The model itself takes them as
parameters.
-/
namespace RustOp.Reference

/-- The initial state: fractional parts of the square roots of the first eight primes. -/
def initial : List Nat :=
  [0x6a09e667, 0xbb67ae85, 0x3c6ef372, 0xa54ff53a, 0x510e527f, 0x9b05688c, 0x1f83d9ab, 0x5be0cd19]

/-- The round constants: fractional parts of the cube roots of the first sixty-four primes. -/
def rounds : List Nat :=
  [0x428a2f98, 0x71374491, 0xb5c0fbcf, 0xe9b5dba5, 0x3956c25b, 0x59f111f1, 0x923f82a4, 0xab1c5ed5,
   0xd807aa98, 0x12835b01, 0x243185be, 0x550c7dc3, 0x72be5d74, 0x80deb1fe, 0x9bdc06a7, 0xc19bf174,
   0xe49b69c1, 0xefbe4786, 0x0fc19dc6, 0x240ca1cc, 0x2de92c6f, 0x4a7484aa, 0x5cb0a9dc, 0x76f988da,
   0x983e5152, 0xa831c66d, 0xb00327c8, 0xbf597fc7, 0xc6e00bf3, 0xd5a79147, 0x06ca6351, 0x14292967,
   0x27b70a85, 0x2e1b2138, 0x4d2c6dfc, 0x53380d13, 0x650a7354, 0x766a0abb, 0x81c2c92e, 0x92722c85,
   0xa2bfe8a1, 0xa81a664b, 0xc24b8b70, 0xc76c51a3, 0xd192e819, 0xd6990624, 0xf40e3585, 0x106aa070,
   0x19a4c116, 0x1e376c08, 0x2748774c, 0x34b0bcb5, 0x391c0cb3, 0x4ed8aa4a, 0x5b9cca4f, 0x682e6ff3,
   0x748f82ee, 0x78a5636f, 0x84c87814, 0x8cc70208, 0x90befffa, 0xa4506ceb, 0xbef9a3f7, 0xc67178f2]

def word : Nat := 2 ^ 32

def rotr (x n : Nat) : Nat := x >>> n ||| (x <<< (32 - n)) % word

/-- Extends the schedule, kept newest first, by the next word. -/
def extend (w : List Nat) : List Nat :=
  let x := w.getD 14 0
  let y := w.getD 1 0
  let s0 := rotr x 7 ^^^ rotr x 18 ^^^ x >>> 3
  let s1 := rotr y 17 ^^^ rotr y 19 ^^^ y >>> 10
  (w.getD 15 0 + s0 + w.getD 6 0 + s1) % word :: w

def schedule (block : List Nat) : List Nat :=
  (Nat.iterate extend 48 block.reverse).reverse

def round (s : List Nat) (kw : Nat × Nat) : List Nat :=
  match s with
  | [a, b, c, d, e, f, g, h] =>
    let s1 := rotr e 6 ^^^ rotr e 11 ^^^ rotr e 25
    let ch := (e &&& f) ^^^ ((e ^^^ (word - 1)) &&& g)
    let t1 := h + s1 + ch + kw.1 + kw.2
    let s0 := rotr a 2 ^^^ rotr a 13 ^^^ rotr a 22
    let maj := (a &&& b) ^^^ (a &&& c) ^^^ (b &&& c)
    [(t1 + s0 + maj) % word, a, b, c, (d + t1) % word, e, f, g]
  | _ => s

def compress (state block : List Nat) : List Nat :=
  ((rounds.zip (schedule block)).foldl round state).zipWith (fun x y => (x + y) % word) state

/-- The `n` low bytes of a number, most significant first. -/
def bytesOf : Nat → Nat → List Nat
  | 0, _ => []
  | n + 1, x => (x >>> (8 * n)) % 256 :: bytesOf n x

def pad (message : List Nat) : List Nat :=
  message ++ 0x80 :: List.replicate ((119 - message.length % 64) % 64) 0 ++ bytesOf 8 (8 * message.length)

/-- Groups bytes into big-endian words. -/
def words : List Nat → List Nat
  | a :: b :: c :: d :: rest => (a <<< 24 + b <<< 16 + c <<< 8 + d) :: words rest
  | _ => []

def blocks : Nat → List Nat → List (List Nat)
  | 0, _ => []
  | n + 1, w => w.take 16 :: blocks n (w.drop 16)

/-- The digest of the UTF-8 bytes of a text. -/
def sha256 (text : String) : List UInt8 :=
  let message := pad ((text.toList.flatMap String.utf8EncodeChar).map UInt8.toNat)
  (((blocks (message.length / 64) (words message)).foldl compress initial).flatMap (bytesOf 4)).map UInt8.ofNat

/-- The base64url alphabet. -/
def alphabet : List Char := "ABCDEFGHIJKLMNOPQRSTUVWXYZabcdefghijklmnopqrstuvwxyz0123456789-_".toList

def sextets : List Nat → List Nat
  | a :: b :: c :: rest => [a >>> 2, (a % 4) * 16 + b >>> 4, (b % 16) * 4 + c >>> 6, c % 64] ++ sextets rest
  | [a, b] => [a >>> 2, (a % 4) * 16 + b >>> 4, (b % 16) * 4]
  | [a] => [a >>> 2, (a % 4) * 16]
  | [] => []

def b64url (bytes : List UInt8) : String :=
  String.ofList ((sextets (bytes.map UInt8.toNat)).map fun n => alphabet.getD n 'A')

example : b64url (sha256 "abc") = "ungWv48Bz-pBQUDeXa4iI7ADYaOWF3qctBD_YfIAFa0" := by decide +kernel

def provider : Provider where
  sha256 := sha256
  b64url := b64url
  from_str := fun _ => none
  issuer := "https://op"
  signer := "ES256"
  extra_signers := []

/-- A confidential client with every grant. -/
def rp : Client where
  client_id := "rp"
  redirect_uris := ["https://rp/cb"]
  token_endpoint_auth_method := "client_secret_basic"
  client_secret := some "secret"
  grant_types := ["authorization_code", "refresh_token", "urn:openid:params:grant-type:ciba"]
  post_logout_redirect_uris := []
  dpop_bound := false
  jwks := []
  jwks_uri := none
  require_par := false
  require_pkce := false
  id_token_signed_response_alg := none

end RustOp.Reference
