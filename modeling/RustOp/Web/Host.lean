import RustOp.Provider
import RustOp.Memory
import RustOp.Firestore.Footprint

/-!
What a request handler sees of its process: the stores, Firestore itself where
there is one, the three nonce stores, and the resolver of client keys. A handler
is written once over these operations; a process in memory and a process on
Firestore give them their meaning.
-/
namespace RustOp.Web
open RustOp.Effects RustOp.Text

/-! ### Operations -/

/-- The nonce stores of the provider, by what the remembered `jti` belongs to. -/
inductive NonceStore where
  | client_assertion
  | dpop
  | request_object
deriving DecidableEq, Repr

/-- `p.store`, `p.ciba` and the clock; `p.firestore`; `NonceStore::claim`; and
    `p.jwks_resolver`. -/
inductive HostOp where
  | backend (o : BackendOp)
  | firestore (o : Firestore.FsOp)
  | claim (jti : NonceStore) (key : String) (ttl : Nat)
  | resolve_jwk (jwks_uri kid : String)

@[reducible] def HostOp.Res : HostOp → Type
  | .backend o => o.Res
  | .firestore o => o.Res
  | .claim .. => Bool
  | .resolve_jwk .. => Option JwkPub

@[reducible] def Host : Sig := ⟨HostOp, HostOp.Res⟩

/-- A program over the stores, as part of a request. -/
def backend {α : Type} (p : Prog Backend α) : Prog Host α := p.lower fun o => .call (.backend o) .ret

/-- One call of the store. -/
@[simp] def store (o : StoreOp) : Prog Host o.Res := .call (.backend (.store o)) .ret
/-- One call of the store of backchannel requests. -/
@[simp] def ciba (o : CibaOp) : Prog Host o.Res := .call (.backend (.ciba o)) .ret
/-- One reading of the clock, in seconds. -/
@[simp] def now : Prog Host Nat := .call (.backend .now) .ret
/-- One request to Firestore. -/
@[simp] def fs (o : Firestore.FsOp) : Prog Host o.Res := .call (.firestore o) .ret
/-- Whether a `jti` is fresh; from now on it is not. -/
@[simp] def claim (jti : NonceStore) (key : String) (ttl : Nat) : Prog Host Bool := .call (.claim jti key ttl) .ret
@[simp] def resolve_jwk (jwks_uri kid : String) : Prog Host (Option JwkPub) := .call (.resolve_jwk jwks_uri kid) .ret

/-! ### Keys published by clients -/

/-- How long fetched keys are used, in seconds. -/
def JWKS_TTL_SECS : Nat := 300

structure Cached where
  keys : List JwkPub
  expires_at : Nat

/-- The keys fetched so far. What a request to a URI gives at a time is up to
    the client that publishes them. -/
structure JwksResolver where
  cache : Table String Cached := ∅

namespace JwksResolver

/-- Fetches the keys of a URI; only https is asked, and no keys is no answer. -/
def fetch (published : Nat → String → Option (List JwkPub)) (now : Nat) (jwks_uri : String) : Option (List JwkPub) :=
  if starts_with "https://" jwks_uri then (published now jwks_uri).filter fun keys => !keys.isEmpty else none

def find (keys : List JwkPub) (kid : String) : Option JwkPub := keys.find? fun k => k.kid == kid

def resolve (published : Nat → String → Option (List JwkPub)) (now : Nat) (jwks_uri kid : String) (r : JwksResolver) :
    Option JwkPub × JwksResolver :=
  match (r.cache.get jwks_uri).filter fun c => c.expires_at > now with
  | some c => (find c.keys kid, r)
  | none =>
    match fetch published now jwks_uri with
    | none => (none, r)
    | some keys => (find keys kid, { cache := r.cache.set jwks_uri ⟨keys, now + JWKS_TTL_SECS⟩ })

end JwksResolver

/-! ### A process in memory -/

/-- The state of a process without Firestore: each nonce store maps a key to the
    time at which it is forgotten. -/
structure MemoryHost where
  mem : Memory.Mem
  nonces : NonceStore → Table String Nat := fun _ => ∅
  jwks : JwksResolver := {}

namespace MemoryHost

/-- `NonceStore::claim`: forgets what is over, then keeps the key if it is new. -/
def claim (now : Nat) (key : String) (ttl : Nat) (remembered : Table String Nat) : Bool × Table String Nat :=
  let remembered := remembered.retain fun _ expires => expires > now
  if (remembered.get key).isSome then (false, remembered) else (true, remembered.set key (now + ttl))

/-- Without Firestore no request to it succeeds. -/
def unavailable : (o : Firestore.FsOp) → o.Res
  | .get_doc .. => .error "no firestore"
  | .get_doc_with_update_time .. => .error "no firestore"
  | .set_doc .. => .error "no firestore"
  | .update_field .. => .error "no firestore"
  | .set_doc_if_unchanged .. => .error "no firestore"
  | .create_if_absent .. => .error "no firestore"
  | .delete_doc .. => .error "no firestore"
  | .delete_doc_if_unchanged .. => .error "no firestore"
  | .merge_doc .. => .error "no firestore"
  | .query_eq .. => .error "no firestore"
  | .now => (0 : Nat)

/-- Every operation of a request, as one step. -/
def exec (published : Nat → String → Option (List JwkPub)) : Prog.Handler Host MemoryHost
  | .backend o, m => ((Memory.exec o m.mem).1, { m with mem := (Memory.exec o m.mem).2 })
  | .firestore o, m => (unavailable o, m)
  | .claim jti key ttl, m =>
    ((claim m.mem.clock key ttl (m.nonces jti)).1,
      { m with nonces := Function.update m.nonces jti (claim m.mem.clock key ttl (m.nonces jti)).2 })
  | .resolve_jwk jwks_uri kid, m =>
    ((m.jwks.resolve published m.mem.clock jwks_uri kid).1,
      { m with jwks := (m.jwks.resolve published m.mem.clock jwks_uri kid).2 })

end MemoryHost

/-! ### A process on Firestore -/

/-- `NonceStore::claim` on Firestore: the first to create the document wins, and
    whoever cannot ask is refused. -/
def claim_doc (key : String) (ttl : Nat) : Prog Firestore.Fs Bool := do
  let now ← Firestore.fs .now
  match ← Firestore.fs (.create_if_absent .nonces key (.ofEntries [("expiresAt", some (Firestore.ts (now + ttl)))])) with
  | .ok created => return created
  | .error _ => return false

/-- The operations of a request as requests to Firestore. What the resolver of
    keys answers is given. -/
def production (jwks : String → String → Option JwkPub) : (o : HostOp) → Prog Firestore.Fs o.Res
  | .backend o => Firestore.production o
  | .firestore o => Firestore.fs o
  | .claim _ key ttl => claim_doc key ttl
  | .resolve_jwk jwks_uri kid => .ret (jwks jwks_uri kid)

/-- The state of a process on Firestore. -/
structure FirestoreHost where
  db : Firestore.Db
  jwks : JwksResolver := {}

/-- Every operation of a request, run to its end with nothing in between. -/
def FirestoreHost.exec (published : Nat → String → Option (List JwkPub)) : Prog.Handler Host FirestoreHost
  | .resolve_jwk jwks_uri kid, m =>
    ((m.jwks.resolve published m.db.clock jwks_uri kid).1,
      { m with jwks := (m.jwks.resolve published m.db.clock jwks_uri kid).2 })
  | o, m =>
    ((Prog.run Firestore.exec (production (fun _ _ => none) o) m.db).1,
      { m with db := (Prog.run Firestore.exec (production (fun _ _ => none) o) m.db).2 })

end RustOp.Web
