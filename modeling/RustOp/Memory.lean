import RustOp.Backend
import RustOp.Effects.Table

/-!
`MemoryStore` and `MemoryCibaStore`: hash maps behind a lock, so every
operation is one step. Records of the store carry an absolute expiry time.
-/
namespace RustOp.Memory
open RustOp.Effects

/-- A value with its absolute expiry time. -/
structure Expiring (T : Type) where
  value : T
  expires_at : Nat
deriving DecidableEq, Repr

def Expiring.alive {T : Type} (e : Expiring T) (now : Nat) : Bool := e.expires_at > now

/-- What the store keeps about a code: whether it is spent, and what it issued. -/
structure CodeRecord where
  code : AuthorizationCode
  used : Bool
  issued_access : Option String
  issued_refresh : Option String
deriving DecidableEq, Repr

structure MemoryStore where
  interactions : Table String (Expiring Interaction) := ∅
  sessions : Table String (Expiring Session) := ∅
  codes : Table String (Expiring CodeRecord) := ∅
  access_tokens : Table String (Expiring AccessToken) := ∅
  refresh_tokens : Table String (Expiring RefreshToken) := ∅

structure MemoryCibaStore where
  map : Table String BackchannelAuthRequest := ∅
  history : List CibaHistoryEntry := []

/-- The storage of a provider without Firestore, and its clock. -/
structure Mem where
  clock : Nat
  store : MemoryStore := {}
  ciba : MemoryCibaStore := {}

section maps
variable {T : Type}

/-- The value under a key, if its time has not come. -/
def live (now : Nat) (map : Table String (Expiring T)) (key : String) : Option T :=
  ((map.get key).filter fun e => e.alive now).map Expiring.value

/-- A lookup that also drops the entry it finds expired. -/
def get_alive (now : Nat) (key : String) (map : Table String (Expiring T)) :
    Option T × Table String (Expiring T) :=
  match map.get key with
  | some e => if e.alive now then (some e.value, map) else (none, map.remove key)
  | none => (none, map)

def retain_alive (cutoff : Nat) (map : Table String (Expiring T)) : Table String (Expiring T) :=
  map.retain fun _ e => e.expires_at > cutoff

end maps

/-- The walk of `revoke_refresh_family`: removes a token and goes on with its
    successor, for at most `guard` tokens. -/
def revoke_chain : Nat → Option String → Table String (Expiring RefreshToken) →
    Table String (Expiring RefreshToken)
  | 0, _, map => map
  | _ + 1, none, map => map
  | guard + 1, some t, map =>
    revoke_chain guard ((map.get t).bind fun e => e.value.replaced_by) (map.remove t)

/-- The bound on the number of tokens one walk removes. -/
def FAMILY_GUARD : Nat := 64

namespace MemoryStore

def save_code (c : AuthorizationCode) (s : MemoryStore) : MemoryStore :=
  { s with codes := s.codes.set c.code ⟨⟨c, false, none, none⟩, c.expires_at⟩ }

def take_code (now : Nat) (code : String) (s : MemoryStore) : Option AuthorizationCode × MemoryStore :=
  match s.codes.get code with
  | none => (none, s)
  | some entry =>
    if !entry.alive now then (none, { s with codes := s.codes.remove code })
    else if entry.value.used then
      -- A replay: forgets what the code issued and revokes both tokens.
      (none, { s with
        codes := s.codes.set code
          ⟨{ entry.value with issued_access := none, issued_refresh := none }, entry.expires_at⟩
        access_tokens := match entry.value.issued_access with
          | some at_ => s.access_tokens.remove at_
          | none => s.access_tokens
        refresh_tokens := match entry.value.issued_refresh with
          | some rt => s.refresh_tokens.remove rt
          | none => s.refresh_tokens })
    else
      (some entry.value.code,
        { s with codes := s.codes.set code ⟨{ entry.value with used := true }, entry.expires_at⟩ })

def link_issued_tokens (code access_token : String) (refresh_token : Option String) (s : MemoryStore) :
    MemoryStore :=
  match s.codes.get code with
  | none => s
  | some entry =>
    { s with
      codes := s.codes.set code
        ⟨{ entry.value with issued_access := some access_token, issued_refresh := refresh_token },
          entry.expires_at⟩ }

def consume_mandate_if_unused (now : Nat) (token : String) (s : MemoryStore) :
    Except String Bool × MemoryStore :=
  match s.access_tokens.get token with
  | some e =>
    if e.alive now && !e.value.mandate_consumed then
      (.ok true, { s with access_tokens :=
        s.access_tokens.set token ⟨{ e.value with mandate_consumed := true }, e.expires_at⟩ })
    else (.ok false, s)
  | none => (.ok false, s)

def mark_refresh_used (now : Nat) (token : String) (replaced_by : Option String) (s : MemoryStore) :
    Bool × MemoryStore :=
  match s.refresh_tokens.get token with
  | some e =>
    if e.alive now && !e.value.used then
      (true, { s with refresh_tokens :=
        s.refresh_tokens.set token ⟨{ e.value with used := true, replaced_by := replaced_by }, e.expires_at⟩ })
    else (false, s)
  | none => (false, s)

/-- Every operation, at a clock reading. -/
def exec (now : Nat) : (o : StoreOp) → MemoryStore → o.Res × MemoryStore
  | .save_interaction i, s =>
    ((), { s with interactions := s.interactions.set i.uid ⟨i, now + INTERACTION_TTL_SECS⟩ })
  | .get_interaction uid, s =>
    ((get_alive now uid s.interactions).1, { s with interactions := (get_alive now uid s.interactions).2 })
  | .consume_interaction uid, s =>
    (match s.interactions.get uid with
      | some e => e.alive now
      | none => false, { s with interactions := s.interactions.remove uid })
  | .save_session x, s => ((), { s with sessions := s.sessions.set x.sid ⟨x, now + SESSION_TTL_SECS⟩ })
  | .get_session sid, s => ((get_alive now sid s.sessions).1, { s with sessions := (get_alive now sid s.sessions).2 })
  | .delete_session sid, s => ((), { s with sessions := s.sessions.remove sid })
  | .save_code c, s => ((), s.save_code c)
  | .take_code code, s => s.take_code now code
  | .link_issued_tokens code access_token refresh_token, s =>
    ((), s.link_issued_tokens code access_token refresh_token)
  | .save_access_token t, s =>
    ((), { s with access_tokens := s.access_tokens.set t.token ⟨t, now + ACCESS_TTL_SECS⟩ })
  | .get_access_token token, s =>
    ((get_alive now token s.access_tokens).1,
      { s with access_tokens := (get_alive now token s.access_tokens).2 })
  | .revoke_access_token token, s => ((), { s with access_tokens := s.access_tokens.remove token })
  | .consume_mandate_if_unused token, s => s.consume_mandate_if_unused now token
  | .save_refresh_token t, s =>
    ((), { s with refresh_tokens := s.refresh_tokens.set t.token ⟨t, now + REFRESH_TTL_SECS⟩ })
  | .get_refresh_token token, s =>
    ((get_alive now token s.refresh_tokens).1,
      { s with refresh_tokens := (get_alive now token s.refresh_tokens).2 })
  | .revoke_refresh_token token, s => ((), { s with refresh_tokens := s.refresh_tokens.remove token })
  | .mark_refresh_used token replaced_by, s => s.mark_refresh_used now token replaced_by
  | .revoke_refresh_family start_token, s =>
    ((), { s with refresh_tokens := revoke_chain FAMILY_GUARD (some start_token) s.refresh_tokens })
  | .sweep_expired, s =>
    ((), { interactions := retain_alive now s.interactions, sessions := retain_alive now s.sessions,
           codes := retain_alive now s.codes, access_tokens := retain_alive now s.access_tokens,
           refresh_tokens := retain_alive now s.refresh_tokens })

end MemoryStore

namespace MemoryCibaStore

/-- Every operation, at a clock reading. -/
def exec (now : Nat) : (o : CibaOp) → MemoryCibaStore → o.Res × MemoryCibaStore
  | .create auth_req_id client_id account scope binding_message authorization_details, s =>
    (.ok auth_req_id, { s with
      map := s.map.set auth_req_id
        ⟨auth_req_id, client_id, account, scope, binding_message, .Pending, now + CIBA_TTL_SECS,
          authorization_details⟩ })
  | .get auth_req_id, s => (.ok (s.map.get auth_req_id), s)
  | .transition_if_pending auth_req_id status, s =>
    match s.map.get auth_req_id with
    | some req =>
      if req.status = .Pending then (.ok true, { s with map := s.map.set auth_req_id { req with status := status } })
      else (.ok false, s)
    | none => (.ok false, s)
  | .consume_if_approved auth_req_id, s =>
    match s.map.get auth_req_id with
    | some req =>
      if req.status = .Approved then (.ok (some req), { s with map := s.map.remove auth_req_id })
      else (.ok none, s)
    | none => (.ok none, s)
  | .delete auth_req_id, s => (.ok (), { s with map := s.map.remove auth_req_id })
  | .list_pending account, s =>
    (.ok ((s.map.pairs.map Prod.snd).filter fun r =>
      r.account = account && r.status = .Pending && !r.expired now), s)
  | .record_history entry, s => (.ok (), { s with history := s.history ++ [entry] })
  | .list_history account limit, s =>
    (.ok (((s.history.filter fun e => e.account = account).mergeSort
      fun a b => b.resolved_at ≤ a.resolved_at).take limit), s)
  | .sweep_expired account, s =>
    let expired := (s.map.pairs.map Prod.snd).filter fun r =>
      r.account = account && r.status = .Pending && r.expired now
    (.ok expired.length,
      expired.foldl (fun s req =>
        { map := s.map.remove req.auth_req_id
          history := s.history ++ [CibaHistoryEntry.from_request req "expired" now] }) s)

end MemoryCibaStore

/-- The meaning of the storage interface in memory. -/
def exec : Prog.Handler Backend Mem
  | .store o, m => ((m.store.exec m.clock o).1, { m with store := (m.store.exec m.clock o).2 })
  | .ciba o, m => ((m.ciba.exec m.clock o).1, { m with ciba := (m.ciba.exec m.clock o).2 })
  | .now, m => (m.clock, m)

end RustOp.Memory
