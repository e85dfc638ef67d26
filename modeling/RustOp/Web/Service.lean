import RustOp.Effects.Once
import RustOp.Firestore.Answers
import RustOp.Web.Host

/-!
Requests that are handled side by side. Each of them is a program over the host in
which every operation is justified; compiled to requests to Firestore, any number of
them take turns, and each request to Firestore may fail.
-/
namespace RustOp.Web
open RustOp.Effects RustOp.Firestore

/-- Requests, numbered in any order, with what each may do and what its answer says. -/
structure Service (α : Type) where
  run : ℕ → Prog Host α
  Lawful : ℕ → Past Host → HostOp → Prop
  Ends : ℕ → Past Host → α → Prop
  justified : ∀ i, (run i).Justified (Lawful i) (Ends i) []

/-- At some time of the run, this is what a request had done. -/
def Seen (jwks : ℕ → String → String → Option JwkPub) (trace : List (Occurrence Fs ℕ)) (i : ℕ) (above : Past Host) : Prop :=
  ∃ below, Prog.Implements (production (jwks i)) above below ∧ below <:+ Pool.past trace i

theorem Seen.later {jwks : ℕ → String → String → Option JwkPub} {trace : List (Occurrence Fs ℕ)} {i : ℕ} {above : Past Host}
    (seen : Seen jwks trace i above) (e : Occurrence Fs ℕ) : Seen jwks (e :: trace) i above := by
  obtain ⟨below, implements, old⟩ := seen
  refine ⟨below, implements, old.trans ?_⟩
  rw [Pool.past_cons]
  split
  · exact List.suffix_cons _ _
  · exact List.suffix_refl _

namespace Service
variable {α : Type} (s : Service α) (jwks : ℕ → String → String → Option JwkPub)

/-- The requests, about to begin. -/
def pool (db : Db) : Pool Fs Db ℕ α := ⟨db, fun i => (s.run i).lower (production (jwks i)), []⟩

/-- What a request may ask of Firestore. -/
def Allowed (i : ℕ) (now : Past Fs) (asked : FsOp) : Prop :=
  ∃ above o below, Prog.Serves (production (jwks i)) (s.Lawful i) now asked above o below

/-- What a request ends with. -/
def Ended (i : ℕ) (now : Past Fs) (r : α) : Prop :=
  ∃ above, Prog.Implements (production (jwks i)) above now ∧ s.Ends i above r

theorem pool_honest (db : Db) : (s.pool jwks db).Honest (s.Allowed jwks) (s.Ended jwks) :=
  fun i => (s.justified i).lower .nil

/-! ### Runs -/

/-- The run of any number of requests, among anything else that writes none of the
    watched records. -/
abbrev Run (watched : Col → Prop) (c c' : Pool Fs Db ℕ α) : Prop :=
  Relation.ReflTransGen (Pool.Step sem (Elsewhere watched)) c c'

section runs
variable {s jwks} {watched : Col → Prop} {db : Db} {c : Pool Fs Db ℕ α} (run : Run watched (s.pool jwks db) c)
include run

private theorem plain_steps : Relation.ReflTransGen (fun c c' => Pool.Step sem (Elsewhere watched) c c' ∧ True) (s.pool jwks db) c := by
  simpa using run

theorem run_honest : c.Honest (s.Allowed jwks) (s.Ended jwks) :=
  ((s.pool_honest jwks db).induct (W := fun _ _ => True) (I := fun _ => True) (fun _ _ _ _ _ _ => trivial) trivial
    (plain_steps run)).2

/-- What a request ended with, and what it had done by then. -/
theorem run_ended {i : ℕ} {r : α} (done : c.threads i = .ret r) :
    ∃ above, Prog.Implements (production (jwks i)) above (Pool.past c.trace i) ∧ s.Ends i above r := by
  have honest := run_honest run i
  rw [done] at honest
  exact honest

/-- Each request to Firestore was allowed when it was made. -/
theorem run_occurred : ∀ e ∈ c.trace, ∃ before, ⟨e.op, e.answer⟩ :: before <:+ Pool.past c.trace e.thread ∧
    s.Allowed jwks e.thread before e.op :=
  (s.pool_honest jwks db).occurred rfl (plain_steps run)

/-- From nothing, everything that is watched is in order. -/
theorem run_ordered {L : List (Occurrence Fs ℕ) → Col × String → Fields → Prop} (lineage : Lineage watched (s.Allowed jwks) L)
    (empty : ∀ key, watched key.1 → db.docs.get key = none) : Ordered watched L c := by
  refine lineage.run (W := fun _ _ => True) (s.pool_honest jwks db) rfl (fun key doc here stored => ?_) (plain_steps run)
  have none := empty key here
  rw [show (s.pool jwks db).state = db from rfl, none] at stored
  cases stored

/-- Requests of which each does a thing once at most are all different where it was done. -/
theorem run_once {P : FsOp → Prop} (once : ∀ i, ((s.run i).lower (production (jwks i))).Once P) {K : Occurrence Fs ℕ → Bool}
    (kind : ∀ e, K e = true → P e.op) : (∀ i, Pool.OnceBy P c i) ∧ ((c.trace.filter K).map (·.thread)).Nodup :=
  Pool.once_nodup (s.pool_honest jwks db) rfl once kind (plain_steps run)

end runs
end Service

/-! ### From requests to the host to requests to Firestore -/

/-- A request that writes no nonce belongs to an operation of the stores, or is one
    that the handler makes itself. -/
theorem host_asks {jwks : String → String → Option JwkPub} {o : HostOp} {below now : Past Fs} {asked : FsOp}
    (asks : (production jwks o).Asks below asked now) {key : Col × String} (other : key.1 ≠ .nonces)
    (writes : asked.writes = some key) :
    (∃ b, o = .backend b ∧ (Firestore.production b).Asks below asked now) ∨ o = .firestore asked ∧ now = below := by
  cases o with
  | backend b => exact .inl ⟨b, rfl, asks⟩
  | firestore o =>
    rcases asks with ⟨rfl, rfl⟩ | ⟨_, rest⟩
    · exact .inr ⟨rfl, rfl⟩
    · exact rest.elim
  | claim jti nonce ttl =>
    rcases asks with ⟨rfl, -⟩ | ⟨t, ⟨rfl, -⟩ | ⟨won, rest⟩⟩
    · cases writes
    · cases writes
      exact absurd rfl other
    · rcases won with e | _ | _ <;> exact rest.elim
  | resolve_jwk uri kid => exact asks.elim

/-- What leaves a document of the flow. -/
theorem host_puts {jwks : String → String → Option JwkPub} {o : HostOp} {below now : Past Fs} {asked : FsOp}
    (asks : (production jwks o).Asks below asked now) {key : Col × String} (flow : FlowCol key.1)
    (writes : asked.writes = some key) {found : Option Fields} {f : Fields} (makes : asked.makes found = some f) :
    (∃ b, o = .backend b ∧ Puts b now asked) ∨ o = .firestore asked ∧ now = below := by
  have other : key.1 ≠ .nonces := fun same => by rw [same] at flow; exact flow
  rcases host_asks asks other writes with ⟨b, rfl, asks⟩ | direct
  · exact .inl ⟨b, rfl, puts_of_asks asks flow writes makes⟩
  · exact .inr direct

end RustOp.Web
