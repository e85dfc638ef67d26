import RustOp.Firestore.OneShot
import RustOp.Deployment

/-!
Callers of a shared Firestore: single operations of the stores, consumptions of
initial access tokens, and whole token requests, any number of them in any
interleaving. A single-use record is spent by at most one of them.
-/
namespace RustOp.SpentOnce
open RustOp.Effects RustOp.Text RustOp.Firestore

/-! ### Callers -/

inductive Caller where
  | storage (o : BackendOp)
  | iat (hash : String) (update_time : Nat)
  | token (p : Provider) (uuid : Draw → String) (g : Grant) (client : Client) (form : Form) (dpop_jkt : Option String)

namespace Caller

@[reducible] def Res : Caller → Type
  | .storage o => o.Res
  | .iat .. => Except String Bool
  | .token .. => Except OAuthError TokenResponse

def requests : (c : Caller) → Prog Fs c.Res
  | .storage o => production o
  | .iat hash update_time => dcr_store.consume_iat hash update_time
  | .token p uuid g client form dpop_jkt => (g.handle p uuid client form dpop_jkt).lower production

end Caller

/-- A caller and the answer it got. -/
abbrev Outcome := (c : Caller) × c.Res

def Caller.start (c : Caller) : Prog Fs Outcome := c.requests >>= fun r => .ret ⟨c, r⟩

/-- The caller saves no record under the name of this one. Saved names are
    drawn at random. -/
def Caller.Spares (cred : Credential) : Caller → Prop
  | .storage o => cred.Spares o
  | .iat .. => True
  | .token _ uuid .. => ∀ d, uuid d ≠ cred.key.2

/-- The token request presents the record. -/
def Presents : Credential → Grant → Form → Prop
  | .code c, .authorization_code, form => form.get "code" = some c
  | .refresh t, .refresh_token, form => form.get "refresh_token" = some t
  | .approval q, .ciba, form => form.get "auth_req_id" = some q
  | _, _, _ => False

/-- The answer says that the caller spent the record: `take_code` and
    `consume_if_approved` return it, the other operations return true, and a
    token request that presents it is answered with tokens. -/
def SpentBy (cred : Credential) : Outcome → Prop
  | ⟨.storage o, r⟩ => cred.Success o r
  | ⟨.iat hash _, r⟩ => cred = .iat hash ∧ r = .ok true
  | ⟨.token _ _ g _ form _, r⟩ => Presents cred g form ∧ ∃ response, r = .ok response

/-! ### Contracts of callers -/

private theorem spares_of_calls {cred : Credential} {uuid : Draw → String} (fresh : ∀ d, uuid d ≠ cred.key.2)
    (o : BackendOp) (calls : Grant.Calls uuid o) : cred.Spares o := by
  unfold Credential.Spares
  split
  · exact calls.elim
  · rcases calls with drawn | drawn <;> exact drawn ▸ fresh _
  · exact (show _ = _ from calls) ▸ fresh _
  · exact calls.elim
  · exact calls.elim
  · exact calls.elim
  · trivial

private theorem requests_contract {cred : Credential} {c : Caller} (spares : c.Spares cred) :
    Prog.Contract sem cred.Rely cred.Keeps Stamped c.requests fun _ => Stamped := by
  cases c with
  | storage o => exact Credential.production_contract spares
  | iat hash update_time => exact Credential.consume_iat_contract cred hash update_time
  | token p uuid g client form dpop_jkt =>
    refine Prog.Contract.lower (fun o spared => Credential.production_contract spared) ?_
    exact (Grant.handle_calls p uuid client form dpop_jkt g).mono (spares_of_calls spares)

/-! ### What tokens cost -/

section handlers
variable (p : Provider) (uuid : Draw → String) (client : Client) (form : Form) (dpop_jkt : Option String)

private theorem code_pays {c : String} (sent : form.get "code" = some c) :
    (AuthorizationCodeGrant.handle p uuid client form dpop_jkt).Pays (Credential.code c).Success
      fun r => ∃ response, r = .ok response := by
  simp only [AuthorizationCodeGrant.handle, sent]
  intro answer
  cases answer with
  | none =>
    refine .inr ?_
    rintro ⟨_, done⟩
    cases done
  | some code => exact .inl ⟨rfl, rfl⟩

private theorem refresh_pays {t : String} (sent : form.get "refresh_token" = some t) :
    (RefreshTokenGrant.handle p uuid client form dpop_jkt).Pays (Credential.refresh t).Success
      fun r => ∃ response, r = .ok response := by
  simp only [RefreshTokenGrant.handle, sent]
  have refused : ∀ e : OAuthError, ¬ ∃ response : TokenResponse, Except.error e = Except.ok response := by simp
  intro answer
  refine .inr ?_
  cases answer with
  | none => exact refused _
  | some pre =>
    dsimp only [Prog.bind, store]
    split
    · exact refused _
    · split
      · exact refused _
      · split
        · exact fun _ => .inr (refused _)
        · split
          · exact refused _
          · intro marked
            cases marked with
            | true => exact .inl ⟨rfl, rfl⟩
            | false => exact .inr (refused _)

private theorem ciba_pays {q : String} (sent : form.get "auth_req_id" = some q) :
    (CibaGrant.handle p uuid client form dpop_jkt).Pays (Credential.approval q).Success
      fun r => ∃ response, r = .ok response := by
  simp only [CibaGrant.handle, sent]
  have refused : ∀ e : OAuthError, ¬ ∃ response : TokenResponse, Except.error e = Except.ok response := by simp
  intro answer
  refine .inr ?_
  rcases answer with e | ⟨_ | req⟩
  · exact refused _
  · exact refused _
  · dsimp only [Prog.bind, now]
    split
    · exact refused _
    · refine fun time => .inr ?_
      dsimp only [Prog.bind]
      split
      · exact fun _ => .inr (refused _)
      · split
        · exact refused _
        · exact fun _ => .inr (refused _)
        · intro consumed
          rcases consumed with e | ⟨_ | req⟩
          · exact .inr (refused _)
          · exact .inr (refused _)
          · exact .inl ⟨rfl, req, rfl⟩

private theorem handle_pays {cred : Credential} {g : Grant} (presents : Presents cred g form) :
    (g.handle p uuid client form dpop_jkt).Pays cred.Success fun r => ∃ response, r = .ok response := by
  unfold Presents at presents
  split at presents
  · exact code_pays _ _ _ _ _ presents
  · exact refresh_pays _ _ _ _ _ presents
  · exact ciba_pays _ _ _ _ _ presents
  · exact presents.elim

end handlers

/-- Whoever is told to have spent the record has paid for it. -/
private theorem start_pays (cred : Credential) (c : Caller) : c.start.Pays cred.Pays (SpentBy cred) := by
  have paid : c.requests.Pays cred.Pays fun r => SpentBy cred ⟨c, r⟩ := by
    cases c with
    | storage o => exact cred.production_pays o
    | iat hash update_time =>
      by_cases same : cred = .iat hash
      · subst same
        intro won
        by_cases deleted : won = .ok true
        · exact .inl ⟨rfl, deleted, trivial⟩
        · exact .inr fun spent => deleted spent.2
      · exact .of_never (fun _ spent => same spent.1) _
    | token p uuid g client form dpop_jkt =>
      by_cases presents : Presents cred g form
      · refine Prog.Pays.lower cred.production_pays ?_
        exact (handle_pays p uuid client form dpop_jkt presents).weaken fun _ spent => spent.2
      · exact .of_never (fun _ spent => presents spent.1) _
  exact paid.bind fun r unspent => unspent

/-! ### Runs -/

variable {ι : Type}

/-- The callers before their first request. -/
def pool (db : Db) (callers : ι → Caller) : Pool Fs Db ι Outcome := ⟨db, fun i => (callers i).start, []⟩

private theorem pool_safe {cred : Credential} {db : Db} (stamped : Stamped db) {callers : ι → Caller}
    (spares : ∀ i, (callers i).Spares cred) : (pool db callers).Safe sem cred.Rely cred.Keeps := by
  intro i
  refine ⟨Stamped, cred.stable_stamped, stamped, ?_⟩
  exact (requests_contract (spares i)).bind fun _ _ _ => trivial

/-- The clock spends nothing. -/
private theorem ticks_rely (cred : Credential) (db db' : Db) (ticks : Ticks db db') : cred.Rely db db' := by
  obtain ⟨t, -, rfl⟩ := ticks
  exact ⟨⟨id, le_rfl, fun _ stored _ => stored⟩, id⟩

/-- However the requests of the callers interleave, and whichever of them fail
    before or after they took effect: of all callers at most one is told that it
    spent the record. -/
theorem spent_at_most_once [DecidableEq ι] (cred : Credential) (callers : ι → Caller) (spares : ∀ i, (callers i).Spares cred) {db : Db}
    (stamped : Stamped db) {c : Pool Fs Db ι Outcome}
    (steps : Relation.ReflTransGen (Pool.Step sem Ticks) (pool db callers) c) {i j : ι} {a b : Outcome}
    (endsI : c.threads i = .ret a) (endsJ : c.threads j = .ret b) (spentI : SpentBy cred a) (spentJ : SpentBy cred b) :
    i = j :=
  Pool.accepted_once (fun _ _ _ _ keeps => keeps.1) (ticks_rely cred) (fun _ _ rely => rely.2)
    (fun _ _ _ _ keeps => keeps.2) (pool_safe stamped spares) rfl steps (start_pays cred _) (start_pays cred _)
    endsI endsJ spentI spentJ

/-- Two requests with one code. -/
def twins (i : Fin 2) : Caller :=
  .token Reference.provider (Entropy.unary.uuid (i + 1)) .authorization_code Reference.rp Reference.redeemForm none

/-- Both requests read the code before the first one takes it. -/
def overlapped : Pool Fs Db (Fin 2) Outcome := Pool.schedule exec (pool Reference.codeSaved twins)
  (Pool.turns [0, 1, 0, 1, 0, 0, 0, 0, 0, 0, 0])

/-- The request that was answered with tokens. -/
def granted : Outcome → Option (Grant × Form)
  | ⟨.token _ _ g _ form _, .ok _⟩ => some (g, form)
  | _ => none

private theorem spentBy_of_granted {cred : Credential} {a : Outcome} {g : Grant} {form : Form}
    (answered : granted a = some (g, form)) (presents : Presents cred g form) : SpentBy cred a := by
  unfold granted at answered
  split at answered
  · cases answered
    exact ⟨presents, _, rfl⟩
  · cases answered

theorem spent_at_most_once_twins :
    ∃ a, overlapped.threads 0 = .ret a ∧ SpentBy (.code "c") a ∧
      ∀ b, overlapped.threads 1 = .ret b → ¬ SpentBy (.code "c") b := by
  have answered : (overlapped.threads 0).result.bind granted = some (.authorization_code, Reference.redeemForm) := by
    decide +kernel
  obtain ⟨a, ends, tokens⟩ := Option.bind_eq_some_iff.mp answered
  have stamped : Stamped Reference.codeSaved := Grows.stamped (.exec (.authCodes, "c") _ { clock := 0 }) fun _ _ stored => by cases stored
  have spares : ∀ i, (twins i).Spares (.code "c") := by
    intro i d same
    revert same
    cases d <;> revert i <;> decide
  have steps : Relation.ReflTransGen (Pool.Step sem Ticks) (pool Reference.codeSaved twins) overlapped :=
    (Pool.schedule_steps exec Ticks _ _).lift id fun _ _ step => step.mono (fun _ _ _ _ => .inl) fun _ _ => id
  have spent : SpentBy (.code "c") a := spentBy_of_granted tokens rfl
  refine ⟨a, Prog.result_eq_some.mp ends, spent, fun b endsB spentB => ?_⟩
  have same := spent_at_most_once (.code "c") twins spares stamped steps (Prog.result_eq_some.mp ends) endsB spent spentB
  cases same

end RustOp.SpentOnce
