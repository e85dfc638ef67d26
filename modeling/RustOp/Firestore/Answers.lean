import RustOp.Firestore.Contract
import RustOp.Firestore.Lineage

/-!
What an operation of the storage interface comes down to, read backwards: which
document a record was read from, and which record a document was written for.
-/
namespace RustOp.Firestore
open RustOp.Effects

/-! ### Records that were read -/

section read
variable {before after past : Past Fs}

theorem got_unexpired {col : Col} {id : String} {f : Fields}
    (leads : (FirestoreStore.get_unexpired col id).Leads before (some f) after) :
    ⟨.get_doc col id, .ok (some f)⟩ ∈ after ∧ ∃ t, ⟨.now, t⟩ ∈ after ∧ expired_at f t = false := by
  obtain ⟨answer, rest⟩ := leads
  rcases answer with e | _ | g
  · cases rest.1
  · cases rest.1
  · obtain ⟨t, rest⟩ := rest
    dsimp only [Prog.bind, Prog.pure_eq] at rest
    split at rest
    · cases rest.1
    · rename_i unexpired
      obtain ⟨same, rfl⟩ := rest
      obtain rfl := Option.some.inj same
      exact ⟨by simp, t, by simp, by simpa using unexpired⟩

/-- A record is decoded from an unexpired document. -/
private theorem got_record {α : Type} {col : Col} {id : String} {decode : Fields → α} {a : α}
    (gave : Prog.Gave (FirestoreStore.get_unexpired col id >>= fun f => pure (f.map decode)) (some a) past) :
    ∃ f, ⟨.get_doc col id, .ok (some f)⟩ ∈ past ∧ decode f = a ∧ ∃ t, ⟨.now, t⟩ ∈ past ∧ expired_at f t = false := by
  obtain ⟨before, after, leads, old⟩ := gave
  obtain ⟨found, mid, first, same, rfl⟩ := Prog.leads_bind.mp leads
  obtain ⟨f, rfl, rfl⟩ := Option.map_eq_some_iff.mp same.symm
  obtain ⟨read, t, clock, unexpired⟩ := got_unexpired first
  exact ⟨f, old.subset read, rfl, t, old.subset clock, unexpired⟩

theorem got_interaction {uid : String} {i : Interaction} (gave : (production (.store (.get_interaction uid))).Gave (some i) past) :
    ∃ f, ⟨.get_doc .interactions uid, .ok (some f)⟩ ∈ past ∧ Interaction.from_fields uid f = i ∧
      ∃ t, ⟨.now, t⟩ ∈ past ∧ expired_at f t = false := got_record gave

theorem got_session {sid : String} {s : Session} (gave : (production (.store (.get_session sid))).Gave (some s) past) :
    ∃ f, ⟨.get_doc .sessions sid, .ok (some f)⟩ ∈ past ∧ Session.from_fields sid f = s ∧
      ∃ t, ⟨.now, t⟩ ∈ past ∧ expired_at f t = false := got_record gave

/-- A code is decoded from an unused document, and the caller marked it. -/
theorem took_code {code : String} {c : AuthorizationCode} (gave : (production (.store (.take_code code))).Gave (some c) past) :
    ∃ f ut, ⟨.get_doc_with_update_time .authCodes code, .ok (some (f, ut))⟩ ∈ past ∧
      ⟨.set_doc_if_unchanged .authCodes code (f.set "used" (.boolean true)) ut, .ok true⟩ ∈ past ∧
      (field_bool f "used").getD false = false ∧ AuthorizationCode.from_fields code f = c := by
  obtain ⟨before, after, leads, old⟩ := gave
  obtain ⟨answer, rest⟩ := leads
  rcases answer with e | _ | ⟨f, ut⟩
  · cases rest.1
  · cases rest.1
  · dsimp only [Prog.bind, Prog.pure_eq] at rest
    split at rest
    · obtain ⟨_, _, _, rest⟩ := Prog.leads_bind.mp rest
      obtain ⟨_, _, _, rest⟩ := Prog.leads_bind.mp rest
      cases rest.1
    · rename_i unused
      obtain ⟨won, rest⟩ := rest
      rcases won with e | _ | _
      · cases rest.1
      · cases rest.1
      · obtain ⟨same, rfl⟩ := rest
        have taken := congrArg Memory.CodeRecord.code (codeRecord_take code f)
        exact ⟨f, ut, old.subset (by simp), old.subset (by simp), by simpa using unused,
          taken.symm.trans (Option.some.inj same).symm⟩

/-- A request that was consumed was deleted by the caller. -/
theorem consumed_interaction {uid : String} (gave : (production (.store (.consume_interaction uid))).Gave true past) :
    ∃ ut, ⟨.delete_doc_if_unchanged .interactions uid ut, .ok true⟩ ∈ past := by
  obtain ⟨before, after, leads, old⟩ := gave
  obtain ⟨found, mid, taken, same, rfl⟩ := Prog.leads_bind.mp leads
  obtain ⟨answer, rest⟩ := taken
  rcases answer with e | _ | ⟨f, ut⟩
  · obtain ⟨rfl, -⟩ := rest
    cases same
  · obtain ⟨rfl, -⟩ := rest
    cases same
  · obtain ⟨won, rest⟩ := rest
    rcases won with e | _ | _
    · obtain ⟨rfl, -⟩ := rest
      cases same
    · obtain ⟨rfl, -⟩ := rest
      cases same
    · obtain ⟨-, rfl⟩ := rest
      exact ⟨ut, old.subset List.mem_cons_self⟩

theorem read_now {t : Nat} (gave : (production .now).Gave t past) : ⟨.now, t⟩ ∈ past := by
  obtain ⟨before, after, ⟨t', rfl, rfl⟩, old⟩ := gave
  exact old.subset List.mem_cons_self

end read

/-! ### Records that are written -/

/-- The requests that leave a document of a request that waits, a session or a code. -/
inductive Puts : BackendOp → Past Fs → FsOp → Prop where
  | interaction {now : Past Fs} (i : Interaction) (t : Nat) (clock : ⟨.now, t⟩ ∈ now) :
      Puts (.store (.save_interaction i)) now
        (.set_doc .interactions i.uid (Interaction.to_fields i (t + INTERACTION_TTL_SECS)))
  | session {now : Past Fs} (s : Session) (t : Nat) (clock : ⟨.now, t⟩ ∈ now) :
      Puts (.store (.save_session s)) now (.set_doc .sessions s.sid (Session.to_fields s (t + SESSION_TTL_SECS)))
  | code {now : Past Fs} (c : AuthorizationCode) :
      Puts (.store (.save_code c)) now (.set_doc .authCodes c.code (AuthorizationCode.to_fields c))
  | taken {now : Past Fs} (code : String) (f : Fields) (ut : Nat)
      (read : ⟨.get_doc_with_update_time .authCodes code, .ok (some (f, ut))⟩ ∈ now) :
      Puts (.store (.take_code code)) now (.set_doc_if_unchanged .authCodes code (f.set "used" (.boolean true)) ut)
  | linked {now : Past Fs} (code access_token : String) (refresh_token : Option String) :
      Puts (.store (.link_issued_tokens code access_token refresh_token)) now
        (.merge_doc .authCodes code (FirestoreStore.link_fields access_token refresh_token))

/-- The collections in which the authorization code flow keeps its records. -/
def FlowCol : Col → Prop
  | .interactions | .sessions | .authCodes | .parRequests => True
  | _ => False

private theorem asked_delete {below now : Past Fs} {col : Col} {id : Option String} {asked : FsOp}
    (asks : (FirestoreStore.delete_named col id).Asks below asked now) (found : Option Fields) : asked.makes found = none := by
  cases id with
  | none => exact asks.elim
  | some id =>
    rcases asks with ⟨rfl, -⟩ | ⟨_, rest⟩
    · rfl
    · exact rest.elim

/-- Whatever leaves a document of the flow is one of these. -/
theorem puts_of_asks {o : BackendOp} {below now : Past Fs} {asked : FsOp} (asks : (production o).Asks below asked now)
    {key : Col × String} (flow : FlowCol key.1) (writes : asked.writes = some key) {found : Option Fields} {f : Fields}
    (makes : asked.makes found = some f) : Puts o now asked := by
  have within := (production_uses o).asks asks
  have printed : Footprint o asked := within.resolve_left fun none => by rw [none] at writes; cases writes
  have other : ∀ {col : Col} {id : String}, asked.writes = some (col, id) → ¬FlowCol col → Puts o now asked := by
    intro col id same differs
    obtain rfl := Option.some.inj (writes.symm.trans same)
    exact absurd flow differs
  have gone : ∀ {col : Col} {id : String}, asked = .delete_doc col id → Puts o now asked := by
    rintro col id rfl
    cases makes
  cases o with
  | now => exact printed.elim
  | ciba o =>
    cases o with
    | create | transition_if_pending | consume_if_approved | record_history => exact other printed (by simp [FlowCol])
    | delete => exact gone printed
    | sweep_expired =>
      rcases printed with ⟨_, same⟩ | ⟨_, same⟩
      · exact gone same
      · exact other same (by simp [FlowCol])
    | _ => exact printed.elim
  | store o =>
    cases o with
    | save_interaction i =>
      rcases asks with ⟨rfl, -⟩ | ⟨t, ⟨rfl, rfl⟩ | ⟨_, rest⟩⟩
      · cases writes
      · exact .interaction i t List.mem_cons_self
      · exact rest.elim
    | save_session s =>
      rcases asks with ⟨rfl, -⟩ | ⟨t, ⟨rfl, rfl⟩ | ⟨_, rest⟩⟩
      · cases writes
      · exact .session s t List.mem_cons_self
      · exact rest.elim
    | save_code c =>
      rcases asks with ⟨rfl, rfl⟩ | ⟨_, rest⟩
      · exact .code c
      · exact rest.elim
    | take_code code =>
      rcases asks with ⟨rfl, -⟩ | ⟨answer, rest⟩
      · cases writes
      · rcases answer with e | _ | ⟨f, ut⟩
        · exact rest.elim
        · exact rest.elim
        · dsimp only [Prog.bind, Prog.pure_eq] at rest
          split at rest
          · rcases Prog.asks_bind.mp rest with first | ⟨_, _, _, rest⟩
            · cases (asked_delete first found).symm.trans makes
            · rcases Prog.asks_bind.mp rest with second | ⟨_, _, _, rest⟩
              · cases (asked_delete second found).symm.trans makes
              · exact rest.elim
          · rcases rest with ⟨rfl, rfl⟩ | ⟨won, rest⟩
            · exact .taken code f ut List.mem_cons_self
            · rcases won with e | _ | _ <;> exact rest.elim
    | link_issued_tokens code access_token refresh_token =>
      rcases asks with ⟨rfl, rfl⟩ | ⟨_, rest⟩
      · exact .linked code access_token refresh_token
      · exact rest.elim
    | consume_interaction uid =>
      rcases asks with ⟨rfl, -⟩ | ⟨answer, rest⟩
      · cases writes
      · rcases answer with e | _ | ⟨f, ut⟩
        · exact rest.elim
        · exact rest.elim
        · rcases rest with ⟨rfl, -⟩ | ⟨won, rest⟩
          · cases makes
          · rcases won with e | _ | _ <;> exact rest.elim
    | delete_session sid =>
      rcases asks with ⟨rfl, -⟩ | ⟨_, rest⟩
      · cases makes
      · exact rest.elim
    | save_access_token | consume_mandate_if_unused | save_refresh_token | mark_refresh_used =>
      exact other printed (by simp [FlowCol])
    | revoke_access_token | revoke_refresh_token => exact gone printed
    | revoke_refresh_family =>
      obtain ⟨_, same⟩ := printed
      exact gone same
    | _ => exact printed.elim

end RustOp.Firestore
