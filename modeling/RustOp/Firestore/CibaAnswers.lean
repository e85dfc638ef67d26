import RustOp.Firestore.Contract
import RustOp.Firestore.Lineage

/-!
What an operation on backchannel requests comes down to, read backwards: which
document a request was read from, and what a document was written for.
-/
namespace RustOp.Firestore
open RustOp.Effects

/-- The collections of the backchannel requests and of their outcomes. -/
def CibaCol : Col → Prop
  | .cibaRequests | .cibaHistory => True
  | _ => False

/-! ### Requests that were read -/

section read
variable {past : Past Fs} {id : String} {r : BackchannelAuthRequest}

theorem got_request (gave : (production (.ciba (.get id))).Gave (.ok (some r)) past) :
    ∃ f, ⟨.get_doc .cibaRequests id, .ok (some f)⟩ ∈ past ∧ BackchannelAuthRequest.from_fields id f = r := by
  obtain ⟨before, after, leads, old⟩ := gave
  obtain ⟨answer, same, rfl⟩ := leads
  rcases answer with e | _ | f
  · cases same
  · cases same
  · cases same
    exact ⟨f, old.subset List.mem_cons_self, rfl⟩

/-- A request is consumed by the caller that deletes it approved. -/
theorem consumed_request (gave : (production (.ciba (.consume_if_approved id))).Gave (.ok (some r)) past) :
    ∃ f ut, ⟨.get_doc_with_update_time .cibaRequests id, .ok (some (f, ut))⟩ ∈ past ∧
      ⟨.delete_doc_if_unchanged .cibaRequests id ut, .ok true⟩ ∈ past ∧ BackchannelAuthRequest.from_fields id f = r ∧
      r.status = .Approved := by
  obtain ⟨before, after, leads, old⟩ := gave
  obtain ⟨answer, rest⟩ := leads
  rcases answer with e | _ | ⟨f, ut⟩
  · cases rest.1
  · cases rest.1
  · dsimp only [Prog.bind, Prog.pure_eq] at rest
    split at rest
    · cases rest.1
    · rename_i approved
      obtain ⟨won, rest⟩ := rest
      rcases won with e | _ | _
      · cases rest.1
      · cases rest.1
      · obtain ⟨same, rfl⟩ := rest
        cases same
        exact ⟨f, ut, old.subset (by simp), old.subset (by simp), rfl, not_not.mp approved⟩

/-- Whoever moved a request found it pending, and it had not changed. -/
theorem moved_request {status : CibaStatus} (gave : (production (.ciba (.transition_if_pending id status))).Gave (.ok true) past) :
    ∃ f ut, ⟨.get_doc_with_update_time .cibaRequests id, .ok (some (f, ut))⟩ ∈ past ∧
      (BackchannelAuthRequest.from_fields id f).status = .Pending ∧
      ⟨.set_doc_if_unchanged .cibaRequests id
        (BackchannelAuthRequest.fields { BackchannelAuthRequest.from_fields id f with status }) ut, .ok true⟩ ∈ past := by
  obtain ⟨before, after, leads, old⟩ := gave
  obtain ⟨answer, rest⟩ := leads
  rcases answer with e | _ | ⟨f, ut⟩
  · cases rest.1
  · cases rest.1
  · dsimp only [Prog.bind, Prog.pure_eq] at rest
    split at rest
    · cases rest.1
    · rename_i pending
      obtain ⟨won, same, rfl⟩ := rest
      subst same
      exact ⟨f, ut, old.subset (by simp), not_not.mp pending, old.subset (by simp)⟩

private theorem kept_pending (rows : List (String × Fields)) {before after : Past Fs} {rs : List BackchannelAuthRequest}
    (leads : (FirestoreCibaStore.keep_pending rows).Leads before rs after) : before <:+ after ∧ ∀ r ∈ rs, ∃ id f, (id, f) ∈ rows ∧
      BackchannelAuthRequest.from_fields id f = r ∧ r.status = .Pending := by
  induction rows generalizing before rs with
  | nil =>
    obtain ⟨rfl, rfl⟩ := leads
    exact ⟨List.suffix_refl _, fun r listed => by cases listed⟩
  | cons row rows ih =>
    obtain ⟨id, f⟩ := row
    have rest : ∀ {before rs}, (FirestoreCibaStore.keep_pending rows).Leads before rs after → before <:+ after ∧
        ∀ r ∈ rs, ∃ id' f', (id', f') ∈ (id, f) :: rows ∧ BackchannelAuthRequest.from_fields id' f' = r ∧ r.status = .Pending := by
      intro before rs leads
      obtain ⟨old, found⟩ := ih leads
      refine ⟨old, fun r listed => ?_⟩
      obtain ⟨id', f', there, same, pending⟩ := found r listed
      exact ⟨id', f', List.mem_cons_of_mem _ there, same, pending⟩
    unfold FirestoreCibaStore.keep_pending at leads
    dsimp only at leads
    split at leads
    · rename_i pending
      obtain ⟨t, leads⟩ := leads
      change (FirestoreCibaStore.keep_pending rows >>= fun kept => Prog.ret
        (if (BackchannelAuthRequest.from_fields id f).expired t then kept
          else BackchannelAuthRequest.from_fields id f :: kept)).Leads _ _ _ at leads
      obtain ⟨kept, mid, leads, same, rfl⟩ := Prog.leads_bind.mp leads
      obtain ⟨old, found⟩ := rest leads
      refine ⟨(List.suffix_cons _ _).trans old, fun r listed => ?_⟩
      rw [same] at listed
      split at listed
      · exact found r listed
      · rcases List.mem_cons.mp listed with rfl | more
        · exact ⟨id, f, List.mem_cons_self, rfl, pending⟩
        · exact found r more
    · exact rest leads

/-- What is listed was found by its account, waiting. -/
theorem listed_pending {account : String} {rs : List BackchannelAuthRequest}
    (gave : (production (.ciba (.list_pending account))).Gave (.ok rs) past) : ∀ r ∈ rs, ∃ rows id f,
      ⟨.query_eq .cibaRequests "account" account, .ok rows⟩ ∈ past ∧ (id, f) ∈ rows ∧
      BackchannelAuthRequest.from_fields id f = r ∧ r.status = .Pending := by
  obtain ⟨before, after, ⟨answer, rest⟩, old⟩ := gave
  rcases answer with e | rows
  · cases rest.1
  · change (FirestoreCibaStore.keep_pending rows >>= fun kept => Prog.ret (Except.ok kept)).Leads _ _ _ at rest
    obtain ⟨rs', mid, leads, same, rfl⟩ := Prog.leads_bind.mp rest
    cases same
    obtain ⟨grown, found⟩ := kept_pending rows leads
    intro r listed
    obtain ⟨id, f, there, same, pending⟩ := found r listed
    exact ⟨rows, id, f, old.subset (grown.subset List.mem_cons_self), there, same, pending⟩

/-- What the history lists was found by its account, and the latest comes first. -/
theorem listed_history {account : String} {limit : Nat} {es : List CibaHistoryEntry}
    (gave : (production (.ciba (.list_history account limit))).Gave (.ok es) past) :
    es.length ≤ limit ∧ es.Pairwise (fun a b => b.resolved_at ≤ a.resolved_at) ∧ ∀ e ∈ es, ∃ rows id f,
      ⟨.query_eq .cibaHistory "account" account, .ok rows⟩ ∈ past ∧ (id, f) ∈ rows ∧ CibaHistoryEntry.from_fields id f = e := by
  obtain ⟨before, after, ⟨answer, rest⟩, old⟩ := gave
  rcases answer with e | rows
  · cases rest.1
  · obtain ⟨same, rfl⟩ := rest
    cases same
    refine ⟨List.length_take_le .., ?_, fun e listed => ?_⟩
    · have sorted := @List.pairwise_mergeSort _ (fun a b : CibaHistoryEntry => decide (b.resolved_at ≤ a.resolved_at))
        (fun a b c first second => by simp only [decide_eq_true_eq] at *; omega) (fun a b => by simp; omega)
        (rows.map fun row => CibaHistoryEntry.from_fields row.1 row.2)
      exact (sorted.imp fun latest => of_decide_eq_true latest).sublist (List.take_sublist ..)
    · have found := List.mem_mergeSort.mp (List.mem_of_mem_take listed)
      obtain ⟨⟨id, f⟩, there, rfl⟩ := List.mem_map.mp found
      exact ⟨rows, id, f, old.subset List.mem_cons_self, there, rfl⟩

end read

/-! ### Documents that are written -/

/-- The requests to Firestore that leave a document of a backchannel request or of
    its outcome. -/
inductive CibaPuts : BackendOp → Past Fs → FsOp → Prop where
  | created {now : Past Fs} (id client_id account scope binding_message : String) (details : Option String) (t : Nat)
      (clock : ⟨.now, t⟩ ∈ now) : CibaPuts (.ciba (.create id client_id account scope binding_message details)) now
        (.set_doc .cibaRequests id (BackchannelAuthRequest.fields
          ⟨id, client_id, account, scope, binding_message, .Pending, t + CIBA_TTL_SECS, details⟩))
  | moved {now : Past Fs} (id : String) (status : CibaStatus) (f : Fields) (ut : Nat)
      (read : ⟨.get_doc_with_update_time .cibaRequests id, .ok (some (f, ut))⟩ ∈ now)
      (pending : (BackchannelAuthRequest.from_fields id f).status = .Pending) :
      CibaPuts (.ciba (.transition_if_pending id status)) now (.set_doc_if_unchanged .cibaRequests id
        (BackchannelAuthRequest.fields { BackchannelAuthRequest.from_fields id f with status }) ut)
  | recorded {now : Past Fs} (entry : CibaHistoryEntry) : CibaPuts (.ciba (.record_history entry)) now
      (.set_doc .cibaHistory entry.auth_req_id (CibaHistoryEntry.fields entry))
  | swept {now : Past Fs} (account id : String) (f : Fields) (rows : List (String × Fields)) (t t' : Nat)
      (read : ⟨.query_eq .cibaRequests "account" account, .ok rows⟩ ∈ now) (listed : (id, f) ∈ rows)
      (pending : (BackchannelAuthRequest.from_fields id f).status = .Pending) (clock : ⟨.now, t⟩ ∈ now)
      (later : ⟨.now, t'⟩ ∈ now) (expired : (BackchannelAuthRequest.from_fields id f).expired t' = true) :
      CibaPuts (.ciba (.sweep_expired account)) now (.set_doc .cibaHistory id
        (CibaHistoryEntry.fields (.from_request (BackchannelAuthRequest.from_fields id f) "expired" t)))

private theorem swept_of_asks {account : String} {t : Nat} {rows listed : List (String × Fields)} {below now : Past Fs}
    {asked : FsOp} (asks : (FirestoreCibaStore.sweep_rows t listed).Asks below asked now) {key : Col × String}
    (writes : asked.writes = some key) {found : Option Fields} {f : Fields} (makes : asked.makes found = some f)
    (read : ⟨.query_eq .cibaRequests "account" account, .ok rows⟩ ∈ below) (subset : listed ⊆ rows)
    (clock : ⟨.now, t⟩ ∈ below) : CibaPuts (.ciba (.sweep_expired account)) now asked := by
  induction listed generalizing below with
  | nil => exact asks.elim
  | cons row rest ih =>
    obtain ⟨id, g⟩ := row
    have here : (id, g) ∈ rows := subset List.mem_cons_self
    have others : rest ⊆ rows := fun x listed => subset (List.mem_cons_of_mem _ listed)
    unfold FirestoreCibaStore.sweep_rows at asks
    dsimp only at asks
    split at asks
    · rename_i pending
      rcases asks with ⟨rfl, -⟩ | ⟨t', asks⟩
      · cases writes
      · dsimp only [Prog.bind, Prog.pure_eq] at asks
        split at asks
        · rename_i expired
          rcases asks with ⟨rfl, rfl⟩ | ⟨_, ⟨rfl, rfl⟩ | ⟨_, asks⟩⟩
          · exact .swept account id g rows t t' (List.mem_cons_of_mem _ read) here pending (List.mem_cons_of_mem _ clock)
              List.mem_cons_self expired
          · cases makes
          · change (FirestoreCibaStore.sweep_rows t rest >>= fun n => Prog.ret (n + 1)).Asks _ _ _ at asks
            rcases Prog.asks_bind.mp asks with asks | ⟨_, _, _, asks⟩
            · exact ih asks (by simp [read]) others (by simp [clock])
            · exact asks.elim
        · exact ih asks (List.mem_cons_of_mem _ read) others (List.mem_cons_of_mem _ clock)
    · exact ih asks read others clock

/-- Whatever leaves such a document is one of these. -/
theorem cibaPuts_of_asks {o : BackendOp} {below now : Past Fs} {asked : FsOp} (asks : (production o).Asks below asked now)
    {key : Col × String} (here : CibaCol key.1) (writes : asked.writes = some key) {found : Option Fields} {f : Fields}
    (makes : asked.makes found = some f) : CibaPuts o now asked := by
  have within := (production_uses o).asks asks
  have printed : Footprint o asked := within.resolve_left fun none => by rw [none] at writes; cases writes
  have other : ∀ {col : Col} {id : String}, asked.writes = some (col, id) → ¬CibaCol col → CibaPuts o now asked := by
    intro col id same differs
    obtain rfl := Option.some.inj (writes.symm.trans same)
    exact absurd here differs
  have gone : ∀ {col : Col} {id : String}, asked = .delete_doc col id → CibaPuts o now asked := by
    rintro col id rfl
    cases makes
  cases o with
  | now => exact printed.elim
  | store o =>
    cases o with
    | take_code =>
      rcases printed with same | ⟨_, same⟩ | ⟨_, same⟩
      · exact other same (by simp [CibaCol])
      · exact gone same
      · exact gone same
    | revoke_access_token | revoke_refresh_token => exact gone printed
    | revoke_refresh_family =>
      obtain ⟨_, same⟩ := printed
      exact gone same
    | save_interaction | consume_interaction | save_session | delete_session | save_code | link_issued_tokens
    | save_access_token | consume_mandate_if_unused | save_refresh_token | mark_refresh_used =>
      exact other printed (by simp [CibaCol])
    | _ => exact printed.elim
  | ciba o =>
    cases o with
    | create id client_id account scope binding_message details =>
      rcases asks with ⟨rfl, -⟩ | ⟨t, ⟨rfl, rfl⟩ | ⟨won, rest⟩⟩
      · cases writes
      · exact .created id client_id account scope binding_message details t List.mem_cons_self
      · rcases won with e | _ <;> exact rest.elim
    | transition_if_pending id status =>
      rcases asks with ⟨rfl, -⟩ | ⟨answer, rest⟩
      · cases writes
      · rcases answer with e | _ | ⟨g, ut⟩
        · exact rest.elim
        · exact rest.elim
        · dsimp only [Prog.bind, Prog.pure_eq] at rest
          split at rest
          · exact rest.elim
          · rename_i pending
            rcases rest with ⟨rfl, rfl⟩ | ⟨_, rest⟩
            · exact .moved id status g ut List.mem_cons_self (not_not.mp pending)
            · exact rest.elim
    | consume_if_approved id =>
      rcases asks with ⟨rfl, -⟩ | ⟨answer, rest⟩
      · cases writes
      · rcases answer with e | _ | ⟨g, ut⟩
        · exact rest.elim
        · exact rest.elim
        · dsimp only [Prog.bind, Prog.pure_eq] at rest
          split at rest
          · exact rest.elim
          · rcases rest with ⟨rfl, -⟩ | ⟨won, rest⟩
            · cases makes
            · rcases won with e | _ | _ <;> exact rest.elim
    | delete => exact gone printed
    | record_history entry =>
      rcases asks with ⟨rfl, rfl⟩ | ⟨_, rest⟩
      · exact .recorded entry
      · exact rest.elim
    | sweep_expired account =>
      rcases asks with ⟨rfl, -⟩ | ⟨answer, rest⟩
      · cases writes
      · rcases answer with e | rows
        · exact rest.elim
        · rcases rest with ⟨rfl, -⟩ | ⟨t, rest⟩
          · cases writes
          · change (FirestoreCibaStore.sweep_rows t rows >>= fun n => Prog.ret (Except.ok n)).Asks _ _ _ at rest
            rcases Prog.asks_bind.mp rest with asks | ⟨_, _, _, rest⟩
            · exact swept_of_asks asks writes makes (by simp) (List.Subset.refl rows) List.mem_cons_self
            · exact rest.elim
    | _ => exact printed.elim

/-- Only a request that was read approved is deleted as unchanged. -/
theorem deletes_of_asks {o : BackendOp} {below now : Past Fs} {id : String} {ut : Nat}
    (asks : (production o).Asks below (.delete_doc_if_unchanged .cibaRequests id ut) now) :
    ∃ f, ⟨.get_doc_with_update_time .cibaRequests id, .ok (some (f, ut))⟩ ∈ now ∧
      (BackchannelAuthRequest.from_fields id f).status = .Approved := by
  have printed : Footprint o (.delete_doc_if_unchanged .cibaRequests id ut) :=
    ((production_uses o).asks asks).resolve_left fun none => by cases none
  cases o with
  | now => exact printed.elim
  | store o =>
    cases o with
    | take_code => rcases printed with same | ⟨_, same⟩ | ⟨_, same⟩ <;> cases same
    | revoke_refresh_family =>
      obtain ⟨_, same⟩ := printed
      cases same
    | save_interaction | consume_interaction | save_session | delete_session | save_code | link_issued_tokens
    | save_access_token | revoke_access_token | consume_mandate_if_unused | save_refresh_token | revoke_refresh_token
    | mark_refresh_used => cases printed
    | _ => exact printed.elim
  | ciba o =>
    cases o with
    | create id client_id account scope binding_message details =>
      rcases asks with ⟨wrong, -⟩ | ⟨t, ⟨wrong, -⟩ | ⟨won, rest⟩⟩
      · cases wrong
      · cases wrong
      · rcases won with e | _ <;> exact rest.elim
    | transition_if_pending id status =>
      rcases asks with ⟨wrong, -⟩ | ⟨answer, rest⟩
      · cases wrong
      · rcases answer with e | _ | ⟨g, ut⟩
        · exact rest.elim
        · exact rest.elim
        · dsimp only [Prog.bind, Prog.pure_eq] at rest
          split at rest
          · exact rest.elim
          · rcases rest with ⟨wrong, -⟩ | ⟨_, rest⟩
            · cases wrong
            · exact rest.elim
    | consume_if_approved id =>
      rcases asks with ⟨wrong, -⟩ | ⟨answer, rest⟩
      · cases wrong
      · rcases answer with e | _ | ⟨g, ut⟩
        · exact rest.elim
        · exact rest.elim
        · dsimp only [Prog.bind, Prog.pure_eq] at rest
          split at rest
          · exact rest.elim
          · rename_i approved
            rcases rest with ⟨same, rfl⟩ | ⟨won, rest⟩
            · cases same
              exact ⟨g, List.mem_cons_self, not_not.mp approved⟩
            · rcases won with e | _ | _ <;> exact rest.elim
    | delete | record_history => cases printed
    | sweep_expired => rcases printed with ⟨_, same⟩ | ⟨_, same⟩ <;> cases same
    | _ => exact printed.elim

end RustOp.Firestore
