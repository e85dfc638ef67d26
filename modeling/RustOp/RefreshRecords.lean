import RustOp.Deployment
import RustOp.Firestore.Footprint

/-!
The refresh tokens a store holds, expired ones included, and how a token leads
to others: a walk of a revocation follows these links through whatever is there.
Both stores write such a record in two operations only.
-/
namespace RustOp
open RustOp.Effects RustOp.Memory

/-- `x` is met from `t` along the links of the records. -/
inductive Reaches (record : String → Option RefreshToken) : String → String → Prop where
  | here (t : String) : Reaches record t t
  | next {t n x : String} {r : RefreshToken} (stored : record t = some r) (link : r.replaced_by = some n)
      (rest : Reaches record n x) : Reaches record t x

theorem Reaches.mono {record record' : String → Option RefreshToken} (more : ∀ t r, record t = some r → record' t = some r)
    {t x : String} (path : Reaches record t x) : Reaches record' t x := by
  induction path with
  | here t => exact .here t
  | next stored link _ ih => exact .next (more _ _ stored) link ih

/-- What the links keep, every token on the way has. -/
theorem Reaches.keeps {T : Type} {record : String → Option RefreshToken} {family : String → T}
    (linked : ∀ t r n, record t = some r → r.replaced_by = some n → family n = family t) {t x : String}
    (path : Reaches record t x) : family x = family t := by
  induction path with
  | here t => rfl
  | next stored link _ ih => rw [ih, linked _ _ _ stored link]

/-- How an operation can write a record. -/
inductive Wrote (record : String → Option RefreshToken) : (o : BackendOp) → o.Res → String → RefreshToken → Prop where
  | saved (r : RefreshToken) : Wrote record (.store (.save_refresh_token r)) () r.token r
  | marked (t : String) (n next : Option String) (r : RefreshToken) (stored : record t = some r)
      (link : next = n ∨ next = r.replaced_by) :
      Wrote record (.store (.mark_refresh_used t n)) true t { r with used := true, replaced_by := next }

/-- A store shows the records it holds, writes them in two operations, and takes
    away no more than a walk reaches. -/
structure RefreshRecords {σ : Type} {h : Prog.Handler Backend σ} (S : TokenStore σ h) where
  record : σ → String → Option RefreshToken
  shown : ∀ {s t r}, (S.view s).refresh t = some r → record s t = some r
  env : ∀ {s s' t r}, S.Env s s' → record s' t = some r → record s t = some r
  step : ∀ {o s t r}, record (h o s).2 t = some r → record s t = some r ∨ Wrote (record s) o (h o s).1 t r
  walk : ∀ {s t x r}, (S.view s).refresh x = some r → (S.view (h (.store (.revoke_refresh_family t)) s).2).refresh x = some r ∨
    Reaches (record s) t x
  won : ∀ {s t n}, (h (.store (.mark_refresh_used t n)) s).1 = true → ∃ r, record s t = some r
  lost : ∀ {s t n}, (h (.store (.mark_refresh_used t n)) s).1 = false →
    S.view (h (.store (.mark_refresh_used t n)) s).2 = S.view s

namespace Memory

def record (m : Mem) (t : String) : Option RefreshToken := (m.store.refresh_tokens.get t).map Expiring.value

private theorem record_remove {map : Table String (Expiring RefreshToken)} {k t : String} {r : RefreshToken}
    (stored : ((map.remove k).get t).map Expiring.value = some r) : (map.get t).map Expiring.value = some r := by
  rw [Table.get_remove] at stored
  split at stored
  · cases stored
  · exact stored

private theorem record_get_alive {map : Table String (Expiring RefreshToken)} {now : Nat} {k t : String} {r : RefreshToken}
    (stored : ((get_alive now k map).2.get t).map Expiring.value = some r) : (map.get t).map Expiring.value = some r := by
  unfold get_alive at stored
  split at stored
  · split at stored
    · exact stored
    · exact record_remove stored
  · exact stored

private theorem walk_reaches (guard : Nat) (start : Option String) (map : Table String (Expiring RefreshToken)) (x : String)
    (e : Expiring RefreshToken) (stored : map.get x = some e) : (revoke_chain guard start map).get x = some e ∨
      ∃ t, start = some t ∧ Reaches (fun t => (map.get t).map Expiring.value) t x := by
  induction guard generalizing start map with
  | zero => exact .inl stored
  | succ guard ih =>
    cases start with
    | none => exact .inl stored
    | some t =>
      by_cases same : x = t
      · subst same
        exact .inr ⟨x, rfl, .here x⟩
      · rcases ih ((map.get t).bind fun e => e.value.replaced_by) (map.remove t) (by rw [Table.get_remove_ne _ same, stored]) with
          kept | ⟨n, link, path⟩
        · exact .inl kept
        · obtain ⟨e', found, link⟩ := Option.bind_eq_some_iff.mp link
          have found : (map.get t).map Expiring.value = some e'.value := by rw [found]; rfl
          exact .inr ⟨t, rfl, .next found link (path.mono fun _ _ => record_remove)⟩

private theorem record_step {o : BackendOp} {m : Mem} {t : String} {r : RefreshToken}
    (stored : record (exec o m).2 t = some r) : record m t = some r ∨ Wrote (record m) o (exec o m).1 t r := by
  cases o with
  | now => exact .inl stored
  | ciba o => exact .inl stored
  | store o =>
    cases o with
    | save_refresh_token x =>
      by_cases same : t = x.token
      · subst same
        simp only [record, exec, MemoryStore.exec, Table.get_set_self, Option.map_some, Option.some.injEq] at stored
        subst stored
        exact .inr (.saved x)
      · simp only [record, exec, MemoryStore.exec, Table.get_set_ne _ same] at stored
        exact .inl stored
    | mark_refresh_used k n =>
      simp only [exec, MemoryStore.exec, MemoryStore.mark_refresh_used] at stored ⊢
      cases found : m.store.refresh_tokens.get k with
      | none =>
        rw [found] at stored
        exact .inl stored
      | some e =>
        rw [found] at stored
        cases fits : e.alive m.clock && !e.value.used with
        | false =>
          simp only [fits] at stored
          exact .inl stored
        | true =>
          simp only [fits, ↓reduceIte] at stored ⊢
          by_cases same : t = k
          · subst same
            simp only [record, Table.get_set_self, Option.map_some, Option.some.injEq] at stored
            subst stored
            exact .inr (.marked t n n e.value (by rw [record, found]; rfl) (.inl rfl))
          · simp only [record, Table.get_set_ne _ same] at stored
            exact .inl stored
    | get_refresh_token k => exact .inl (record_get_alive stored)
    | revoke_refresh_token k => exact .inl (record_remove stored)
    | revoke_refresh_family k =>
      obtain ⟨kept, walk⟩ := revoke_chain_kept FAMILY_GUARD (some k) m.store.refresh_tokens
      simp only [record, exec, MemoryStore.exec, walk] at stored
      split at stored
      · exact .inl stored
      · cases stored
    | take_code c =>
      simp only [record, exec, MemoryStore.exec, MemoryStore.take_code] at stored
      split at stored
      · exact .inl stored
      · split at stored
        · exact .inl stored
        · split at stored
          · rename_i e _ _ _
            cases issued : e.value.issued_refresh with
            | none =>
              simp only [issued] at stored
              exact .inl stored
            | some t' =>
              simp only [issued] at stored
              exact .inl (record_remove stored)
          · exact .inl stored
    | sweep_expired =>
      simp only [record, exec, MemoryStore.exec, retain_alive, Table.get_retain] at stored
      obtain ⟨e, kept, rfl⟩ := Option.map_eq_some_iff.mp stored
      rw [Option.filter_eq_some_iff] at kept
      exact .inl (by rw [record, kept.1]; rfl)
    | link_issued_tokens c a n =>
      simp only [record, exec, MemoryStore.exec, MemoryStore.link_issued_tokens] at stored
      split at stored <;> exact .inl stored
    | consume_mandate_if_unused k =>
      simp only [record, exec, MemoryStore.exec, MemoryStore.consume_mandate_if_unused] at stored
      split at stored
      · split at stored <;> exact .inl stored
      · exact .inl stored
    | _ => exact .inl stored

/-- Memory keeps its refresh tokens in a map. -/
def refreshRecords : RefreshRecords tokenStore where
  record := record
  shown := by
    intro m t r shown
    obtain ⟨e, stored, -, rfl⟩ := live_eq_some.1 shown
    rw [record, stored]
    rfl
  env := by
    rintro m m' t r (⟨t', later⟩ | ⟨⟩) stored
    · exact stored
    · rcases record_step stored with before | wrote
      · exact before
      · cases wrote
  step := record_step
  walk := by
    intro m t x r shown
    obtain ⟨e, stored, alive, rfl⟩ := live_eq_some.1 shown
    rcases walk_reaches FAMILY_GUARD (some t) m.store.refresh_tokens x e stored with kept | ⟨t', start, path⟩
    · exact .inl (live_eq_some.2 ⟨e, kept, alive, rfl⟩)
    · cases start
      exact .inr path
  won := by
    intro m t n won
    simp only [exec, MemoryStore.exec, MemoryStore.mark_refresh_used] at won
    cases found : m.store.refresh_tokens.get t with
    | none => simp [found] at won
    | some e => exact ⟨e.value, by rw [record, found]; rfl⟩
  lost := by
    intro m t n lost
    simp only [exec, MemoryStore.exec, MemoryStore.mark_refresh_used] at lost ⊢
    cases found : m.store.refresh_tokens.get t with
    | none => rfl
    | some e =>
      cases fits : e.alive m.clock && !e.value.used with
      | false =>
        dsimp only
        rw [fits]
        rfl
      | true => simp [found, fits] at lost

end Memory

namespace Firestore

def record (db : Db) (t : String) : Option RefreshToken :=
  (db.docs.get (.refreshTokens, t)).map fun doc => rt_from_fields t doc.fields

/-- Apart from the two operations that write records, documents of refresh tokens
    are deleted only. -/
private theorem only_deletes {o : BackendOp} {f : FsOp} (within : Within o f) {id : String}
    (writes : f.writes = some (.refreshTokens, id)) : f = .delete_doc .refreshTokens id ∨
      (∃ r, o = .store (.save_refresh_token r)) ∨ ∃ t n, o = .store (.mark_refresh_used t n) := by
  rcases within with reads | footprint
  · rw [reads] at writes
    cases writes
  · cases o with
    | now => exact footprint.elim
    | ciba o =>
      cases o with
      | create | transition_if_pending | consume_if_approved | record_history =>
        simp only [Footprint] at footprint
        rw [footprint] at writes
        cases writes
      | delete r =>
        simp only [Footprint] at footprint
        rw [footprint] at writes
        cases writes
      | sweep_expired a =>
        rcases footprint with ⟨r, rfl⟩ | ⟨r, footprint⟩
        · cases writes
        · rw [footprint] at writes
          cases writes
      | _ => exact footprint.elim
    | store o =>
      cases o with
      | save_refresh_token r => exact .inr (.inl ⟨r, rfl⟩)
      | mark_refresh_used t n => exact .inr (.inr ⟨t, n, rfl⟩)
      | revoke_refresh_token t =>
        simp only [Footprint] at footprint
        subst footprint
        cases writes
        exact .inl rfl
      | revoke_refresh_family t =>
        obtain ⟨t', rfl⟩ := footprint
        cases writes
        exact .inl rfl
      | take_code c =>
        rcases footprint with footprint | ⟨t, rfl⟩ | ⟨t, rfl⟩
        · rw [footprint] at writes
          cases writes
        · cases writes
        · cases writes
          exact .inl rfl
      | revoke_access_token t =>
        simp only [Footprint] at footprint
        rw [footprint] at writes
        cases writes
      | save_interaction | consume_interaction | save_session | delete_session | save_code | link_issued_tokens |
          save_access_token | consume_mandate_if_unused =>
        simp only [Footprint] at footprint
        rw [footprint] at writes
        cases writes
      | _ => exact footprint.elim

/-- A request that deletes at most takes records away. -/
private theorem record_exec {f : FsOp} (deletes : ∀ id, f.writes = some (.refreshTokens, id) → f = .delete_doc .refreshTokens id)
    {db : Db} {t : String} {r : RefreshToken} (stored : record (exec f db).2 t = some r) : record db t = some r := by
  by_cases here : f.writes = some (.refreshTokens, t)
  · rw [deletes t here] at stored
    simp [record, exec, get_erase] at stored
  · rwa [record, exec_frame here] at stored

private theorem record_step {o : BackendOp} {db : Db} {t : String} {r : RefreshToken}
    (stored : record (storage o db).2 t = some r) : record db t = some r ∨ Wrote (record db) o (storage o db).1 t r := by
  by_cases writer : (∃ r, o = .store (.save_refresh_token r)) ∨ ∃ t n, o = .store (.mark_refresh_used t n)
  · rcases writer with ⟨x, rfl⟩ | ⟨k, n, rfl⟩
    · have written : (storage (.store (.save_refresh_token x)) db).2 =
          db.write (.refreshTokens, x.token) (RefreshToken.to_fields x (db.clock + REFRESH_TTL_SECS)) := rfl
      rw [written, record, get_write] at stored
      by_cases same : t = x.token
      · subst same
        rw [if_pos rfl, Option.map_some, rt_from_to_fields] at stored
        cases stored
        exact .inr (.saved _)
      · rw [if_neg (by simpa using same)] at stored
        exact .inl stored
    · cases found : db.docs.get (.refreshTokens, k) with
      | none =>
        have same : storage (.store (.mark_refresh_used k n)) db = (false, db) := by
          simp [storage, production, FirestoreStore.run, FirestoreStore.mark_refresh_used, exec, found]
        rw [same] at stored
        exact .inl stored
      | some doc =>
        cases used : (field_bool doc.fields "used").getD false with
        | true =>
          have same : storage (.store (.mark_refresh_used k n)) db = (false, db) := by
            simp [storage, production, FirestoreStore.run, FirestoreStore.mark_refresh_used, exec, found, used]
          rw [same] at stored
          exact .inl stored
        | false =>
          have ran : storage (.store (.mark_refresh_used k n)) db = (true, db.write (.refreshTokens, k)
              ((doc.fields.set "used" (.boolean true)).put "replacedBy" (n.map .string))) := by
            simp [storage, production, FirestoreStore.run, FirestoreStore.mark_refresh_used, exec, found, used, Db.unchanged]
          rw [ran] at stored ⊢
          rw [record, get_write] at stored
          by_cases same : t = k
          · subst same
            rw [if_pos rfl, Option.map_some, rt_from_fields_marked] at stored
            cases stored
            refine .inr (.marked t n _ (rt_from_fields t doc.fields) (by rw [record, found]; rfl) ?_)
            cases n with
            | none => exact .inr rfl
            | some n => exact .inl rfl
          · rw [if_neg (by simpa using same)] at stored
            exact .inl stored
  · refine .inl ?_
    have kept : ∀ s, (∀ t r, record s t = some r → record db t = some r) →
        ∀ t r, record (Prog.run exec (production o) s).2 t = some r → record db t = some r := by
      intro s before
      refine (production_uses o).preserves (I := fun s => ∀ t r, record s t = some r → record db t = some r) ?_ before
      intro f s within before t r stored
      refine before t r (record_exec (fun id writes => ?_) stored)
      exact (only_deletes within writes).resolve_right writer
    exact kept db (fun _ _ => id) t r stored

private theorem walk_reaches (guard : Nat) (start : Option String) (db : Db) (x : String) :
    (Prog.run exec (FirestoreStore.revoke_walk guard start) db).2.docs.get (.refreshTokens, x) =
      db.docs.get (.refreshTokens, x) ∨ ∃ t, start = some t ∧ Reaches (record db) t x := by
  induction guard generalizing start db with
  | zero => exact .inl rfl
  | succ guard ih =>
    cases start with
    | none => exact .inl rfl
    | some t =>
      by_cases same : x = t
      · subst same
        exact .inr ⟨x, rfl, .here x⟩
      · have still : (db.erase (.refreshTokens, t)).docs.get (.refreshTokens, x) = db.docs.get (.refreshTokens, x) := by
          rw [get_erase, if_neg (by simpa using same)]
        have less : ∀ k r, record (db.erase (.refreshTokens, t)) k = some r → record db k = some r :=
          fun k r stored => record_exec (f := .delete_doc .refreshTokens t) (fun id writes => by cases writes; rfl) stored
        cases read : (db.docs.get (.refreshTokens, t)).bind Db.readable with
        | none =>
          have ran : (Prog.run exec (FirestoreStore.revoke_walk (guard + 1) (some t)) db).2 =
              (Prog.run exec (FirestoreStore.revoke_walk guard none) (db.erase (.refreshTokens, t))).2 := by
            simp [FirestoreStore.revoke_walk, exec, read]
          rw [ran]
          rcases ih none (db.erase (.refreshTokens, t)) with kept | ⟨n, link, -⟩
          · exact .inl (kept.trans still)
          · cases link
        | some f =>
          have ran : (Prog.run exec (FirestoreStore.revoke_walk (guard + 1) (some t)) db).2 =
              (Prog.run exec (FirestoreStore.revoke_walk guard (field_str f "replacedBy")) (db.erase (.refreshTokens, t))).2 := by
            simp [FirestoreStore.revoke_walk, exec, read]
          rw [ran]
          rcases ih (field_str f "replacedBy") (db.erase (.refreshTokens, t)) with kept | ⟨n, link, path⟩
          · exact .inl (kept.trans still)
          · obtain ⟨doc, found, readable⟩ := Option.bind_eq_some_iff.mp read
            have fields : doc.fields = f := by
              unfold Db.readable at readable
              split at readable
              · cases readable
              · exact Option.some.inj readable
            have here : record db t = some (rt_from_fields t f) := by rw [record, found, Option.map_some, fields]
            exact .inr ⟨t, rfl, .next here link (path.mono less)⟩

/-- Firestore keeps its refresh tokens in a collection. -/
def refreshRecords : RefreshRecords tokenStore where
  record := record
  shown := by
    intro db t r shown
    obtain ⟨f, readable, rfl⟩ := Option.map_eq_some_iff.mp shown
    obtain ⟨doc, stored, rfl, -⟩ := unexpired_eq_some readable
    rw [record, stored]
    rfl
  env := by
    rintro db db' t r (⟨t', later, early⟩ | ⟨key, doc, there, past⟩) stored
    · exact stored
    · rw [record, get_erase] at stored
      split at stored
      · cases stored
      · exact stored
  step := record_step
  walk := by
    intro db t x r shown
    rcases walk_reaches 64 (some t) db x with kept | ⟨t', start, path⟩
    · refine .inl ?_
      have clock := storage_clock (.store (.revoke_refresh_family t)) db
      have kept : (storage (.store (.revoke_refresh_family t)) db).2.docs.get (.refreshTokens, x) =
          db.docs.get (.refreshTokens, x) := kept
      show (unexpired _ .refreshTokens x).map (rt_from_fields x) = some r
      rw [unexpired, clock, kept]
      exact shown
    · cases start
      exact .inr path
  won := by
    intro db t n won
    cases found : db.docs.get (.refreshTokens, t) with
    | none => simp [storage, production, FirestoreStore.run, FirestoreStore.mark_refresh_used, exec, found] at won
    | some doc => exact ⟨_, by rw [record, found]; rfl⟩
  lost := by
    intro db t n lost
    have same : (storage (.store (.mark_refresh_used t n)) db).2 = db := by
      cases found : db.docs.get (.refreshTokens, t) with
      | none => simp [storage, production, FirestoreStore.run, FirestoreStore.mark_refresh_used, exec, found]
      | some doc =>
        cases used : (field_bool doc.fields "used").getD false with
        | true => simp [storage, production, FirestoreStore.run, FirestoreStore.mark_refresh_used, exec, found, used]
        | false =>
          simp [storage, production, FirestoreStore.run, FirestoreStore.mark_refresh_used, exec, found, used,
            Db.unchanged] at lost
    rw [same]

end Firestore

/-- The records of each deployment. -/
def Deployment.refreshRecords : (d : Deployment) → RefreshRecords d.tokens
  | .memory => Memory.refreshRecords
  | .firestore => Firestore.refreshRecords

end RustOp
