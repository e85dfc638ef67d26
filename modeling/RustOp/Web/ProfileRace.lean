import RustOp.Effects.History
import RustOp.Web.Registration

/-!
Users edit their profile. A request reads the profile, merges its fields into it
and writes all of it back, so what another request wrote in between is lost. As
long as every request replaces the profile that it read, no edit is lost.
-/
namespace RustOp.Web
open RustOp.Effects RustOp.Firestore registration

/-- What the browser shows: only claims that are stored. -/
def profile_view (sub : String) (profile : Table String String) : Json :=
  .obj [("sub", .str sub), ("editable_fields", .arr (EDITABLE.map .str)),
    ("profile", .obj (profile.pairs.map fun e => (e.1, .str e.2)))]

/-- A profile is edited by the account of an access token, for a body that was
    parsed into fields. -/
def profile_put (account_id : String) (body : Except String (Table String String)) : Prog Fs Response := do
  match body with
  | .error e => return .text 400 ("invalid body: " ++ e)
  | .ok updates =>
  match ← save_profile account_id updates.pairs with
  | .error e => return .text 500 ("save: " ++ e)
  | .ok () =>
  let profile := ((← get_profile account_id).toOption).getD ∅
  return .json 200 (profile_view account_id profile)

namespace ProfileRace

/-! ### Profiles -/

/-- The editable fields of a document. -/
def profile_of (doc : Option Fields) : Table String String :=
  match doc with
  | none => ∅
  | some f => .ofEntries (EDITABLE.map fun k => (k, field_str f k))

theorem get_profile_of (doc : Option Fields) (k : String) :
    (profile_of doc).get k = if k ∈ EDITABLE then doc.bind fun f => field_str f k else none := by
  cases doc with
  | none => simp [profile_of]
  | some f => rw [profile_of, Table.get_ofEntries_map, Option.bind_some]

/-- The document that is written for a profile with edits. -/
def merged (id : String) (current updates : Table String String) : Fields :=
  (updates.pairs.foldl (fun t u => if u.1 ∈ EDITABLE then t.set u.1 u.2 else t) current).pairs.foldl
    (fun f e => f.set e.1 (.string e.2)) (.ofEntries [("email", some (.string id))])

/-- What is edited is as submitted, the rest as it was. -/
theorem get_merged (id : String) (current updates : Table String String) {k : String} (editable : k ∈ EDITABLE) :
    field_str (merged id current updates) k = (updates.get k).or (current.get k) := by
  have edited := Table.get_foldl_set_where (fun k => k ∈ EDITABLE) updates current k
  simp only [decide_eq_true_eq, editable, if_true] at edited
  have other : k ≠ "email" := by
    rintro rfl
    simp [EDITABLE] at editable
  rw [field_str, merged, Table.get_foldl_set, edited]
  cases (updates.get k).or (current.get k) with
  | some v => simp
  | none => simp [Table.ofEntries, Table.get_put, other]

theorem merged_ne_empty (id : String) (current updates : Table String String) :
    (merged id current updates).entries.isEmpty = false := by
  have held : ((merged id current updates).get "email").isSome := by
    rw [merged, Table.get_foldl_set]
    cases Table.get _ "email" <;> simp [Table.ofEntries, Table.get_put]
  rw [Bool.eq_false_iff]
  intro blank
  rw [show merged id current updates = ∅ from AList.ext (List.isEmpty_iff.mp blank)] at held
  simp at held

/-- The profile of an account. -/
def stored (account_id : String) (db : Db) : Table String String :=
  profile_of ((db.docs.get (.profiles, account_id)).bind Db.readable)

theorem stored_write (account_id : String) (current updates : Table String String) (db : Db) {k : String}
    (editable : k ∈ EDITABLE) :
    (stored account_id (db.write (.profiles, account_id) (merged account_id current updates))).get k =
      (updates.get k).or (current.get k) := by
  rw [stored, get_write, if_pos rfl, Option.bind_some, get_profile_of, if_pos editable, Db.readable]
  simp only [merged_ne_empty, Bool.false_eq_true, if_false, Option.bind_some]
  exact get_merged account_id current updates editable

/-! ### Requests -/

variable {ι : Type} [DecidableEq ι]

abbrev Requests (ι : Type) := Pool Fs Db ι Response

/-- All requests of one account about to begin. -/
def pool (account_id : String) (bodies : ι → Except String (Table String String)) (db : Db) : Requests ι :=
  ⟨db, fun i => profile_put account_id (bodies i), []⟩

/-- Other requests and time leave the profile alone. -/
def Env (account_id : String) (db db' : Db) : Prop :=
  db'.docs.get (.profiles, account_id) = db.docs.get (.profiles, account_id)

/-- The profile was read. -/
@[reducible] def Got (account_id : String) (doc : Option Fields) : (o : FsOp) × o.Res :=
  ⟨.get_doc .profiles account_id, .ok doc⟩

/-- The profile was written. -/
@[reducible] def Put (account_id : String) (f : Fields) : (o : FsOp) × o.Res := ⟨.set_doc .profiles account_id f, .ok ()⟩

/-- Whenever a request writes, the profile is still the one that it read. -/
def Current (account_id : String) (c c' : Requests ι) : Prop :=
  ∀ e f doc, c'.trace = e :: c.trace → (⟨e.op, e.answer⟩ : (o : FsOp) × o.Res) = Put account_id f →
    Got account_id doc ∈ Pool.past c.trace e.thread → profile_of doc = stored account_id c.state

/-- One operation of a request, or something else. -/
def Next (account_id : String) (c c' : Requests ι) : Prop :=
  Pool.Step (Sem.ofHandler exec) (Env account_id) c c' ∧ Current account_id c c'

/-- A request reads the profile, and writes it once with its edits. -/
inductive Lawful (account_id : String) (body : Except String (Table String String)) (past : Past Fs) : FsOp → Prop where
  | read : Lawful account_id body past (.get_doc .profiles account_id)
  | write (updates : Table String String) (doc : Option Fields) (sent : body = .ok updates)
      (first : Got account_id doc ∈ past) :
      Lawful account_id body past (.set_doc .profiles account_id (merged account_id (profile_of doc) updates))

/-- Who succeeds has written. -/
def Ended (account_id : String) (past : Past Fs) (r : Response) : Prop := ∀ body, r = .json 200 body → ∃ f, Put account_id f ∈ past

theorem put_justified (account_id : String) (body : Except String (Table String String)) :
    (profile_put account_id body).Justified (Lawful account_id body) (Ended account_id) [] := by
  unfold profile_put
  cases body with
  | error e => exact .ret fun _ is => by cases is
  | ok updates =>
    refine .call .read fun read => ?_
    dsimp only [Prog.bind]
    cases read with
    | error e => exact .ret fun _ is => by cases is
    | ok doc =>
      refine .call (.write updates doc rfl (by simp)) fun wrote => ?_
      cases wrote with
      | error e => exact .ret fun _ is => by cases is
      | ok u => exact .call .read fun _ => .ret fun _ _ => ⟨_, List.mem_cons_of_mem _ List.mem_cons_self⟩

/-! ### Edits -/

/-- No editable field is in two requests. -/
def Disjoint (bodies : ι → Except String (Table String String)) : Prop :=
  ∀ i j u w k, bodies i = .ok u → bodies j = .ok w → k ∈ EDITABLE → (u.get k).isSome → (w.get k).isSome → i = j

/-- What was written is still there, and what nobody mentions never changed. -/
structure Inv (account_id : String) (bodies : ι → Except String (Table String String)) (db : Db) (c : Requests ι) : Prop where
  edited : ∀ i u f, bodies i = .ok u → Put account_id f ∈ Pool.past c.trace i →
    ∀ k ∈ EDITABLE, ∀ v, u.get k = some v → (stored account_id c.state).get k = some v
  kept : ∀ k ∈ EDITABLE, (∀ i u, bodies i = .ok u → u.get k = none) →
    (stored account_id c.state).get k = (stored account_id db).get k

section step
variable {account_id : String} {bodies : ι → Except String (Table String String)} {db : Db} {c c' : Requests ι}

/-- An edit replaces a profile that holds all edits before it. -/
private theorem Inv.write (inv : Inv account_id bodies db c) (disjoint : Disjoint bodies) {i : ι}
    {updates : Table String String} {doc : Option Fields} (sent : bodies i = .ok updates)
    (current : profile_of doc = stored account_id c.state)
    (state : c'.state = c.state.write (.profiles, account_id) (merged account_id (profile_of doc) updates))
    (trace : c'.trace = ⟨i, .set_doc .profiles account_id (merged account_id (profile_of doc) updates), .ok ()⟩ :: c.trace) :
    Inv account_id bodies db c' := by
  have now : ∀ k ∈ EDITABLE, (stored account_id c'.state).get k = (updates.get k).or ((stored account_id c.state).get k) := by
    intro k editable
    rw [state, stored_write account_id _ _ _ editable, current]
  refine ⟨fun j u f sent' put k editable v submitted => ?_, fun k editable unsent => ?_⟩
  · rw [now k editable]
    by_cases own : j = i
    · subst own
      obtain rfl := Except.ok.inj (sent.symm.trans sent')
      rw [submitted, Option.some_or]
    · rw [trace, Pool.past_cons, if_neg (Ne.symm own)] at put
      have before := inv.edited j u f sent' put k editable v submitted
      cases also : updates.get k with
      | none => exact before
      | some w => exact absurd (disjoint j i u updates k sent' sent editable (by simp [submitted]) (by simp [also])) own
  · rw [now k editable, unsent i updates sent, Option.none_or]
    exact inv.kept k editable unsent

private theorem Inv.step (inv : Inv account_id bodies db c) (disjoint : Disjoint bodies)
    (did : Pool.Did (Sem.ofHandler exec) (Env account_id) (fun i => Lawful account_id (bodies i)) c c')
    (current : Current account_id c c') : Inv account_id bodies db c' := by
  cases did with
  | env changes trace threads =>
    have same : stored account_id c'.state = stored account_id c.state := by rw [stored, stored, changes]
    refine ⟨fun i u f sent put => ?_, fun k editable unsent => ?_⟩
    · rw [trace] at put
      rw [same]
      exact inv.edited i u f sent put
    · rw [same]
      exact inv.kept k editable unsent
  | act e k next allowed does trace threads =>
    obtain ⟨i, o, a⟩ := e
    cases allowed with
    | read =>
      have same : c'.state = c.state := (congrArg Prod.snd does).symm
      refine ⟨fun j u f sent put => ?_, fun k editable unsent => ?_⟩
      · rw [same]
        refine inv.edited j u f sent ?_
        rw [trace, Pool.past_cons] at put
        split at put
        · rcases List.mem_cons.mp put with is | before
          · cases is
          · exact before
        · exact put
      · rw [same]
        exact inv.kept k editable unsent
    | write updates doc sent first =>
      obtain rfl : a = .ok () := (congrArg Prod.fst does).symm
      exact inv.write disjoint sent (current _ _ doc trace rfl first) (congrArg Prod.snd does).symm trace

end step

/-- However requests of an account interleave, as long as each replaces the
    profile that it read: what a request that succeeded has submitted is stored,
    and the fields that no request mentions are as they were. -/
theorem edits_kept (account_id : String) (bodies : ι → Except String (Table String String)) (db : Db)
    (disjoint : Disjoint bodies) {c : Requests ι}
    (steps : Relation.ReflTransGen (Next account_id) (pool account_id bodies db) c) :
    (∀ i u body, bodies i = .ok u → c.threads i = .ret (.json 200 body) →
      ∀ k ∈ EDITABLE, ∀ v, u.get k = some v → (stored account_id c.state).get k = some v) ∧
    ∀ k ∈ EDITABLE, (∀ i u, bodies i = .ok u → u.get k = none) →
      (stored account_id c.state).get k = (stored account_id db).get k := by
  have honest : (pool account_id bodies db).Honest (fun i => Lawful account_id (bodies i)) fun _ => Ended account_id :=
    fun i => put_justified account_id (bodies i)
  have start : Inv account_id bodies db (pool account_id bodies db) := ⟨by simp [pool, Pool.past], fun _ _ _ => rfl⟩
  obtain ⟨inv, honest⟩ := honest.induct (fun _ _ inv _ did current => inv.step disjoint did current) start steps
  refine ⟨fun i u body sent answered => ?_, inv.kept⟩
  have own := honest i
  rw [answered] at own
  obtain ⟨f, put⟩ := own body rfl
  exact inv.edited i u f sent put

/-! ### Two edits -/

/-- The profile that an operation read. -/
def readProfile (account_id : String) : (o : FsOp) → o.Res → Option (Table String String)
  | .get_doc .profiles id, .ok doc => if id = account_id then some (profile_of doc) else none
  | _, _ => none

/-- A test of the condition before a turn. -/
def currentBefore (account_id : String) (c : Requests ι) (i : ι) : Bool :=
  match (c.threads i).next with
  | some (.set_doc ..) => (Pool.past c.trace i).all fun e =>
      (readProfile account_id e.1 e.2).all fun read => read.entries = (stored account_id c.state).entries
  | _ => true

private theorem currentBefore_promises (account_id : String) (c : Requests ι) (i : ι) (test : currentBefore account_id c i = true) :
    Current account_id c (Pool.fire exec c i) := by
  intro e f doc acted put first
  unfold Pool.fire at acted
  split at acted
  · exact absurd (congrArg List.length acted) (by simp)
  · rename_i o k next
    obtain ⟨rfl, -⟩ := List.cons.inj acted
    cases put
    rw [currentBefore, next] at test
    have same := List.all_eq_true.mp test _ first
    refine AList.ext ?_
    simpa [readProfile] using same

/-- The name and the language of a user, in two requests. -/
def edits (i : Fin 2) : Except String (Table String String) :=
  .ok (if i.val = 0 then (∅ : Table String String).set "name" "Alice" else (∅ : Table String String).set "locale" "ja")

/-- Each request edits one field. -/
private theorem edits_field {i : Fin 2} {u : Table String String} {k : String} (sent : edits i = .ok u) (there : (u.get k).isSome) :
    k = if i.val = 0 then "name" else "locale" := by
  obtain rfl := Except.ok.inj sent
  by_contra other
  by_cases first : i.val = 0
  · simp only [first, if_true] at there other
    simp [Table.get_set, other] at there
  · simp only [first, if_false] at there other
    simp [Table.get_set, other] at there

private theorem edits_disjoint : Disjoint edits := by
  rintro i j u w k sent sent' - there there'
  have same := (edits_field sent there).symm.trans (edits_field sent' there')
  by_cases first : i.val = 0
  · by_cases second : j.val = 0
    · omega
    · simp [first, second] at same
  · by_cases second : j.val = 0
    · simp [first, second] at same
    · omega

/-- The two requests after a number of turns. -/
def edited (order : List Nat) : Requests (Fin 2) := Pool.schedule exec (pool "u1" edits { clock := 0 }) (Pool.turns order)

/-- One request after the other. -/
theorem edits_kept_in_turn : (stored "u1" (edited [0, 0, 0, 1, 1, 1]).state).get "name" = some "Alice" := by
  obtain ⟨body, answered⟩ : ∃ body, (edited [0, 0, 0, 1, 1, 1]).threads ⟨0, by decide⟩ = .ret (.json 200 body) := ⟨_, rfl⟩
  have kept := (edits_kept "u1" edits { clock := 0 } edits_disjoint (c := edited [0, 0, 0, 1, 1, 1])
    (Pool.schedule_steps_where (P := fun c i => currentBefore "u1" c i = true) (currentBefore_promises "u1") (by decide +kernel))).1
  exact kept ⟨0, by decide⟩ _ body rfl answered "name" (by decide) "Alice" rfl

/-- Both read the profile before one of them writes: both are told that they
    succeeded, and the name is lost. -/
theorem edit_lost : ∃ c : Requests (Fin 2),
    Relation.ReflTransGen (Pool.Step (Sem.ofHandler exec) (Env "u1")) (pool "u1" edits { clock := 0 }) c ∧ Disjoint edits ∧
    (∀ i, ∃ body, c.threads i = .ret (.json 200 body)) ∧ (stored "u1" c.state).get "name" = none := by
  refine ⟨edited [0, 1, 0, 1, 0, 1], Pool.schedule_steps _ _ _ _, edits_disjoint, fun i => ?_, by decide +kernel⟩
  match i with
  | ⟨0, _⟩ => exact ⟨_, rfl⟩
  | ⟨1, _⟩ => exact ⟨_, rfl⟩

end ProfileRace
end RustOp.Web
