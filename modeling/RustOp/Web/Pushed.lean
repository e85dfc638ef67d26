import RustOp.Web.SignedIn

/-!
What a pushed request has seen when it is stored: the client that pushed it, the
request object if there was one, and the key of its proof.
-/
namespace RustOp.Web
open RustOp.Effects RustOp.Text

/-- The text to store: the body, or the parameters of its request object. -/
def PushedText (p : Server) (past : Past Host) (client : Client) (body text : String) : Prop :=
  ((p.form body).get "request" = none ∧ text = body) ∨
    ∃ jwt params, (p.form body).get "request" = some jwt ∧ (request_object.verify p client jwt).Gave (.ok params) past ∧
      text = p.to_string params

/-- What is stored of a text, once the proof of the request has been looked at. -/
def PushedBound (p : Server) (past : Past Host) (headers : Headers) (text params : String) : Prop :=
  (dpop_header headers = none ∧ params = text) ∨
    ∃ proof jkt, dpop_header headers = some proof ∧
      (Es256Dpop.verify p proof "POST" (p.issuer ++ "/par") none).Gave (.ok jkt) past ∧
      ((p.form text).get "dpop_jkt" = some jkt ∧ params = text ∨
        (p.form text).get "dpop_jkt" = none ∧ params = text ++ "&dpop_jkt=" ++ jkt)

/-- A request that its client pushed. -/
structure Pushed (p : Server) (headers : Headers) (body : String) (past : Past Host) (client : Client) (text params : String) :
    Prop where
  authenticated : (authenticate_client p headers (p.form body)).Gave (.ok client) past
  stored : PushedText p past client body text
  own : ∀ id, (p.form text).get "client_id" = some id → id = client.client_id
  bound : PushedBound p past headers text params

/-- The other operations of a pushed request. -/
def ParFree : HostOp → Prop
  | .backend .now => True
  | .firestore (.get_doc ..) => True
  | .firestore .now => True
  | .claim .. => True
  | .resolve_jwk .. => True
  | _ => False

/-- What a pushed request may save: itself, in order. -/
def ParSaves (uuid : Draw → String) (p : Server) (headers : Headers) (body : String) (past : Past Host) (o : HostOp) : Prop :=
  ParFree o ∨ ∃ client text params t,
    o = .firestore (.set_doc .parRequests (uuid .request_uri) (par.fields client.client_id params (t + par.TTL_SECS))) ∧
      ⟨.firestore .now, t⟩ ∈ past ∧ Pushed p headers body past client text params

section grows
variable {p : Server} {past now : Past Host} (extends_ : past <:+ now)
include extends_

theorem PushedText.later {client : Client} {body text : String} (stored : PushedText p past client body text) :
    PushedText p now client body text := by
  rcases stored with plain | ⟨jwt, params, sent, verified, same⟩
  · exact .inl plain
  · exact .inr ⟨jwt, params, sent, verified.later extends_, same⟩

theorem PushedBound.later {headers : Headers} {text params : String} (bound : PushedBound p past headers text params) :
    PushedBound p now headers text params := by
  rcases bound with plain | ⟨proof, jkt, shown, verified, same⟩
  · exact .inl plain
  · exact .inr ⟨proof, jkt, shown, verified.later extends_, same⟩

theorem Pushed.later {headers : Headers} {body : String} {client : Client} {text params : String}
    (pushed : Pushed p headers body past client text params) : Pushed p headers body now client text params :=
  ⟨pushed.authenticated.later extends_, pushed.stored.later extends_, pushed.own, pushed.bound.later extends_⟩

end grows

section justified
variable {p : Server} {past : Past Host} {J : Past Host → HostOp → Prop} (free : ∀ past o, ParFree o → J past o)
include free

private theorem par_params_justified (client : Client) (body : String) :
    (par_params p client body).Justified J (fun later r => ∀ text, r = .ok text → PushedText p later client body text) past := by
  unfold par_params
  split
  · rename_i plain
    refine .ret fun text same => ?_
    cases same
    exact .inl ⟨plain, rfl⟩
  · rename_i jwt sent
    refine ((Prog.Justified.of_uses free (request_object_verify_uses trivial (fun _ _ => trivial) client jwt) past).gave).bind
      fun later r _ verified => ?_
    cases r with
    | error e => exact .ret fun text same => by cases same
    | ok params =>
      refine .ret fun text same => ?_
      cases same
      exact .inr ⟨jwt, params, sent, verified.2, rfl⟩

private theorem par_bound_justified (headers : Headers) (text : String) :
    (par_bound p headers text).Justified J (fun later r => ∀ params, r = .ok params → PushedBound p later headers text params)
      past := by
  unfold par_bound
  split
  · rename_i plain
    refine .ret fun params same => ?_
    cases same
    exact .inl ⟨plain, rfl⟩
  · rename_i proof shown
    refine ((Prog.Justified.of_uses free (dpop_verify_uses trivial (fun _ _ => trivial) _ _ _ _) past).gave).bind
      fun later r _ verified => ?_
    cases r with
    | error e => exact .ret fun params same => by cases same
    | ok jkt =>
      dsimp only
      split
      · rename_i req named
        split
        · exact .ret fun params same => by cases same
        · rename_i same_key
          refine .ret fun params same => ?_
          cases same
          rw [not_not.mp same_key] at named
          exact .inr ⟨proof, jkt, shown, verified.2, .inl ⟨named, rfl⟩⟩
      · rename_i unnamed
        refine .ret fun params same => ?_
        cases same
        exact .inr ⟨proof, jkt, shown, verified.2, .inr ⟨unnamed, rfl⟩⟩

end justified

theorem par_justified (p : Server) (uuid : Draw → String) (headers : Headers) (body : String) :
    (par p uuid headers body).Justified (ParSaves uuid p headers body) (fun _ _ => True) [] := by
  have free : ∀ past o, ParFree o → ParSaves uuid p headers body past o := fun _ _ => .inl
  unfold par
  split
  · exact .ret trivial
  · split
    · exact .ret trivial
    · refine ((Prog.Justified.of_uses free (authenticate_client_uses (fun _ _ => trivial) (fun _ _ => trivial) trivial
        (fun _ _ => trivial) p headers (p.form body)) []).gave).bind fun past₁ client _ authenticated => ?_
      cases client with
      | error e => exact .ret trivial
      | ok client =>
        refine (par_params_justified free client body).bind fun past₂ text grown₂ stored => ?_
        cases text with
        | error e => exact .ret trivial
        | ok text =>
          dsimp only
          split
          · exact .ret trivial
          · rename_i own
            refine (par_bound_justified free headers text).bind fun past₃ params grown₃ bound => ?_
            cases params with
            | error e => exact .ret trivial
            | ok params =>
              have named : ∀ id, (p.form text).get "client_id" = some id → id = client.client_id := by
                intro id named
                simpa [named] using own
              have pushed : Pushed p headers body past₃ client text params :=
                ⟨authenticated.2.later (grown₂.trans grown₃), (stored text rfl).later grown₃, named, bound params rfl⟩
              refine .call (free _ _ trivial) fun t => ?_
              refine .call (.inr ⟨client, text, params, t, rfl, List.mem_cons_self, pushed.later (List.suffix_cons _ _)⟩)
                fun r => ?_
              cases r <;> exact .ret trivial

end RustOp.Web
