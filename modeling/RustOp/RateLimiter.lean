import RustOp.Effects.Table
import RustOp.SlidingWindow

/-!
The limiter of requests by client and account. Each pair has a queue of its own,
that of a limiter on a sliding window (`queue_after`, `admitted_of_trace`).
-/
namespace RustOp
open RustOp.Effects

/-- A limiter; times are counted from any instant. -/
structure CibaRateLimiter where
  window : Nat
  max : Nat
  map : Table (String × String) (List Nat)

structure RateCall where
  client_id : String
  account : String
  now : Nat
deriving DecidableEq, Repr

def RateCall.key (c : RateCall) : String × String := (c.client_id, c.account)

namespace CibaRateLimiter

def new (window max : Nat) : CibaRateLimiter := ⟨window, max, ∅⟩

/-- The loop that drops instants from the front. -/
def pop_expired (window now : Nat) : List Nat → List Nat
  | [] => []
  | front :: dq => if now - front > window then pop_expired window now dq else front :: dq

/-- The queue of a pair, empty at its first request. -/
def entry (l : CibaRateLimiter) (key : String × String) : List Nat := (l.map.get key).getD []

/-- Whether a request is admitted; if so, its instant is recorded. -/
def check_and_record (c : RateCall) (l : CibaRateLimiter) : Bool × CibaRateLimiter :=
  let dq := pop_expired l.window c.now (l.entry c.key)
  if dq.length ≥ l.max then (false, { l with map := l.map.set c.key dq })
  else (true, { l with map := l.map.set c.key (dq ++ [c.now]) })

/-- The calls and their answers. -/
def trace : CibaRateLimiter → List RateCall → List (RateCall × Bool)
  | _, [] => []
  | l, c :: calls => (c, (l.check_and_record c).1) :: trace (l.check_and_record c).2 calls

def after (l : CibaRateLimiter) (calls : List RateCall) : CibaRateLimiter :=
  calls.foldl (fun l c => (l.check_and_record c).2) l

/-! ### One queue -/

/-- A closed window of a length. -/
def closed (length : Nat) : SlidingWindow.Window Nat where
  past now t := now - t > length
  later := by
    intro now now' t later past
    rw [decide_eq_true_eq] at past ⊢
    omega
  earlier := by
    intro now t t' earlier past
    rw [decide_eq_true_eq] at past ⊢
    omega

theorem pop_expired_eq (window now : Nat) (dq : List Nat) :
    pop_expired window now dq = SlidingWindow.keep (closed window) now dq := by
  induction dq with
  | nil => rfl
  | cons front dq ih =>
    rw [pop_expired, ih, SlidingWindow.keep, SlidingWindow.keep, List.dropWhile_cons]
    simp only [closed, decide_eq_true_eq]

/-- What a call answers and leaves: its pair's queue is that of a limiter on one
    window, and nothing else changes. -/
theorem check_and_record_spec (c : RateCall) (l : CibaRateLimiter) :
    (l.check_and_record c).1 = (SlidingWindow.offer (closed l.window) l.max c.now (l.entry c.key)).1 ∧
    (l.check_and_record c).2.window = l.window ∧ (l.check_and_record c).2.max = l.max ∧
    ∀ key, (l.check_and_record c).2.entry key =
      if key = c.key then (SlidingWindow.offer (closed l.window) l.max c.now (l.entry c.key)).2 else l.entry key := by
  unfold check_and_record SlidingWindow.offer
  rw [pop_expired_eq]
  dsimp only
  split
  · refine ⟨rfl, rfl, rfl, fun key => ?_⟩
    simp only [entry, Table.get_set]
    split <;> rfl
  · refine ⟨rfl, rfl, rfl, fun key => ?_⟩
    simp only [entry, Table.get_set]
    split <;> rfl

theorem trace_append (l : CibaRateLimiter) (calls calls' : List RateCall) :
    l.trace (calls ++ calls') = l.trace calls ++ (l.after calls).trace calls' := by
  induction calls generalizing l with
  | nil => rfl
  | cons c calls ih =>
    rw [List.cons_append, trace, ih, trace, List.cons_append]
    rfl

theorem after_unchanged (l : CibaRateLimiter) (calls : List RateCall) :
    (l.after calls).window = l.window ∧ (l.after calls).max = l.max := by
  induction calls generalizing l with
  | nil => exact ⟨rfl, rfl⟩
  | cons c calls ih =>
    obtain ⟨-, window, max, -⟩ := check_and_record_spec c l
    obtain ⟨window', max'⟩ := ih (l.check_and_record c).2
    exact ⟨window'.trans window, max'.trans max⟩

/-- The instants of a pair's calls. -/
def instants (key : String × String) (calls : List RateCall) : List Nat :=
  (calls.filter fun c => c.key = key).map RateCall.now

theorem instants_cons (key : String × String) (c : RateCall) (calls : List RateCall) :
    instants key (c :: calls) = (if c.key = key then [c.now] else []) ++ instants key calls := by
  unfold instants
  by_cases same : c.key = key
  · simp [same]
  · simp [same]

/-- The queue of a pair is that of its own calls. -/
theorem entry_after (l : CibaRateLimiter) (calls : List RateCall) (key : String × String) :
    (l.after calls).entry key = SlidingWindow.queue (closed l.window) l.max (l.entry key) (instants key calls) := by
  induction calls generalizing l with
  | nil => rfl
  | cons c calls ih =>
    obtain ⟨-, window, max, entries⟩ := check_and_record_spec c l
    have rest := ih (l.check_and_record c).2
    rw [window, max, entries] at rest
    rw [instants_cons, SlidingWindow.queue_append]
    by_cases same : key = c.key
    · rw [if_pos same] at rest
      rw [if_pos same.symm]
      subst same
      exact rest
    · rw [if_neg same] at rest
      rw [if_neg (Ne.symm same)]
      exact rest

/-- The admissions of a pair are those of its own calls. -/
theorem admitted_of_trace (l : CibaRateLimiter) (calls : List RateCall) (key : String × String) :
    ((l.trace calls).filter fun e => e.2 && e.1.key = key).map (fun e => e.1.now) =
      SlidingWindow.admitted (closed l.window) l.max (l.entry key) (instants key calls) := by
  induction calls generalizing l with
  | nil => rfl
  | cons c calls ih =>
    obtain ⟨answer, window, max, entries⟩ := check_and_record_spec c l
    have rest := ih (l.check_and_record c).2
    rw [window, max, entries] at rest
    rw [instants_cons, trace]
    by_cases same : key = c.key
    · subst same
      rw [if_pos rfl] at rest
      rw [if_pos rfl, List.singleton_append, SlidingWindow.admitted, ← rest, ← answer]
      cases (l.check_and_record c).1 with
      | true => simp
      | false => simp
    · rw [if_neg same] at rest
      rw [if_neg (Ne.symm same), List.nil_append, ← rest]
      simp [Ne.symm same]

/-! ### Calls in order -/

/-- The calls of a pair that were admitted between two instants. -/
def admissions (key : String × String) (first last : Nat) (calls : List (RateCall × Bool)) : Nat :=
  calls.countP fun e => e.2 && e.1.key = key && (first ≤ e.1.now && e.1.now ≤ last)

/-- What calls are answered by a new limiter. -/
structure Exact (window max : Nat) (calls : List RateCall) : Prop where
  /-- No more than `max` calls of a pair are admitted in any closed interval. -/
  spread : ∀ key t, admissions key t (t + window) ((new window max).trace calls) ≤ max
  /-- A call is refused if and only if its window holds `max` admissions. -/
  refused : ∀ before c rest, calls = before ++ c :: rest →
    ((((new window max).after before).check_and_record c).1 = false ↔
      admissions c.key (c.now - window) c.now ((new window max).trace before) = max)
  /-- Without a refused call all others are answered the same. -/
  unchanged : ∀ before c rest, calls = before ++ c :: rest →
    (((new window max).after before).check_and_record c).1 = false →
    ∃ answers, (new window max).trace calls = (new window max).trace before ++ (c, false) :: answers ∧
      (new window max).trace (before ++ rest) = (new window max).trace before ++ answers
  /-- Without the calls of other pairs, those of a pair are answered the same. -/
  alone : ∀ key, ((new window max).trace calls).filter (fun e => e.1.key = key) =
    (new window max).trace (calls.filter fun c => c.key = key)

variable {window max : Nat} {calls : List RateCall}

theorem admissions_eq (l : CibaRateLimiter) (key : String × String) (first last : Nat) (calls : List RateCall) :
    admissions key first last (l.trace calls) =
      (SlidingWindow.admitted (closed l.window) l.max (l.entry key) (instants key calls)).countP
        fun t => first ≤ t && t ≤ last := by
  rw [← admitted_of_trace, List.countP_map, List.countP_filter]
  refine List.countP_congr fun e _ => ?_
  simp only [Function.comp_apply, Bool.and_eq_true, decide_eq_true_eq]
  exact and_comm

theorem instants_sorted (ordered : calls.Pairwise fun a b => a.now ≤ b.now) (key : String × String) :
    (instants key calls).Pairwise (· ≤ ·) :=
  (ordered.filter _).map _ fun _ _ le => le

variable (window max) in
/-- What was admitted to a pair until an instant, and its queue then. -/
theorem admitted_run (ordered : calls.Pairwise fun a b => a.now ≤ b.now) {last : Nat} (until_last : ∀ c ∈ calls, c.now ≤ last)
    (key : String × String) :
    SlidingWindow.Holds (closed window) (SlidingWindow.admitted (closed window) max [] (instants key calls)) last
      (((new window max).after calls).entry key) ∧
    SlidingWindow.Spread (closed window) max (SlidingWindow.admitted (closed window) max [] (instants key calls)) := by
  rw [entry_after]
  refine SlidingWindow.run_empty (instants_sorted ordered key) fun t listed => ?_
  obtain ⟨c, called, rfl⟩ := List.mem_map.mp listed
  exact until_last c (List.mem_of_mem_filter called)

variable (window max) in
theorem admissions_le (ordered : calls.Pairwise fun a b => a.now ≤ b.now) (key : String × String) {first last : Nat}
    (short : last ≤ first + window) : admissions key first last ((new window max).trace calls) ≤ max := by
  obtain ⟨final, until_final⟩ : ∃ final, ∀ c ∈ calls, c.now ≤ final :=
    ⟨(calls.map RateCall.now).sum, fun c called => List.le_sum_of_mem (List.mem_map_of_mem called)⟩
  obtain ⟨-, spread⟩ := admitted_run window max ordered until_final key
  rw [admissions_eq]
  refine spread _ fun a b inside inside' _ past => ?_
  simp only [closed, Bool.and_eq_true, decide_eq_true_eq] at inside inside' past
  omega

/-- Limiters whose queues only differ in instants that have left the window. -/
def Alike (now : Nat) (l l' : CibaRateLimiter) : Prop :=
  l.window = l'.window ∧ l.max = l'.max ∧
    ∀ key, SlidingWindow.keep (closed l.window) now (l.entry key) = SlidingWindow.keep (closed l.window) now (l'.entry key)

theorem Alike.trace_eq {now : Nat} {l l' : CibaRateLimiter} (alike : Alike now l l')
    (ordered : calls.Pairwise fun a b => a.now ≤ b.now) (from_now : ∀ c ∈ calls, now ≤ c.now) :
    l.trace calls = l'.trace calls := by
  induction calls generalizing l l' now with
  | nil => rfl
  | cons c calls ih =>
    obtain ⟨window, max, entries⟩ := alike
    obtain ⟨first, ordered⟩ := List.pairwise_cons.mp ordered
    obtain ⟨answer, window₁, max₁, entries₁⟩ := check_and_record_spec c l
    obtain ⟨answer', window₂, max₂, entries₂⟩ := check_and_record_spec c l'
    have called : ∀ key, SlidingWindow.keep (closed l.window) c.now (l.entry key) =
        SlidingWindow.keep (closed l.window) c.now (l'.entry key) :=
      fun key => SlidingWindow.keep_eq_of_later (from_now c (by simp)) (entries key)
    have same : SlidingWindow.offer (closed l'.window) l'.max c.now (l'.entry c.key) =
        SlidingWindow.offer (closed l.window) l.max c.now (l.entry c.key) := by
      rw [← window, ← max]
      exact (SlidingWindow.admit_congr (called c.key)).symm
    have next : Alike c.now (l.check_and_record c).2 (l'.check_and_record c).2 := by
      refine ⟨by rw [window₁, window₂, window], by rw [max₁, max₂, max], fun key => ?_⟩
      rw [window₁, entries₁, entries₂, same]
      by_cases mine : key = c.key
      · rw [if_pos mine, if_pos mine]
      · rw [if_neg mine, if_neg mine]
        exact called key
    rw [trace, trace, answer, answer', same, ih next ordered first]

/-- A refused call only drops what has left the window. -/
theorem alike_of_refused {c : RateCall} {l : CibaRateLimiter} (refused : (l.check_and_record c).1 = false) :
    Alike c.now (l.check_and_record c).2 l := by
  obtain ⟨answer, window, max, entries⟩ := check_and_record_spec c l
  refine ⟨window, max, fun key => ?_⟩
  rw [window, entries]
  by_cases mine : key = c.key
  · rw [if_pos mine, mine]
    exact SlidingWindow.keep_of_refused (answer.symm.trans refused)
  · rw [if_neg mine]

/-- A pair is answered from its own queue. -/
theorem trace_filter {l l' : CibaRateLimiter} {key : String × String} (window : l.window = l'.window) (max : l.max = l'.max)
    (entries : l.entry key = l'.entry key) :
    (l.trace calls).filter (fun e => e.1.key = key) = l'.trace (calls.filter fun c => c.key = key) := by
  induction calls generalizing l l' with
  | nil => rfl
  | cons c calls ih =>
    obtain ⟨answer, window₁, max₁, entries₁⟩ := check_and_record_spec c l
    by_cases mine : c.key = key
    · obtain ⟨answer', window₂, max₂, entries₂⟩ := check_and_record_spec c l'
      subst mine
      have next : (l.check_and_record c).2.entry c.key = (l'.check_and_record c).2.entry c.key := by
        rw [entries₁, entries₂, if_pos rfl, if_pos rfl, window, max, entries]
      have later := ih ((window₁.trans window).trans window₂.symm) ((max₁.trans max).trans max₂.symm) next
      rw [trace, List.filter_cons_of_pos (by simp), List.filter_cons_of_pos (by simp), trace, later, answer, answer', window, max,
        entries]
    · have next : (l.check_and_record c).2.entry key = l'.entry key := by
        rw [entries₁, if_neg (Ne.symm mine), entries]
      have later := ih (window₁.trans window) (max₁.trans max) next
      rw [trace, List.filter_cons_of_neg (by simpa using mine), List.filter_cons_of_neg (by simpa using mine), later]

/-- The limiter is exact on every sequence of calls in order. -/
theorem check_and_record_exact (window max : Nat) {calls : List RateCall}
    (ordered : calls.Pairwise fun a b => a.now ≤ b.now) : Exact window max calls where
  spread := fun key _ => admissions_le window max ordered key le_rfl
  refused := by
    rintro before c rest rfl
    obtain ⟨sorted, -, earlier⟩ := List.pairwise_append.mp ordered
    obtain ⟨holds, -⟩ := admitted_run window max sorted (fun b called => earlier b called c (by simp)) c.key
    have recent : admissions c.key (c.now - window) c.now ((new window max).trace before) =
        (SlidingWindow.admitted (closed window) max [] (instants c.key before)).countP fun t => !(closed window).past c.now t := by
      rw [admissions_eq]
      refine List.countP_congr fun t admitted => ?_
      have until_now := holds.before t admitted
      simp only [closed, Bool.and_eq_true, Bool.not_eq_true', decide_eq_true_eq, decide_eq_false_iff_not]
      omega
    have bound := admissions_le window max sorted c.key (show c.now ≤ c.now - window + window by omega)
    have admits := holds.admit_iff max
    obtain ⟨answer, -, -, -⟩ := check_and_record_spec c ((new window max).after before)
    obtain ⟨window', max'⟩ := after_unchanged (new window max) before
    rw [← recent] at admits
    rw [answer, window', max', ← Bool.not_eq_true]
    exact (not_congr admits).trans (by omega)
  unchanged := by
    rintro before c rest rfl refused
    obtain ⟨-, later, -⟩ := List.pairwise_append.mp ordered
    obtain ⟨first, sorted⟩ := List.pairwise_cons.mp later
    refine ⟨((new window max).after before).trace rest, ?_, trace_append _ _ _⟩
    rw [trace_append, trace, refused, (alike_of_refused refused).trace_eq sorted first]
  alone := fun key => trace_filter rfl rfl rfl

/-- Three calls a minute: another one is refused until the minute is over. -/
theorem check_and_record_exact_minute :
    (new 60 3).trace [⟨"rp", "u", 0⟩, ⟨"rp", "u", 20⟩, ⟨"rp", "u", 30⟩, ⟨"rp2", "u", 40⟩, ⟨"rp", "u", 60⟩, ⟨"rp", "u", 61⟩] =
      [(⟨"rp", "u", 0⟩, true), (⟨"rp", "u", 20⟩, true), (⟨"rp", "u", 30⟩, true), (⟨"rp2", "u", 40⟩, true),
        (⟨"rp", "u", 60⟩, false), (⟨"rp", "u", 61⟩, true)] ∧
    Exact 60 3 [⟨"rp", "u", 0⟩, ⟨"rp", "u", 20⟩, ⟨"rp", "u", 30⟩, ⟨"rp2", "u", 40⟩, ⟨"rp", "u", 60⟩, ⟨"rp", "u", 61⟩] :=
  ⟨by decide +kernel, check_and_record_exact 60 3 (by decide)⟩

end CibaRateLimiter
end RustOp
