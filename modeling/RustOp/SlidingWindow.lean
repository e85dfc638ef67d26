import Mathlib

/-!
Limiters that admit a number of calls in a window of time. The queue of a limiter
holds the admissions that may still be in the window; as calls come in order, it
holds exactly those once the front is dropped (`Holds`).
-/
namespace RustOp.SlidingWindow

/-- When a time has left the window. Times leave it in their order and for good. -/
structure Window (T : Type) [LinearOrder T] where
  past : T → T → Bool
  later : ∀ {now now' t : T}, now ≤ now' → past now t → past now' t
  earlier : ∀ {now t t' : T}, t ≤ t' → past now t' → past now t

variable {T : Type} [LinearOrder T] (w : Window T) (max : Nat)

/-- The queue without the times at its front that have left the window. -/
def keep (now : T) (q : List T) : List T := q.dropWhile fun t => w.past now t

/-- One call: the answer and the queue after it. -/
def offer (now : T) (q : List T) : Bool × List T :=
  if (keep w now q).length ≥ max then (false, keep w now q) else (true, keep w now q ++ [now])

/-- The queue after calls. -/
def queue (q : List T) (times : List T) : List T := times.foldl (fun q now => (offer w max now q).2) q

/-- The times of the calls that are admitted. -/
def admitted : List T → List T → List T
  | _, [] => []
  | q, now :: times =>
    (if (offer w max now q).1 then [now] else []) ++ admitted (offer w max now q).2 times

theorem queue_append (q times times' : List T) :
    queue w max q (times ++ times') = queue w max (queue w max q times) times' :=
  List.foldl_append

theorem admitted_append (q times times' : List T) :
    admitted w max q (times ++ times') = admitted w max q times ++ admitted w max (queue w max q times) times' := by
  induction times generalizing q with
  | nil => rfl
  | cons now times ih =>
    rw [List.cons_append, admitted, ih, admitted, List.append_assoc]
    rfl

variable {w max}

/-! ### Dropping the front -/

/-- Dropping at a time makes no difference to dropping later. -/
theorem keep_keep {now t : T} (later : now ≤ t) (q : List T) : keep w t (keep w now q) = keep w t q := by
  induction q with
  | nil => rfl
  | cons a q ih =>
    by_cases past : w.past now a = true
    · have gone : keep w now (a :: q) = keep w now q := List.dropWhile_cons_of_pos past
      have gone' : keep w t (a :: q) = keep w t q := List.dropWhile_cons_of_pos (w.later later past)
      rw [gone, gone', ih]
    · have same : keep w now (a :: q) = a :: q := List.dropWhile_cons_of_neg past
      rw [same]

/-- Queues that only differ in times that have left the window. -/
theorem keep_eq_of_later {now t : T} (later : now ≤ t) {q q' : List T} (alike : keep w now q = keep w now q') :
    keep w t q = keep w t q' := by
  rw [← keep_keep later q, alike, keep_keep later]

theorem admit_congr {now : T} {q q' : List T} (alike : keep w now q = keep w now q') :
    offer w max now q = offer w max now q' := by
  rw [offer, offer, alike]

/-- A refused call only drops the front. -/
theorem keep_of_refused {now : T} {q : List T} (refused : (offer w max now q).1 = false) :
    keep w now (offer w max now q).2 = keep w now q := by
  unfold offer at refused ⊢
  split at refused
  · rename_i full
    rw [if_pos full]
    exact keep_keep le_rfl q
  · cases refused

/-- Of times in order, the ones at the front leave the window first. -/
theorem keep_eq_filter {q : List T} (sorted : q.Pairwise (· ≤ ·)) (now : T) :
    keep w now q = q.filter fun t => !w.past now t := by
  induction q with
  | nil => rfl
  | cons a q ih =>
    obtain ⟨first, sorted⟩ := List.pairwise_cons.mp sorted
    by_cases past : w.past now a = true
    · have gone : keep w now (a :: q) = keep w now q := List.dropWhile_cons_of_pos past
      rw [gone, ih sorted, List.filter_cons_of_neg (by simp [past])]
    · have same : keep w now (a :: q) = a :: q := List.dropWhile_cons_of_neg past
      have inside : ∀ t ∈ a :: q, (!w.past now t) = true := by
        intro t listed
        rw [Bool.not_eq_true', Bool.eq_false_iff]
        intro gone
        rcases List.mem_cons.mp listed with rfl | behind
        · exact past gone
        · exact past (w.earlier (first t behind) gone)
      rw [same, List.filter_eq_self.mpr inside]

/-! ### Runs -/

variable (w max) in
/-- At a time, the queue holds the admissions of a history as far as they are
    still in the window. -/
structure Holds (history : List T) (now : T) (q : List T) : Prop where
  sorted : history.Pairwise (· ≤ ·)
  before : ∀ t ∈ history, t ≤ now
  exact : keep w now q = history.filter fun t => !w.past now t

theorem Holds.later {history : List T} {now t : T} {q : List T} (holds : Holds w history now q) (later : now ≤ t) :
    Holds w history t q where
  sorted := holds.sorted
  before := fun s listed => le_trans (holds.before s listed) later
  exact := by
    have sorted : (keep w now q).Pairwise (· ≤ ·) := by
      rw [holds.exact]
      exact holds.sorted.filter _
    have gone : ∀ s, (!w.past t s && !w.past now s) = !w.past t s := by
      intro s
      cases past : w.past now s with
      | false => rw [Bool.not_false, Bool.and_true]
      | true => rw [w.later later past, Bool.not_true, Bool.false_and]
    rw [← keep_keep later, keep_eq_filter sorted, holds.exact, List.filter_filter]
    simp only [gone]

variable (max) in
/-- Whether a call is admitted only depends on the admissions in the window. -/
theorem Holds.admit_iff {history : List T} {now : T} {q : List T} (holds : Holds w history now q) :
    (offer w max now q).1 = true ↔ history.countP (fun t => !w.past now t) < max := by
  rw [offer, holds.exact, ← List.countP_eq_length_filter]
  split
  · simp only [Bool.false_eq_true, false_iff]
    omega
  · simp only [true_iff]
    omega

/-- One call: what is admitted joins the history. -/
theorem Holds.offer {history : List T} {now : T} {q : List T} (holds : Holds w history now q) :
    Holds w (history ++ if (offer w max now q).1 then [now] else []) now (offer w max now q).2 := by
  by_cases admits : (SlidingWindow.offer w max now q).1 = true
  · rw [if_pos admits]
    have sorted : (history ++ [now]).Pairwise (· ≤ ·) :=
      List.pairwise_append.mpr ⟨holds.sorted, List.pairwise_singleton _ _, fun t listed s last => by
        rw [List.mem_singleton.mp last]
        exact holds.before t listed⟩
    refine ⟨sorted, fun t listed => ?_, ?_⟩
    · rcases List.mem_append.mp listed with before | last
      · exact holds.before t before
      · exact le_of_eq (List.mem_singleton.mp last)
    · have pushed : (SlidingWindow.offer w max now q).2 = history.filter (fun t => !w.past now t) ++ [now] := by
        rw [← holds.exact]
        unfold SlidingWindow.offer at admits ⊢
        split at admits
        · cases admits
        · rename_i room
          rw [if_neg room]
      have part : (history.filter (fun t => !w.past now t) ++ [now]).Sublist (history ++ [now]) :=
        List.filter_sublist.append (List.Sublist.refl _)
      rw [pushed, keep_eq_filter (sorted.sublist part), List.filter_append, List.filter_append, List.filter_filter]
      simp only [Bool.and_self]
  · rw [if_neg admits, List.append_nil]
    refine ⟨holds.sorted, holds.before, ?_⟩
    rw [keep_of_refused (Bool.eq_false_iff.mpr admits), holds.exact]

variable (w max) in
/-- No more admissions than allowed are in the window together. -/
def Spread (history : List T) : Prop :=
  ∀ inside : T → Bool, (∀ a b, inside a → inside b → a ≤ b → ¬ w.past b a) → history.countP inside ≤ max

theorem Spread.offer {history : List T} {now : T} {q : List T} (spread : Spread w max history)
    (holds : Holds w history now q) : Spread w max (history ++ if (offer w max now q).1 then [now] else []) := by
  intro inside together
  by_cases admits : (SlidingWindow.offer w max now q).1 = true
  · rw [if_pos admits, List.countP_append]
    by_cases last : inside now = true
    · -- With the new admission, only what is in its window counts.
      have counted : history.countP inside ≤ history.countP fun t => !w.past now t := by
        refine List.countP_mono_left fun t listed counts => ?_
        rw [Bool.not_eq_true', Bool.eq_false_iff]
        exact together t now counts last (holds.before t listed)
      have room := (holds.admit_iff max).mp admits
      have one : [now].countP inside = 1 := by rw [List.countP_singleton, if_pos last]
      omega
    · have none : [now].countP inside = 0 := by rw [List.countP_singleton, if_neg last]
      have enough := spread inside together
      omega
  · rw [if_neg admits, List.append_nil]
    exact spread inside together

/-- Along a run the queue holds the admissions, and these are spread. -/
theorem run {history times q : List T} {now last : T} (holds : Holds w history now q) (spread : Spread w max history)
    (sorted : times.Pairwise (· ≤ ·)) (from_now : ∀ t ∈ times, now ≤ t) (until_last : ∀ t ∈ times, t ≤ last)
    (ordered : now ≤ last) :
    Holds w (history ++ admitted w max q times) last (queue w max q times) ∧
      Spread w max (history ++ admitted w max q times) := by
  induction times generalizing history now q with
  | nil =>
    rw [admitted, List.append_nil]
    exact ⟨holds.later ordered, spread⟩
  | cons t times ih =>
    obtain ⟨first, sorted⟩ := List.pairwise_cons.mp sorted
    have called := holds.later (from_now t (by simp))
    rw [admitted, ← List.append_assoc]
    exact ih called.offer (spread.offer called) sorted first (fun s listed => until_last s (by simp [listed]))
      (until_last t (by simp))

/-- At the end of a run from nothing, the queue holds what was admitted. -/
theorem run_empty {times : List T} {last : T} (sorted : times.Pairwise (· ≤ ·)) (until_last : ∀ t ∈ times, t ≤ last) :
    Holds w (admitted w max [] times) last (queue w max [] times) ∧ Spread w max (admitted w max [] times) := by
  cases times with
  | nil => exact ⟨⟨List.Pairwise.nil, by simp [admitted], rfl⟩, fun inside _ => by simp [admitted]⟩
  | cons t times =>
    have start : Holds w [] t [] := ⟨List.Pairwise.nil, by simp, rfl⟩
    have first : ∀ s ∈ t :: times, t ≤ s := by
      intro s listed
      rcases List.mem_cons.mp listed with rfl | behind
      · exact le_rfl
      · exact (List.pairwise_cons.mp sorted).1 s behind
    have none : Spread w max [] := fun inside _ => by simp
    rw [← List.nil_append (admitted w max [] (t :: times))]
    exact run start none sorted first until_last (until_last t (by simp))

end RustOp.SlidingWindow
