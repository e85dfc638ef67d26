import RustOp.Effects.Table

/-!
Tables that are filled by one write after the other. What is read back under a
key is what was written last under it, whatever else was written.
-/
namespace RustOp.Effects.Table
variable {K V : Type} [DecidableEq K]

/-- Stores values one after the other. -/
def setAll (t : Table K V) (writes : List (K × V)) : Table K V := writes.foldl (fun t w => t.set w.1 w.2) t

/-- The last of the values for a key. -/
def lastWrite (writes : List (K × V)) (k : K) : Option V := ((writes.filter fun w => w.1 = k).getLast?).map Prod.snd

theorem lastWrite_snoc (writes : List (K × V)) (j k : K) (v : V) :
    lastWrite (writes ++ [(j, v)]) k = if j = k then some v else lastWrite writes k := by
  by_cases same : j = k
  · simp [lastWrite, List.filter_append, same]
  · simp [lastWrite, List.filter_append, same]

theorem lastWrite_append (first second : List (K × V)) (k : K) :
    lastWrite (first ++ second) k = (lastWrite second k).or (lastWrite first k) := by
  simp only [lastWrite, List.filter_append, List.getLast?_append, Option.map_or]

theorem mem_of_lastWrite {writes : List (K × V)} {k : K} {v : V} (last : lastWrite writes k = some v) : (k, v) ∈ writes := by
  obtain ⟨w, is_last, rfl⟩ := Option.map_eq_some_iff.mp last
  obtain ⟨listed, same⟩ := List.mem_filter.mp (List.mem_of_getLast? is_last)
  obtain rfl : w.1 = k := by simpa using same
  exact listed

theorem setAll_append (t : Table K V) (first second : List (K × V)) :
    t.setAll (first ++ second) = (t.setAll first).setAll second := List.foldl_append

theorem get_setAll (t : Table K V) (writes : List (K × V)) (k : K) :
    (t.setAll writes).get k = (lastWrite writes k).or (t.get k) := by
  induction writes using List.reverseRecOn with
  | nil => rfl
  | append_singleton writes w ih =>
    obtain ⟨j, v⟩ := w
    rw [setAll_append, lastWrite_snoc, setAll, List.foldl_cons, List.foldl_nil, get_set, ih]
    by_cases same : k = j
    · simp [same]
    · simp [same, Ne.symm same]

/-- A key that was written once has a last value, which was written under it too. -/
theorem exists_lastWrite {writes : List (K × V)} {k : K} {v : V} (written : (k, v) ∈ writes) :
    ∃ w, lastWrite writes k = some w ∧ (k, w) ∈ writes := by
  have among : (k, v) ∈ writes.filter fun w => w.1 = k := by simp [written]
  obtain ⟨w, is_last⟩ := Option.ne_none_iff_exists'.mp fun none =>
    List.ne_nil_of_mem among (List.getLast?_eq_none_iff.mp none)
  have last : lastWrite writes k = some w.2 := by rw [lastWrite, is_last, Option.map_some]
  exact ⟨w.2, last, mem_of_lastWrite last⟩

end RustOp.Effects.Table
