import Mathlib

/-!
Finite maps with at most one entry a key: what a hash map or a collection of
documents is to the programs that use it.
-/
namespace RustOp.Effects

/-- A finite map from `K` to `V`. -/
abbrev Table (K V : Type) := AList (fun _ : K => V)

namespace Table
variable {K V : Type} [DecidableEq K]

/-- The value stored under a key. -/
def get (t : Table K V) (k : K) : Option V := t.lookup k

/-- Stores a value, replacing an earlier one. -/
def set (t : Table K V) (k : K) (v : V) : Table K V := t.insert k v

/-- Drops a key. -/
def remove (t : Table K V) (k : K) : Table K V := t.erase k

/-- Stores a value if there is one. -/
def put (t : Table K V) (k : K) : Option V → Table K V
  | some v => t.set k v
  | none => t

/-- The entries that have a value. -/
def ofEntries (entries : List (K × Option V)) : Table K V := entries.foldl (fun t e => t.put e.1 e.2) ∅

/-- Drops every entry the test refuses. -/
def retain (t : Table K V) (keep : K → V → Bool) : Table K V where
  entries := t.entries.filter fun e => keep e.1 e.2
  nodupKeys := t.nodupKeys.sublist List.filter_sublist

/-- The stored pairs, each key once. -/
def pairs (t : Table K V) : List (K × V) := t.entries.map fun e => (e.1, e.2)

/-- The entries of `new` stored over those of `base`. -/
def merge (base new : Table K V) : Table K V := new ∪ base

@[simp] theorem get_empty (k : K) : get (∅ : Table K V) k = none := rfl

theorem get_set (t : Table K V) (k j : K) (v : V) :
    (t.set k v).get j = if j = k then some v else t.get j := by
  by_cases same : j = k
  · subst same
    simp [get, set]
  · simp [get, set, same]

theorem get_put (t : Table K V) (k j : K) (v : Option V) :
    (t.put k v).get j = if j = k then v.or (t.get j) else t.get j := by
  cases v with
  | none => simp [put]
  | some v => simp [put, get_set]

/-- The entries of some names, as a function gives them. -/
theorem get_ofEntries_map (names : List K) (f : K → Option V) (k : K) :
    (ofEntries (names.map fun n => (n, f n))).get k = if k ∈ names then f k else none := by
  induction names using List.reverseRecOn with
  | nil => rfl
  | append_singleton names n ih =>
    have last : ofEntries ((names ++ [n]).map fun n => (n, f n)) = (ofEntries (names.map fun n => (n, f n))).put n (f n) := by
      simp [ofEntries]
    rw [last, get_put, ih]
    by_cases same : k = n
    · subst same
      by_cases earlier : k ∈ names
      · simp [earlier]
      · simp [earlier]
    · simp [same]

theorem get_remove (t : Table K V) (k j : K) :
    (t.remove k).get j = if j = k then none else t.get j := by
  by_cases same : j = k
  · subst same
    simp [get, remove]
  · simp [get, remove, same]

theorem get_eq_some_iff {t : Table K V} {k : K} {v : V} : t.get k = some v ↔ (k, v) ∈ t.pairs := by
  rw [get, ← Option.mem_def, AList.mem_lookup_iff, pairs, List.mem_map]
  constructor
  · exact fun stored => ⟨⟨k, v⟩, stored, rfl⟩
  · rintro ⟨⟨j, w⟩, stored, same⟩
    cases same
    exact stored

/-- A value of the newer table hides that of the older. -/
theorem get_merge (base new : Table K V) (k : K) : (base.merge new).get k = (new.get k).or (base.get k) := by
  unfold get merge
  by_cases newer : k ∈ new
  · obtain ⟨v, stored⟩ := Option.isSome_iff_exists.mp (AList.lookup_isSome.mpr newer)
    rw [AList.lookup_union_left newer, stored]
    rfl
  · rw [AList.lookup_union_right newer, AList.lookup_eq_none.mpr newer]
    rfl

theorem get_retain (t : Table K V) (keep : K → V → Bool) (k : K) :
    (t.retain keep).get k = (t.get k).filter (keep k) := by
  refine Option.ext fun v => ?_
  rw [get_eq_some_iff, Option.filter_eq_some_iff, get_eq_some_iff]
  simp only [pairs, retain, List.mem_map, List.mem_filter]
  constructor
  · rintro ⟨⟨j, w⟩, ⟨stored, kept⟩, same⟩
    cases same
    exact ⟨⟨_, stored, rfl⟩, kept⟩
  · rintro ⟨⟨⟨j, w⟩, stored, same⟩, kept⟩
    cases same
    exact ⟨_, ⟨stored, kept⟩, rfl⟩

/-- A value that is stored comes first. -/
theorem pairs_set (t : Table K V) (k : K) (v : V) : (t.set k v).pairs = (k, v) :: (t.remove k).pairs := rfl

/-- What is left after a key was dropped keeps its order. -/
theorem pairs_remove (t : Table K V) (k : K) : (t.remove k).pairs = t.pairs.filter fun e => e.1 ≠ k := by
  have others : t.entries.kerase k = t.entries.filter fun e => e.1 ≠ k := by
    have nodup := t.nodupKeys
    generalize t.entries = entries at nodup
    induction entries with
    | nil => rfl
    | cons e rest ih =>
      obtain ⟨fresh, nodup⟩ := List.nodupKeys_cons.mp nodup
      by_cases same : k = e.1
      · subst same
        have kept : ∀ x ∈ rest, x.1 ≠ e.1 := fun x listed eq => fresh (eq ▸ List.mem_keys_of_mem listed)
        rw [List.kerase_cons_eq rfl, List.filter_cons_of_neg (by simp), List.filter_eq_self.mpr fun x listed => by
          simpa using kept x listed]
      · rw [List.kerase_cons_ne same, List.filter_cons_of_pos (by simpa using Ne.symm same), ih nodup]
  simp only [pairs, remove, AList.erase, others, List.filter_map]
  rfl

section filterMap
variable {α : Type} {t : Table K V} {k : K} {v : V} {f : K × V → Option α}

/-- A new value that gives nothing, in place of one that gave nothing. -/
theorem filterMap_set (quiet : f (k, v) = none) (was : ∀ w, t.get k = some w → f (k, w) = none) :
    (t.set k v).pairs.filterMap f = t.pairs.filterMap f := by
  rw [pairs_set, List.filterMap_cons_none quiet, pairs_remove, List.filterMap_filter]
  refine List.filterMap_congr fun e listed => ?_
  by_cases same : e.1 = k
  · subst same
    simp [was e.2 (get_eq_some_iff.mpr listed)]
  · simp [same]

theorem filterMap_set_le (quiet : f (k, v) = none) :
    ((t.set k v).pairs.filterMap f).length ≤ (t.pairs.filterMap f).length := by
  rw [pairs_set, List.filterMap_cons_none quiet, pairs_remove]
  exact (List.filter_sublist.filterMap f).length_le

/-- In place of one that gave something. -/
theorem filterMap_set_lt (quiet : f (k, v) = none) {w : V} (was : t.get k = some w) (gave : (f (k, w)).isSome) :
    ((t.set k v).pairs.filterMap f).length < (t.pairs.filterMap f).length := by
  rw [pairs_set, List.filterMap_cons_none quiet, pairs_remove]
  obtain ⟨before, after, split⟩ := List.append_of_mem (get_eq_some_iff.mp was)
  obtain ⟨a, gave⟩ := Option.isSome_iff_exists.mp gave
  have fewer : ∀ l : List (K × V), ((l.filter fun e => e.1 ≠ k).filterMap f).length ≤ (l.filterMap f).length :=
    fun l => (List.filter_sublist.filterMap f).length_le
  have first := fewer before
  have last := fewer after
  simp only [split, List.filter_append, List.filterMap_append, List.length_append, List.filterMap_cons_some gave,
    List.length_cons]
  rw [List.filter_cons_of_neg (by simp)]
  omega

end filterMap

@[simp] theorem get_set_self (t : Table K V) (k : K) (v : V) : (t.set k v).get k = some v := by simp [get_set]
@[simp] theorem get_remove_self (t : Table K V) (k : K) : (t.remove k).get k = none := by simp [get_remove]
theorem get_set_ne (t : Table K V) {k j : K} (other : j ≠ k) (v : V) : (t.set k v).get j = t.get j := by
  simp [get_set, other]
theorem get_remove_ne (t : Table K V) {k j : K} (other : j ≠ k) : (t.remove k).get j = t.get j := by
  simp [get_remove, other]

omit [DecidableEq K] in
theorem pairs_nodup (t : Table K V) : (t.pairs.map Prod.fst).Nodup := by
  rw [pairs, List.map_map]
  exact t.nodupKeys

/-- All values of a table stored over those of another. -/
theorem get_foldl_set {W : Type} (g : V → W) (t : Table K V) (base : Table K W) (k : K) :
    get (t.pairs.foldl (fun b e => b.set e.1 (g e.2)) base) k = ((t.get k).map g).or (base.get k) := by
  have absent : ∀ (l : List (K × V)) (b : Table K W), k ∉ l.map Prod.fst →
      get (l.foldl (fun b e => b.set e.1 (g e.2)) b) k = b.get k := by
    intro l
    induction l with
    | nil => exact fun _ _ => rfl
    | cons e rest ih =>
      intro b fresh
      rw [List.map_cons, List.mem_cons, not_or] at fresh
      rw [List.foldl_cons, ih _ fresh.2, get_set_ne _ fresh.1]
  have present : ∀ (l : List (K × V)) (b : Table K W) (v : V), (l.map Prod.fst).Nodup → (k, v) ∈ l →
      get (l.foldl (fun b e => b.set e.1 (g e.2)) b) k = some (g v) := by
    intro l
    induction l with
    | nil => simp
    | cons e rest ih =>
      intro b v nodup listed
      obtain ⟨fresh, nodup⟩ := List.nodup_cons.mp nodup
      rcases List.mem_cons.mp listed with rfl | later
      · rw [List.foldl_cons, absent rest _ fresh, get_set_self]
      · exact ih _ v nodup later
  cases stored : t.get k with
  | some v => exact present t.pairs base v t.pairs_nodup (get_eq_some_iff.mp stored)
  | none =>
    refine absent t.pairs base fun listed => ?_
    obtain ⟨e, pair, rfl⟩ := List.mem_map.mp listed
    rw [get_eq_some_iff.mpr pair] at stored
    cases stored

/-- The values whose keys pass a test, stored over those of another table. -/
theorem get_foldl_set_where (keep : K → Bool) (t base : Table K V) (k : K) :
    get (t.pairs.foldl (fun b e => if keep e.1 then b.set e.1 e.2 else b) base) k =
      if keep k then (t.get k).or (base.get k) else base.get k := by
  have kept : t.pairs.foldl (fun b e => if keep e.1 then b.set e.1 e.2 else b) base =
      (t.retain fun j _ => keep j).pairs.foldl (fun b e => b.set e.1 e.2) base := by
    have retained : (t.retain fun j _ => keep j).pairs = t.pairs.filter fun e => keep e.1 := by
      rw [pairs, pairs, List.filter_map]
      rfl
    rw [retained, List.foldl_filter]
  rw [kept, get_foldl_set (fun v => v), get_retain]
  cases keep k <;> cases t.get k <;> simp

end Table
end RustOp.Effects
