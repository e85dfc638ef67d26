import RustOp.Occurrences
import RustOp.Web.AcceptLanguage
import RustOp.Web.Catalog

/-!
Markers in a text and what they are replaced with. The loop over markers is read
as equations for the beginning of a text; with them, a marker is told apart from
what stands around it.
-/
namespace RustOp.Web
open Occurrences

def OPEN : List Char := ['[', '[']
def CLOSE : List Char := [']', ']']

/-- What is shown for a key with a translation. -/
def shown (lang : Lang) (key : List Char) (ja : String) : List Char := if lang = .Ja then ja.toList else key

/-- The loop over the markers, of which there are at most `fuel`. -/
def markersFrom (lang : Lang) : Nat → List Char → List Char
  | 0, rest => rest
  | fuel + 1, rest =>
    match find OPEN rest with
    | none => rest
    | some (before, after) =>
      match find CLOSE after with
      | none => rest
      | some (key, behind) =>
        match translate (String.ofList key) with
        | some ja => before ++ shown lang key ja ++ markersFrom lang fuel behind
        | none => before ++ OPEN ++ markersFrom lang fuel after

/-- A text without its markers. -/
def markers (lang : Lang) (text : List Char) : List Char := markersFrom lang text.length text

def LANG : List Char := ['_', '_', 'L', 'A', 'N', 'G', '_', '_']

def localize (template : String) (lang : Lang) : String :=
  String.ofList (replace LANG lang.code.toList (markers lang template.toList))

/-! ### The loop -/

private theorem find_pair_length {c : Char} {text before after : List Char} (found : find [c, c] text = some (before, after)) :
    before.length + 2 + after.length = text.length := by
  rw [find_whole found]
  simp only [List.length_append, List.length_cons, List.length_nil]

/-- Fuel for every character is enough. -/
theorem markersFrom_enough {lang : Lang} {fuel fuel' : Nat} {rest : List Char} (enough : rest.length ≤ fuel)
    (enough' : rest.length ≤ fuel') : markersFrom lang fuel rest = markersFrom lang fuel' rest := by
  induction fuel generalizing fuel' rest with
  | zero =>
    obtain rfl := List.eq_nil_of_length_eq_zero (Nat.le_zero.mp enough)
    cases fuel' <;> rfl
  | succ fuel ih =>
    cases fuel' with
    | zero =>
      obtain rfl := List.eq_nil_of_length_eq_zero (Nat.le_zero.mp enough')
      rfl
    | succ fuel' =>
      rw [markersFrom, markersFrom]
      cases opened : find OPEN rest with
      | none => rfl
      | some parts =>
        obtain ⟨before, after⟩ := parts
        have shorter := find_pair_length opened
        dsimp only
        cases closed : find CLOSE after with
        | none => rfl
        | some parts =>
          obtain ⟨key, behind⟩ := parts
          have shorter' := find_pair_length closed
          dsimp only
          rw [@ih fuel' behind (by omega) (by omega), @ih fuel' after (by omega) (by omega)]

variable {lang : Lang}

@[simp] theorem markers_nil : markers lang [] = [] := rfl

private theorem markers_round (fuel : Nat) (rest : List Char) (enough : rest.length ≤ fuel) :
    markers lang rest = markersFrom lang fuel rest :=
  markersFrom_enough le_rfl enough

/-- A character that begins no marker stays. -/
theorem markers_cons {c : Char} {rest : List Char} (plain : ¬ OPEN <+: c :: rest) :
    markers lang (c :: rest) = c :: markers lang rest := by
  rw [markers_round (rest.length + 1) (c :: rest) (by simp), markers_round (rest.length + 1) rest (by simp), markersFrom, markersFrom,
    find, if_neg (by rwa [List.isPrefixOf_iff_prefix])]
  cases find OPEN rest with
  | none => rfl
  | some parts =>
    obtain ⟨before, after⟩ := parts
    simp only [Option.map_some]
    cases find CLOSE after with
    | none => rfl
    | some parts =>
      obtain ⟨key, behind⟩ := parts
      dsimp only
      cases translate (String.ofList key) <;> rfl

private theorem find_open (after : List Char) : find OPEN (OPEN ++ after) = some ([], after) := by
  have here : OPEN.isPrefixOf ('[' :: '[' :: after) := List.isPrefixOf_iff_prefix.mpr ⟨after, rfl⟩
  change find OPEN ('[' :: '[' :: after) = _
  rw [find, if_pos here]
  rfl

/-- An open bracket pair that is never closed stays, with all behind it. -/
theorem markers_unclosed {after : List Char} (unclosed : find CLOSE after = none) :
    markers lang (OPEN ++ after) = OPEN ++ after := by
  rw [markers_round ((OPEN ++ after).length + 1) _ (by simp), markersFrom, find_open]
  dsimp only
  rw [unclosed]

/-- A marker is replaced. -/
theorem markers_known {after key behind : List Char} (closed : find CLOSE after = some (key, behind)) {ja : String}
    (known : translate (String.ofList key) = some ja) :
    markers lang (OPEN ++ after) = shown lang key ja ++ markers lang behind := by
  have shorter := find_pair_length closed
  rw [markers_round (after.length + 1 + 1) (OPEN ++ after) (by simp [OPEN]), markersFrom, find_open]
  dsimp only
  rw [closed]
  dsimp only
  rw [known, markers_round (after.length + 1) behind (by omega)]
  rfl

/-- Of what is no marker, the open bracket pair stays. -/
theorem markers_unknown {after key behind : List Char} (closed : find CLOSE after = some (key, behind))
    (unknown : translate (String.ofList key) = none) : markers lang (OPEN ++ after) = OPEN ++ markers lang after := by
  rw [markers_round (after.length + 1 + 1) (OPEN ++ after) (by simp [OPEN]), markersFrom, find_open]
  dsimp only
  rw [closed]
  dsimp only
  rw [unknown, markers_round (after.length + 1) after (by omega)]
  rfl

/-! ### Pairs of brackets -/

private theorem pair_prefix {c a : Char} {rest : List Char} : [c, c] <+: a :: rest ↔ a = c ∧ rest.head? = some c := by
  rw [List.cons_prefix_cons]
  cases rest with
  | nil => simp
  | cons b rest => simp [List.cons_prefix_cons, eq_comm]

private theorem find_pair_cons {c a : Char} {rest : List Char} :
    find [c, c] (a :: rest) = none ↔ ¬ [c, c] <+: a :: rest ∧ find [c, c] rest = none := by
  rw [find]
  by_cases here : [c, c] <+: a :: rest
  · rw [if_pos (List.isPrefixOf_iff_prefix.mpr here)]
    simp [here]
  · rw [if_neg (by rwa [List.isPrefixOf_iff_prefix])]
    simp [here]

private theorem find_of_not_doubled {c : Char} {text : List Char} (single : doubled c text = false) : find [c, c] text = none := by
  induction text with
  | nil => rfl
  | cons a rest ih =>
    rw [find_pair_cons, pair_prefix]
    cases rest with
    | nil => simp [find]
    | cons b rest =>
      rw [doubled, Bool.or_eq_false_iff] at single
      refine ⟨?_, ih single.2⟩
      rintro ⟨rfl, same⟩
      simp_all

/-- Another character keeps pairs apart. -/
private theorem find_pair_append {c x : Char} (other : x ≠ c) {w w' : List Char} (none : find [c, c] w = none)
    (none' : find [c, c] w' = .none) : find [c, c] (w ++ x :: w') = .none := by
  induction w with
  | nil =>
    rw [List.nil_append, find_pair_cons, pair_prefix]
    exact ⟨fun same => other same.1, none'⟩
  | cons a w ih =>
    rw [find_pair_cons, pair_prefix] at none
    rw [List.cons_append, find_pair_cons, pair_prefix]
    refine ⟨fun ⟨same, next⟩ => none.1 ⟨same, ?_⟩, ih none.2⟩
    cases w with
    | nil => exact absurd (Option.some.inj next) other
    | cons b w => exact next

/-- The first pair after a text without one. -/
private theorem find_pair_first {c : Char} {w : List Char} (none : find [c, c] w = none) (last : w.getLast? ≠ some c)
    (v : List Char) : find [c, c] (w ++ ([c, c] ++ v)) = some (w, v) := by
  induction w with
  | nil =>
    have here : [c, c].isPrefixOf (c :: c :: v) := List.isPrefixOf_iff_prefix.mpr ⟨v, rfl⟩
    change find [c, c] (c :: c :: v) = _
    rw [find, if_pos here]
    rfl
  | cons a w ih =>
    rw [find_pair_cons, pair_prefix] at none
    have not_here : ¬ [c, c] <+: a :: (w ++ ([c, c] ++ v)) := by
      rw [ pair_prefix]
      rintro ⟨rfl, next⟩
      cases w with
      | nil => simp at last
      | cons b w => exact none.1 ⟨rfl, next⟩
    have later : w.getLast? ≠ some c := by
      cases w with
      | nil => simp
      | cons b w => rwa [List.getLast?_cons_cons] at last
    rw [List.cons_append, find, if_neg (by rwa [List.isPrefixOf_iff_prefix]), ih none.2 later]
    rfl

/-- A text without an open bracket pair stays. -/
private theorem markers_plain {t : List Char} (none : find OPEN t = none) (last : t.getLast? ≠ some '[') (x : List Char) :
    markers lang (t ++ x) = t ++ markers lang x := by
  induction t with
  | nil => rfl
  | cons a t ih =>
    rw [OPEN, find_pair_cons, pair_prefix] at none
    have not_here : ¬ OPEN <+: a :: (t ++ x) := by
      rw [OPEN, pair_prefix]
      rintro ⟨rfl, next⟩
      cases t with
      | nil => simp at last
      | cons b t => exact none.1 ⟨rfl, next⟩
    have later : t.getLast? ≠ some '[' := by
      cases t with
      | nil => simp
      | cons b t => rwa [List.getLast?_cons_cons] at last
    rw [List.cons_append, markers_cons not_here, ih none.2 later]
    rfl

/-! ### What stands before a marker -/

def marker (key : List Char) : List Char := OPEN ++ (key ++ CLOSE)

/-- How many opening brackets a text ends with. -/
def open_run (u : List Char) : Nat := (u.reverse.takeWhile (· == '[')).length

/-- Whether that number is odd, read from the front. -/
private def odd (start : Bool) (u : List Char) : Bool := u.foldl (fun odd c => c == '[' && !odd) start

private theorem open_run_append (u : List Char) (c : Char) :
    open_run (u ++ [c]) = if c = '[' then open_run u + 1 else 0 := by
  simp only [open_run, List.reverse_append, List.reverse_singleton, List.singleton_append, List.takeWhile_cons, beq_iff_eq]
  split <;> rfl

private theorem odd_eq (u : List Char) : odd false u = decide (open_run u % 2 = 1) := by
  induction u using List.reverseRecOn with
  | nil => rfl
  | append_singleton u c ih =>
    have step : odd false (u ++ [c]) = (c == '[' && !odd false u) := by simp [odd]
    rw [step, ih, open_run_append]
    by_cases bracket : c = '['
    · rw [if_pos bracket, bracket, beq_self_eq_true, Bool.true_and, ← decide_not, decide_eq_decide]
      omega
    · rw [if_neg bracket, beq_eq_false_iff_ne.mpr bracket]
      rfl

private theorem odd_cons {c : Char} {rest : List Char} (plain : ¬ OPEN <+: c :: rest) (inside : c = '[' → rest ≠ []) :
    odd false (c :: rest) = odd false rest := by
  by_cases bracket : c = '['
  · cases rest with
    | nil => exact absurd rfl (inside bracket)
    | cons d rest =>
      rw [OPEN, pair_prefix] at plain
      have other : (d == '[') = false := beq_eq_false_iff_ne.mpr fun same => plain ⟨bracket, by rw [same]; rfl⟩
      simp only [odd, List.foldl_cons, other, Bool.false_and]
  · have other : (c == '[') = false := beq_eq_false_iff_ne.mpr bracket
    simp only [odd, List.foldl_cons, other, Bool.false_and]

private theorem odd_open (rest : List Char) : odd false (OPEN ++ rest) = odd false rest := rfl

private theorem odd_close (start : Bool) (key rest : List Char) : odd start (key ++ CLOSE ++ rest) = odd false rest := by
  unfold odd
  rw [List.foldl_append, List.foldl_append]
  rfl

/-- What is known of a key with a translation. -/
private theorem key_text {key : List Char} {ja : String} (known : translate (String.ofList key) = some ja) :
    find OPEN key = none ∧ find CLOSE key = none ∧ key.getLast? ≠ some ']' := by
  have plain := (safe_of_translate known).1
  rw [String.toList_ofList] at plain
  simp only [plain_text, Bool.and_eq_true, Bool.not_eq_true', bne_iff_ne] at plain
  obtain ⟨⟨⟨⟨⟨⟨opens, closes⟩, last⟩, -⟩, -⟩, -⟩, -⟩ := plain
  exact ⟨find_of_not_doubled opens, find_of_not_doubled closes, last⟩

/-- A closing bracket pair behind a key is the first behind it. -/
private theorem find_close {w : List Char} (none : find CLOSE w = none) (last : w.getLast? ≠ some ']') (v : List Char) :
    find CLOSE (w ++ CLOSE ++ v) = some (w, v) := by
  rw [List.append_assoc]
  exact find_pair_first none last v

private theorem markers_without_close {u : List Char} (none : find CLOSE u = none) : markers lang u = u := by
  induction u with
  | nil => rfl
  | cons c u ih =>
    have later := (find_pair_cons.mp none).2
    by_cases opens : OPEN <+: c :: u
    · obtain ⟨after, whole⟩ := opens
      obtain ⟨-, rfl⟩ := List.cons.inj whole
      rw [← whole]
      exact markers_unclosed (find_pair_cons.mp later).2
    · rw [markers_cons opens, ih later]

/-- A key and a closing pair without the opening one. -/
private theorem markers_key {key : List Char} (opens : find OPEN key = none) (v : List Char) :
    markers lang (key ++ CLOSE ++ v) = key ++ CLOSE ++ markers lang v :=
  markers_plain (find_pair_append (by decide) opens rfl) (by simp) v

/-- Behind one opening bracket a key is none. -/
private theorem markers_bracket {key : List Char} {ja : String} (known : translate (String.ofList key) = some ja) (v : List Char) :
    markers lang ('[' :: (key ++ CLOSE ++ v)) = '[' :: (key ++ CLOSE ++ markers lang v) := by
  obtain ⟨opens, closes, last⟩ := key_text known
  by_cases bracket : key.head? = some '['
  · obtain ⟨t, rfl⟩ : ∃ t, key = '[' :: t := ⟨key.tail, (List.cons_head?_tail bracket).symm⟩
    have unknown : translate (String.ofList t) = none := by
      cases translated : translate (String.ofList t) with
      | none => rfl
      | some ja' =>
        have none := @translate_bracket _ (String.ofList ('[' :: t)) _ translated (by rw [String.toList_ofList, String.toList_ofList])
        cases none.symm.trans known
    have last' : t.getLast? ≠ some ']' := by
      cases t with
      | nil => simp
      | cons b t => rwa [List.getLast?_cons_cons] at last
    have closed := find_close (find_pair_cons.mp closes).2 last' v
    exact (markers_unknown closed unknown).trans (congrArg (OPEN ++ ·) (markers_key (find_pair_cons.mp opens).2 v))
  · have not_here : ¬ OPEN <+: '[' :: (key ++ CLOSE ++ v) := by
      rw [OPEN, pair_prefix]
      rintro ⟨-, next⟩
      cases key with
      | nil => simp [CLOSE] at next
      | cons b key => exact bracket next
    rw [markers_cons not_here, markers_key opens]

/-- Behind an open bracket pair, what is no marker without what follows it is none
    with a marker behind it. -/
private theorem markers_open {key u : List Char} {ja : String} (known : translate (String.ofList key) = some ja)
    (unclosed : find CLOSE u = none) (v : List Char) :
    markers lang (OPEN ++ (u ++ marker key ++ v)) = OPEN ++ markers lang (u ++ marker key ++ v) := by
  obtain ⟨-, closes, last⟩ := key_text known
  have whole : u ++ marker key ++ v = (u ++ OPEN ++ key) ++ CLOSE ++ v := by simp [marker]
  have none : find CLOSE (u ++ OPEN ++ key) = .none := by
    have inner : find CLOSE ('[' :: key) = .none := find_pair_append (w := []) (by decide) rfl closes
    simpa [OPEN, CLOSE] using find_pair_append (x := '[') (by decide) unclosed inner
  have last' : (u ++ OPEN ++ key).getLast? ≠ some ']' := by
    cases key using List.reverseRecOn with
    | nil => simp [OPEN]
    | append_singleton key c => simpa using last
  have closed := find_close none last' v
  rw [← whole] at closed
  refine markers_unknown closed ?_
  cases translated : translate (String.ofList (u ++ OPEN ++ key)) with
  | none => rfl
  | some ja' =>
    have opens := (key_text translated).1
    rw [OPEN, find_eq_none (by simp)] at opens
    exact absurd ⟨u, key, rfl⟩ opens

/-- Behind one opening bracket a marker stays. -/
private theorem markers_alone {key : List Char} {ja : String} (known : translate (String.ofList key) = some ja) (v : List Char) :
    markers lang ('[' :: (marker key ++ v)) = '[' :: (marker key ++ markers lang v) := by
  obtain ⟨-, closes, last⟩ := key_text known
  have none : find CLOSE ('[' :: key) = .none := find_pair_append (w := []) (by decide) rfl closes
  have last' : ('[' :: key).getLast? ≠ some ']' := by
    cases key with
    | nil => simp
    | cons b key => rwa [List.getLast?_cons_cons]
  have unknown : translate (String.ofList ('[' :: key)) = .none :=
    translate_bracket known (by rw [String.toList_ofList, String.toList_ofList])
  have whole : '[' :: (marker key ++ v) = OPEN ++ ('[' :: key ++ CLOSE ++ v) := by simp [marker, OPEN]
  rw [whole, markers_unknown (find_close none last' v) unknown, List.cons_append, List.cons_append, markers_bracket known]
  simp [marker, OPEN]

/-- A marker is replaced unless an odd number of opening brackets comes before it. -/
theorem markers_append {key : List Char} {ja : String} (known : translate (String.ofList key) = some ja) (u v : List Char) :
    markers lang (u ++ marker key ++ v) =
      markers lang u ++ (if odd false u then marker key else shown lang key ja) ++ markers lang v := by
  obtain ⟨opens, closes, last⟩ := key_text known
  induction length : u.length using Nat.strong_induction_on generalizing u with
  | _ n ih =>
    by_cases pair : OPEN <+: u
    · obtain ⟨after, rfl⟩ := pair
      have shorter : after.length < n := by
        rw [← length]
        simp [OPEN]
      have later := ih _ shorter after rfl
      rw [odd_open, List.append_assoc OPEN, List.append_assoc OPEN]
      cases closed : find CLOSE after with
      | none =>
        rw [markers_open known closed, later, markers_without_close closed, markers_unclosed closed]
        simp only [List.append_assoc]
      | some parts =>
        obtain ⟨first, behind⟩ := parts
        have closed' := find_append closed (marker key ++ v)
        rw [← List.append_assoc] at closed'
        cases translated : translate (String.ofList first) with
        | none =>
          rw [markers_unknown closed' translated, markers_unknown closed translated, later]
          simp only [List.append_assoc]
        | some ja' =>
          have shorter' := find_pair_length closed
          have whole := find_whole closed
          rw [markers_known closed' translated, markers_known closed translated, ← List.append_assoc behind,
            ih _ (by omega) behind rfl, whole, odd_close]
          simp only [List.append_assoc]
    · cases u with
      | nil =>
        have closed := find_close closes last v
        have here : marker key ++ v = OPEN ++ (key ++ CLOSE ++ v) := by simp [marker]
        rw [List.nil_append, here, markers_known closed known]
        rfl
      | cons c rest =>
        by_cases alone : c = '[' ∧ rest = []
        · obtain ⟨rfl, rfl⟩ := alone
          exact markers_alone known v
        · have not_here : ¬ OPEN <+: c :: (rest ++ marker key ++ v) := by
            rw [OPEN, pair_prefix] at pair ⊢
            rintro ⟨bracket, next⟩
            cases rest with
            | nil => exact alone ⟨bracket, rfl⟩
            | cons d rest => exact pair ⟨bracket, next⟩
          have inside : c = '[' → rest ≠ [] := fun bracket none => alone ⟨bracket, none⟩
          have shorter : rest.length < n := by
            rw [← length]
            simp
          rw [List.cons_append, List.cons_append, markers_cons not_here, markers_cons pair, ih _ shorter rest rfl,
            odd_cons pair inside]
          rfl

/-! ### The language code -/

/-- A piece without doubled underlines, that neither begins nor ends with one, and
    that is no part of the place of the language code. -/
private theorem apart_of {t : List Char} (single : find ['_', '_'] t = none) (first : t.head? ≠ some '_')
    (last : t.getLast? ≠ some '_') {c : Char} (listed : c ∈ t) (other : c ∉ LANG) : Apart LANG t where
  begins := by
    rintro front back rest rfl inside occurs
    rw [find_eq_none (by simp)] at single
    cases back with
    | nil => exact inside rfl
    | cons a back =>
      rw [LANG, List.cons_append, List.cons_prefix_cons] at occurs
      obtain ⟨rfl, occurs⟩ := occurs
      cases back with
      | nil => simp at last
      | cons b back =>
        rw [List.cons_append, List.cons_prefix_cons] at occurs
        obtain ⟨rfl, -⟩ := occurs
        exact single ⟨front, back, by simp⟩
  ends := by
    rintro front back tail rfl inside whole
    rw [find_eq_none (by simp)] at single
    have suffix : front <:+ LANG := ⟨tail, whole.symm⟩
    have pair : ['_', '_'] <:+ LANG := ⟨['_', '_', 'L', 'A', 'N', 'G'], rfl⟩
    by_cases long : 2 ≤ front.length
    · have ends := List.suffix_of_suffix_length_le pair suffix long
      exact single (ends.isInfix.trans (List.prefix_append front back).isInfix)
    · cases front with
      | nil => exact inside rfl
      | cons a front =>
        obtain rfl : front = [] := List.eq_nil_of_length_eq_zero (by rw [List.length_cons] at long; omega)
        obtain ⟨-, same⟩ := List.append_inj' (whole.symm.trans (show LANG = ['_', '_', 'L', 'A', 'N', 'G', '_'] ++ ['_'] from rfl)) rfl
        obtain rfl : a = '_' := by simpa using same
        exact first rfl
  inside := fun inside => other (inside.subset listed)

private theorem apart_of_plain {text : List Char} (plain : plain_text text = true) : Apart LANG text := by
  simp only [plain_text, Bool.and_eq_true, Bool.not_eq_true', bne_iff_ne, List.any_eq_true, decide_eq_true_eq] at plain
  obtain ⟨⟨⟨⟨-, single⟩, first⟩, last⟩, c, listed, other⟩ := plain
  refine apart_of (find_of_not_doubled single) first last listed fun inside => other ?_
  simp only [LANG, List.mem_cons, List.not_mem_nil] at inside ⊢
  tauto

private theorem apart_shown {key : List Char} {ja : String} (known : translate (String.ofList key) = some ja) :
    Apart LANG (shown lang key ja) := by
  obtain ⟨plain, plain', -⟩ := safe_of_translate known
  rw [String.toList_ofList] at plain
  unfold shown
  split
  · exact apart_of_plain plain'
  · exact apart_of_plain plain

private theorem apart_marker {key : List Char} {ja : String} (known : translate (String.ofList key) = some ja) :
    Apart LANG (marker key) := by
  have plain := (safe_of_translate known).1
  rw [String.toList_ofList] at plain
  simp only [plain_text, Bool.and_eq_true, Bool.not_eq_true'] at plain
  have single := find_of_not_doubled plain.1.1.1.2
  have closed : find ['_', '_'] (key ++ CLOSE) = none := find_pair_append (by decide) single rfl
  have opened : find ['_', '_'] ('[' :: (key ++ CLOSE)) = none := find_pair_append (w := []) (by decide) rfl closed
  refine apart_of (c := '[') (find_pair_append (w := []) (by decide) rfl opened) (by simp [marker, OPEN]) (by simp [marker, CLOSE]) ?_ ?_
  · simp [marker, OPEN]
  · decide

/-- A marker behind a text. -/
private theorem localize_eq {key : String} {ja : String} (known : translate key = some ja) (u v : String) :
    (localize (u ++ "[[" ++ key ++ "]]" ++ v) lang).toList = (localize u lang).toList ++
      (if open_run u.toList % 2 = 1 then marker key.toList else shown lang key.toList ja) ++ (localize v lang).toList := by
  have known' : translate (String.ofList key.toList) = some ja := by rwa [String.ofList_toList]
  have whole : (u ++ "[[" ++ key ++ "]]" ++ v).toList = u.toList ++ marker key.toList ++ v.toList := by
    simp [marker, OPEN, CLOSE]
  unfold localize
  simp only [String.toList_ofList]
  rw [whole, markers_append known', odd_eq]
  simp only [decide_eq_true_eq]
  split
  · exact replace_append (apart_marker known') _ _
  · exact replace_append (apart_shown known') _ _

private theorem marker_ne_shown {key : List Char} {ja : String} (known : translate (String.ofList key) = some ja) :
    marker key ≠ shown lang key ja := by
  intro same
  obtain ⟨plain, plain', -⟩ := safe_of_translate known
  rw [String.toList_ofList] at plain
  have none : ∀ text : List Char, plain_text text = true → find OPEN text = .none := by
    intro text plain
    simp only [plain_text, Bool.and_eq_true, Bool.not_eq_true'] at plain
    exact find_of_not_doubled plain.1.1.1.1.1.1
  have opened : find OPEN (marker key) = some ([], key ++ CLOSE) := find_open _
  rw [same] at opened
  unfold shown at opened
  split at opened
  · cases (none _ plain').symm.trans opened
  · cases (none _ plain).symm.trans opened

/-- A text without markers stays. -/
private theorem markers_unmarked {text : List Char}
    (unmarked : ∀ key ja, translate (String.ofList key) = some ja → ¬ marker key <:+: text) : markers lang text = text := by
  induction length : text.length using Nat.strong_induction_on generalizing text with
  | _ n ih =>
    by_cases pair : OPEN <+: text
    · obtain ⟨after, rfl⟩ := pair
      have shorter : after.length < n := by
        rw [← length]
        simp [OPEN]
      cases closed : find CLOSE after with
      | none => exact markers_unclosed closed
      | some parts =>
        obtain ⟨key, behind⟩ := parts
        cases translated : translate (String.ofList key) with
        | none =>
          have later := ih _ shorter (fun key ja known occurs =>
            unmarked key ja known (occurs.trans (List.suffix_append OPEN after).isInfix)) rfl
          rw [markers_unknown closed translated, later]
        | some ja =>
          refine absurd ⟨[], behind, ?_⟩ (unmarked key ja translated)
          rw [find_whole closed]
          simp [marker]
    · cases text with
      | nil => rfl
      | cons c rest =>
        have later := ih rest.length (by rw [← length]; simp) (fun key ja known occurs =>
          unmarked key ja known (occurs.trans (List.suffix_cons c rest).isInfix)) rfl
        rw [markers_cons pair, later]

/-- What is around a marker makes no difference to its translation, unless an odd
    number of opening brackets comes directly before it. -/
private theorem localize_append_iff (lang : Lang) {key ja : String} (known : translate key = some ja) (u v : String) :
    localize (u ++ "[[" ++ key ++ "]]" ++ v) lang = localize u lang ++ (if lang = .Ja then ja else key) ++ localize v lang ↔
      open_run u.toList % 2 = 0 := by
  have known' : translate (String.ofList key.toList) = some ja := by rwa [String.ofList_toList]
  have text : (if lang = .Ja then ja else key).toList = shown lang key.toList ja := by
    unfold shown
    split <;> rfl
  rw [← String.toList_inj, localize_eq known, String.toList_append, String.toList_append, text, List.append_left_inj,
    List.append_right_inj]
  split
  · rename_i uneven
    exact iff_of_false (marker_ne_shown known') (by omega)
  · rename_i even
    exact iff_of_true rfl (by omega)

/-- Localising is told piece by piece around every marker that comes behind an
    even number of opening brackets; nothing else is changed. -/
theorem localize_around (lang : Lang) :
    (∀ key ja, translate key = some ja → ∀ u v,
      (localize (u ++ "[[" ++ key ++ "]]" ++ v) lang =
        localize u lang ++ (if lang = .Ja then ja else key) ++ localize v lang ↔ open_run u.toList % 2 = 0)) ∧
    ∀ text : String, (∀ key ja, translate key = some ja → ¬ marker key.toList <:+: text.toList) → ¬ LANG <:+: text.toList →
      localize text lang = text := by
  refine ⟨fun key ja known u v => localize_append_iff lang known u v, fun text unmarked absent => ?_⟩
  have same : markers lang text.toList = text.toList := markers_unmarked fun key ja known => by
    simpa using unmarked (String.ofList key) ja known
  rw [localize, same, replace_absent absent, String.ofList_toList]

private theorem translate_sign_in : translate "Sign in" = some "サインイン" := by
  unfold translate CATALOG
  rw [List.find?_cons_of_neg (by decide), List.find?_cons_of_pos (by decide)]
  rfl

theorem localize_around_sign_in : localize ("x" ++ "[[" ++ "Sign in" ++ "]]" ++ "y") .Ja =
    localize "x" .Ja ++ (if Lang.Ja = .Ja then "サインイン" else "Sign in") ++ localize "y" .Ja :=
  ((localize_around .Ja).1 "Sign in" "サインイン" translate_sign_in "x" "y").mpr (by decide)

/-- A bracket that a person typed before a marker leaves the marker as it is. -/
theorem localize_behind_bracket :
    localize ("[" ++ "[[" ++ "Sign in" ++ "]]" ++ "") .Ja ≠ localize "[" .Ja ++ "サインイン" ++ localize "" .Ja ∧
    ¬ ∀ lang key ja, translate key = some ja → ∀ u v, localize (u ++ "[[" ++ key ++ "]]" ++ v) lang =
      localize u lang ++ (if lang = .Ja then ja else key) ++ localize v lang := by
  have left : localize ("[" ++ "[[" ++ "Sign in" ++ "]]" ++ "") .Ja ≠ localize "[" .Ja ++ "サインイン" ++ localize "" .Ja := fun same =>
    absurd ((localize_append_iff .Ja translate_sign_in "[" "").mp same) (by decide)
  exact ⟨left, fun all => left (all .Ja "Sign in" "サインイン" translate_sign_in "[" "")⟩

end RustOp.Web
