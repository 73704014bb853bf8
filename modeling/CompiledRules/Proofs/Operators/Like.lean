import CompiledRules.Operators.Basic
import Mathlib

/-!
# Text patterns decide their relation

While a pattern is read, the row tells of every beginning of the text whether the part of the pattern read so far matches
it. So in the end its last entry tells whether the pattern matches the text. Filled index by index, the rows are the same,
and every index is in range.
-/

namespace CompiledRules.Operators

variable {text pattern before : List Char} {row target : List Bool} {p : Char} {j k : Nat}

/-! ## Patterns and their parts -/

theorem matches_nil_iff : Matches [] text ↔ text = [] := by
  constructor
  · intro h
    cases h
    rfl
  · rintro rfl
    exact .empty

theorem matches_run_iff : Matches ('%' :: pattern) text ↔ ∃ rest, rest <:+ text ∧ Matches pattern rest := by
  constructor
  · intro h
    cases h with
    | run hrest h => exact ⟨_, hrest, h⟩
    | same hp _ _ => exact absurd rfl hp
  · rintro ⟨rest, hrest, h⟩
    exact .run hrest h

/-- A character that is no `%` stands for one character. -/
theorem matches_cons_iff (hp : p ≠ '%') :
    Matches (p :: pattern) text ↔ ∃ c rest, text = c :: rest ∧ (p = '_' ∨ p = c) ∧ Matches pattern rest := by
  constructor
  · intro h
    cases h with
    | run _ _ => exact absurd rfl hp
    | one h => exact ⟨_, _, rfl, .inl rfl, h⟩
    | same _ _ h => exact ⟨_, _, rfl, .inr rfl, h⟩
  · rintro ⟨c, rest, rfl, hc, h⟩
    by_cases hone : p = '_'
    · subst hone
      exact .one h
    · obtain rfl : p = c := hc.resolve_left hone
      exact .same hp hone h

theorem matches_append {next : List Char} :
    Matches (before ++ next) text ↔ ∃ u v, text = u ++ v ∧ Matches before u ∧ Matches next v := by
  induction before generalizing text with
  | nil => simp [matches_nil_iff]
  | cons p before ih =>
      rw [List.cons_append]
      by_cases hp : p = '%'
      · subst hp
        simp only [matches_run_iff, ih]
        constructor
        · rintro ⟨rest, ⟨w, rfl⟩, u, v, rfl, hu, hv⟩
          exact ⟨w ++ u, v, (List.append_assoc w u v).symm, ⟨u, List.suffix_append w u, hu⟩, hv⟩
        · rintro ⟨u, v, rfl, ⟨rest, ⟨w, rfl⟩, hrest⟩, hv⟩
          exact ⟨rest ++ v, ⟨w, (List.append_assoc w rest v).symm⟩, rest, v, rfl, hrest, hv⟩
      · simp only [matches_cons_iff hp, ih]
        constructor
        · rintro ⟨c, rest, rfl, hc, u, v, rfl, hu, hv⟩
          exact ⟨c :: u, v, rfl, ⟨c, u, rfl, hc, hu⟩, hv⟩
        · rintro ⟨u, v, rfl, ⟨c, rest, rfl, hc, hrest⟩, hv⟩
          exact ⟨c, rest ++ v, rfl, hc, rest, v, rfl, hrest, hv⟩

/-- A pattern with `%` at its end matches what has a beginning that the rest matches. -/
theorem matches_concat_run : Matches (before ++ ['%']) text ↔ ∃ u, u <+: text ∧ Matches before u := by
  have hrun (v : List Char) : Matches ['%'] v := .run (List.nil_suffix) .empty
  rw [matches_append]
  constructor
  · rintro ⟨u, v, rfl, hu, -⟩
    exact ⟨u, List.prefix_append u v, hu⟩
  · rintro ⟨u, ⟨v, rfl⟩, hu⟩
    exact ⟨u, v, rfl, hu, hrun v⟩

theorem matches_concat (hp : p ≠ '%') :
    Matches (before ++ [p]) text ↔ ∃ u c, text = u ++ [c] ∧ (p = '_' ∨ p = c) ∧ Matches before u := by
  simp only [matches_append, matches_cons_iff hp, matches_nil_iff]
  constructor
  · rintro ⟨u, v, rfl, hu, c, rest, rfl, hc, rfl⟩
    exact ⟨u, c, rfl, hc, hu⟩
  · rintro ⟨u, c, rfl, hc, hu⟩
    exact ⟨u, [c], rfl, hu, c, [], rfl, hc, rfl⟩

/-! ## Rows -/

theorem length_runningOr (seen : Bool) (row : List Bool) : (runningOr seen row).length = row.length := by
  induction row generalizing seen with
  | nil => rfl
  | cons b row ih => rw [runningOr, List.length_cons, ih, List.length_cons]

theorem getElem?_runningOr (seen : Bool) (hj : j < row.length) :
    (runningOr seen row)[j]? = some (seen || (row.take (j + 1)).any id) := by
  induction row generalizing seen j with
  | nil => cases hj
  | cons b row ih =>
      cases j with
      | zero => simp [runningOr]
      | succ j =>
          rw [runningOr, List.getElem?_cons_succ, ih _ (Nat.lt_of_succ_lt_succ hj), List.take_succ_cons, List.any_cons,
            Bool.or_assoc]
          rfl

theorem length_advance (h : row.length = text.length + 1) : (advance text row p).length = text.length + 1 := by
  unfold advance
  split
  · rw [length_runningOr, h]
  · simp [h]

/-- The row of a text after the beginning of a pattern: its entries tell which beginnings of the text match. -/
structure IsRow (text before : List Char) (row : List Bool) : Prop where
  length : row.length = text.length + 1
  entry : ∀ j ≤ text.length, row[j]? = some true ↔ Matches before (text.take j)

theorem isRow_start (text : List Char) : IsRow text [] (true :: text.map fun _ => false) where
  length := by simp
  entry j hj := by
    rw [matches_nil_iff]
    cases j with
    | zero => simp
    | succ j =>
        have hne : text ≠ [] := List.ne_nil_of_length_pos (by omega)
        simp [hne, List.getElem?_replicate]

theorem IsRow.advance_run (h : IsRow text before row) : IsRow text (before ++ ['%']) (advance text row '%') where
  length := length_advance h.length
  entry j hj := by
    have hlt : j < row.length := by rw [h.length]; omega
    rw [matches_concat_run, advance, if_pos rfl, getElem?_runningOr false hlt]
    simp only [Bool.false_or, Option.some.injEq, List.any_eq_true, id_eq, exists_eq_right, List.mem_iff_getElem?]
    constructor
    · rintro ⟨i, hi⟩
      obtain ⟨hle, hi⟩ : i ≤ j ∧ row[i]? = some true := by
        rw [List.getElem?_take] at hi
        split at hi
        · exact ⟨by omega, hi⟩
        · cases hi
      exact ⟨text.take i, List.take_prefix_take_left hle, (h.entry i (by omega)).1 hi⟩
    · rintro ⟨u, hu, hmatches⟩
      have hlength : u.length ≤ j := Nat.le_trans hu.length_le (List.length_take_le j text)
      have htake : u = text.take u.length := List.prefix_iff_eq_take.1 (hu.trans (List.take_prefix j text))
      refine ⟨u.length, ?_⟩
      rw [List.getElem?_take_of_lt (by omega), h.entry u.length (by omega), ← htake]
      exact hmatches

theorem IsRow.advance_other (h : IsRow text before row) (hp : p ≠ '%') :
    IsRow text (before ++ [p]) (advance text row p) where
  length := length_advance h.length
  entry j hj := by
    rw [matches_concat hp, advance, if_neg hp]
    cases j with
    | zero => simp
    | succ j =>
        have hrow : j < row.length := by rw [h.length]; omega
        have htext : j < text.length := hj
        have hentry := h.entry j (by omega)
        rw [List.getElem?_eq_getElem hrow] at hentry
        rw [List.getElem?_cons_succ, List.getElem?_zipWith, List.getElem?_eq_getElem hrow,
          List.getElem?_eq_getElem htext, List.take_succ_eq_append_getElem htext]
        constructor
        · intro hand
          have hboth : row[j] = true ∧ (p = '_' ∨ p = text[j]) := by simpa using hand
          exact ⟨text.take j, text[j], rfl, hboth.2, hentry.1 (congrArg some hboth.1)⟩
        · rintro ⟨u, c, heq, hc, hmatches⟩
          obtain ⟨rfl, hlast⟩ := List.append_inj' heq rfl
          cases hlast
          have htrue : row[j] = true := Option.some.inj (hentry.2 hmatches)
          simpa [htrue] using hc

theorem IsRow.advance (h : IsRow text before row) (p : Char) : IsRow text (before ++ [p]) (advance text row p) := by
  by_cases hp : p = '%'
  · subst hp
    exact h.advance_run
  · exact h.advance_other hp

theorem isRow_foldl (h : IsRow text before row) (pattern : List Char) :
    IsRow text (before ++ pattern) (pattern.foldl (Operators.advance text) row) := by
  induction pattern generalizing before row with
  | nil => rwa [List.append_nil]
  | cons p pattern ih =>
      have hnext := ih (h.advance p)
      rwa [List.append_assoc, List.singleton_append] at hnext

theorem getElem?_last (h : row.length = text.length + 1) : row[text.length]? = some (row.getLastD false) := by
  have hlast : row.getLast? = row[text.length]? := by rw [List.getLast?_eq_getElem?, h, Nat.add_sub_cancel]
  have hlt : text.length < row.length := by omega
  rw [List.getLastD_eq_getLast?, hlast, List.getElem?_eq_getElem hlt, Option.getD_some]

theorem like_eq_true_iff : like text pattern = true ↔ Matches pattern text := by
  have hrow := isRow_foldl (isRow_start text) pattern
  have hlast := hrow.entry text.length (Nat.le_refl _)
  rw [getElem?_last hrow.length, List.nil_append, List.take_length, Option.some.injEq] at hlast
  exact hlast

/-! ## Rows by index -/

/-- The row with an entry written, if the row has this entry. -/
def write? (row : List Bool) (j : Nat) (b : Bool) : Option (List Bool) :=
  if j < row.length then some (row.set j b) else none

/-- The row without a match. -/
def blankRow (text : List Char) : List Bool := List.replicate (text.length + 1) false

/-- Writes one entry after a `%`, and keeps whether there was a match so far. -/
def writeRun? (row : List Bool) (state : Bool × List Bool) (j : Nat) : Option (Bool × List Bool) := do
  let b ← row[j]?
  let next ← write? state.2 j (state.1 || b)
  return (state.1 || b, next)

/-- Writes one entry after another character. -/
def writeOther? (text : List Char) (row : List Bool) (p : Char) (next : List Bool) (j : Nat) : Option (List Bool) := do
  let b ← row[j - 1]?
  let c ← text[j - 1]?
  write? next j (b && (p == '_' || p == c))

/-- The next row, entry by entry. There is none if an index is out of range. -/
def advanceByIndex? (text : List Char) (row : List Bool) (p : Char) : Option (List Bool) :=
  if p = '%' then ((List.range (text.length + 1)).foldlM (writeRun? row) (false, blankRow text)).map Prod.snd
  else (List.range' 1 text.length).foldlM (writeOther? text row p) (blankRow text)

/-- Whether the text matches the pattern, by rows that are read and written by index. There is no answer if an index is
out of range. -/
def likeByIndex? (text pattern : List Char) : Option Bool := do
  let start ← write? (blankRow text) 0 true
  let row ← pattern.foldlM (advanceByIndex? text) start
  row[text.length]?

/-- A loop over the first indices goes through the states that each step leads to. -/
theorem foldlM_range {σ : Type} (step : σ → Nat → Option σ) (state : Nat → σ)
    (h : ∀ j < k, step (state j) j = some (state (j + 1))) : (List.range k).foldlM step (state 0) = some (state k) := by
  induction k with
  | zero => rfl
  | succ k ih =>
      rw [List.range_succ, List.foldlM_append, ih fun j hj => h j (by omega)]
      simp [h k (by omega)]

/-- The row whose first entries are written as in `target`. -/
def written (target : List Bool) (k : Nat) : List Bool := target.take k ++ List.replicate (target.length - k) false

theorem write?_written {b : Bool} (h : target[k]? = some b) :
    write? (written target k) k b = some (written target (k + 1)) := by
  obtain ⟨hlt, rfl⟩ := List.getElem?_eq_some_iff.1 h
  have hrest : target.length - k = target.length - (k + 1) + 1 := by omega
  have hset : (written target k).set k target[k] = written target (k + 1) := by
    rw [written, written, hrest, List.replicate_succ, List.set_append_right _ _ (List.length_take_le k target),
      List.length_take_of_le (Nat.le_of_lt hlt), Nat.sub_self, List.set_cons_zero, List.take_succ_eq_append_getElem hlt,
      List.append_assoc, List.singleton_append]
  have hlength : k < (written target k).length := by
    rw [written, List.length_append, List.length_take_of_le (Nat.le_of_lt hlt), List.length_replicate]
    omega
  rw [write?, if_pos hlength, hset]

theorem written_zero (h : target.length = text.length + 1) : written target 0 = blankRow text := by
  rw [written, List.take_zero, List.nil_append, Nat.sub_zero, h, blankRow]

theorem written_length (h : target.length = k) : written target k = target := by
  rw [written, List.take_of_length_le (Nat.le_of_eq h), h, Nat.sub_self, List.replicate_zero, List.append_nil]

theorem advanceByIndex?_run (h : row.length = text.length + 1) :
    advanceByIndex? text row '%' = some (advance text row '%') := by
  have htarget := length_advance (p := '%') h
  rw [advance, if_pos rfl] at htarget
  -- After `j` steps the flag tells whether one of the first `j` entries is a match.
  have hloop := foldlM_range (k := text.length + 1) (writeRun? row)
    (fun j => ((row.take j).any id, written (runningOr false row) j)) fun j hj => by
      have hlt : j < row.length := by omega
      have hseen : ((row.take j).any id || row[j]) = (row.take (j + 1)).any id := by
        rw [List.take_succ_eq_append_getElem hlt, List.any_append]
        simp
      have hentry := getElem?_runningOr false hlt
      rw [Bool.false_or] at hentry
      simp only [writeRun?, List.getElem?_eq_getElem hlt, hseen, Option.bind_eq_bind, Option.bind_some,
        write?_written hentry]
      rfl
  simp only [List.take_zero, List.any_nil, written_zero htarget, written_length htarget] at hloop
  rw [advanceByIndex?, if_pos rfl, hloop, advance, if_pos rfl, Option.map_some]

theorem advanceByIndex?_other (h : row.length = text.length + 1) (hp : p ≠ '%') :
    advanceByIndex? text row p = some (advance text row p) := by
  have htarget := length_advance (p := p) h
  -- The first entry stays blank, so that the loop starts after it.
  have hstart : written (advance text row p) 1 = blankRow text := by
    rw [written, htarget, advance, if_neg hp, List.take_succ_cons, List.take_zero, Nat.add_sub_cancel, blankRow,
      List.replicate_succ, List.singleton_append]
  have hloop := foldlM_range (k := text.length) (fun next j => writeOther? text row p next (1 + j))
    (fun j => written (advance text row p) (j + 1)) fun j hj => by
      have hrow : j < row.length := by omega
      have hentry : (advance text row p)[j + 1]? = some (row[j] && (p == '_' || p == text[j])) := by
        rw [advance, if_neg hp, List.getElem?_cons_succ, List.getElem?_zipWith, List.getElem?_eq_getElem hrow,
          List.getElem?_eq_getElem hj]
      rw [writeOther?, Nat.add_sub_cancel_left, List.getElem?_eq_getElem hrow, List.getElem?_eq_getElem hj,
        Nat.add_comm 1 j]
      exact write?_written hentry
  rw [hstart, written_length htarget] at hloop
  rw [advanceByIndex?, if_neg hp, List.range'_eq_map_range, List.foldlM_map]
  exact hloop

theorem advanceByIndex?_eq (h : row.length = text.length + 1) (p : Char) :
    advanceByIndex? text row p = some (advance text row p) := by
  by_cases hp : p = '%'
  · subst hp
    exact advanceByIndex?_run h
  · exact advanceByIndex?_other h hp

theorem foldlM_advanceByIndex? (h : row.length = text.length + 1) (pattern : List Char) :
    pattern.foldlM (advanceByIndex? text) row = some (pattern.foldl (advance text) row) := by
  induction pattern generalizing row with
  | nil => rfl
  | cons p pattern ih =>
      rw [List.foldlM_cons, advanceByIndex?_eq h p, List.foldl_cons]
      exact ih (length_advance h)

theorem likeByIndex?_eq (text pattern : List Char) : likeByIndex? text pattern = some (like text pattern) := by
  have hstart : write? (blankRow text) 0 true = some (true :: text.map fun _ => false) := by
    simp [write?, blankRow, List.replicate_succ]
  have hlength := (isRow_start text).length
  have hrow := (isRow_foldl (isRow_start text) pattern).length
  rw [likeByIndex?, hstart, Option.bind_eq_bind, Option.bind_some, foldlM_advanceByIndex? hlength pattern]
  exact getElem?_last hrow

/-! ## The operator -/

/-- The operator `like` tells of every text and pattern whether the pattern matches the text. The rows that it goes by
can be read and written by index, and no index is out of range. -/
theorem call_like (text pattern : String) :
    ∃ b, builtin.call "like" [.string text, .string pattern] = .ok (.bool b) ∧
      (b = true ↔ Matches pattern.toList text.toList) ∧ likeByIndex? text.toList pattern.toList = some b :=
  ⟨like text.toList pattern.toList, rfl, like_eq_true_iff, likeByIndex?_eq text.toList pattern.toList⟩

end CompiledRules.Operators
