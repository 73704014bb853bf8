import CompiledRules.Proofs.Node.Written
import Mathlib

/-!
# Printed bodies

A body whose parts all have a text is read back from the text with all parentheses.
-/

namespace CompiledRules.Node

open CompiledRules.Parser

mutual

/-- Every part of the body has a text: literals are finite, paths have a segment, constants are words, comparisons have
a symbol, and indices are of 64 bits. -/
def WellFormed : Node → Prop
  | .literal v => v.isFinite = true
  | .target segments => segments ≠ []
  | .parameter p => p.InRange
  | .this name => Text.isWord name.toList = true
  | .call _ args => WellFormedAll args
  | .compare op left right => op.HasSymbol ∧ WellFormed left ∧ WellFormed right
  | .and left right => WellFormed left ∧ WellFormed right
  | .or left right => WellFormed left ∧ WellFormed right
  | .xor left right => WellFormed left ∧ WellFormed right
  | .not operand => WellFormed operand

/-- Every part of the bodies has a text. -/
def WellFormedAll : List Node → Prop
  | [] => True
  | node :: nodes => WellFormed node ∧ WellFormedAll nodes

end

theorem Tightness.rank_injective {t t' : Tightness} (h : t.rank = t'.rank) : t = t' := by
  cases t <;> cases t' <;> first | rfl | cases h

theorem Tightness.exists_looser {t : Tightness} (h : 0 < t.rank) : ∃ u : Tightness, t.rank = u.rank + 1 := by
  cases t with
  | disjunction => cases h
  | exclusion => exact ⟨.disjunction, rfl⟩
  | conjunction => exact ⟨.exclusion, rfl⟩
  | comparison => exact ⟨.conjunction, rfl⟩
  | negation => exact ⟨.comparison, rfl⟩
  | primary => exact ⟨.negation, rfl⟩

/-- What binds tighter may stand in every looser place. -/
theorem Written.mono {t t' : Tightness} {n : Node} {text : Text} (h : Written t n text) (hle : t'.rank ≤ t.rank) :
    Written t' n text := by
  obtain ⟨k, hk⟩ := Nat.exists_eq_add_of_le hle
  induction k generalizing t with
  | zero => rwa [Tightness.rank_injective hk] at h
  | succ k ih =>
      obtain ⟨u, hu⟩ := Tightness.exists_looser (t := t) (by omega)
      exact ih (.looser hu h) (by omega) (by omega)

/-- An operation in parentheses may stand as an operand. -/
theorem Written.enclosed {t : Tightness} {n : Node} {text : Text} (h : Written t n text) :
    Written .negation n (inParentheses text) :=
  .looser rfl (.parenthesised (h.mono (Nat.zero_le _)))

mutual

theorem written_display : (n : Node) → n.WellFormed → Written .negation n n.display
  | .literal _, h => .looser rfl (.literal h)
  | .target _, h => .looser rfl (.target h)
  | .parameter _, h => .looser rfl (.parameter h)
  | .this _, h => .looser rfl (.this h)
  | .call _ args, h => .looser rfl (.call (writtenAll_displayAll args h))
  | .compare _ left right, h => .enclosed (.compare h.1 (written_display left h.2.1) (written_display right h.2.2))
  | .and left right, h =>
      .enclosed (.and ((written_display left h.1).mono (by decide)) ((written_display right h.2).mono (by decide)))
  | .or left right, h =>
      .enclosed (.or ((written_display left h.1).mono (by decide)) ((written_display right h.2).mono (by decide)))
  | .xor left right, h =>
      .enclosed (.xor ((written_display left h.1).mono (by decide)) ((written_display right h.2).mono (by decide)))
  | .not operand, h => .not (written_display operand h)

theorem writtenAll_displayAll : (ns : List Node) → WellFormedAll ns → WrittenAll ns (displayAll ns)
  | [], _ => .nil
  | n :: ns, h => .cons ((written_display n h.1).mono (by decide)) (writtenAll_displayAll ns h.2)

end

/-! ## Whole texts -/

/-- The body that a text is, apart from blanks behind it. -/
def ofText (text : String) : Except Failure Node :=
  complete (do let node ← Grammar.body; blanks; return node) text.toList

theorem ofText_eq_ok {text : String} {n : Node} :
    ofText text = .ok n ↔ ∃ r, Grammar.body text.toList = .ok (n, r) ∧ r.dropWhile Text.isBlank = [] := by
  have hblanks : ∀ s, blanks s = .ok ((), s.dropWhile Text.isBlank) := fun _ => rfl
  unfold ofText complete
  cases hbody : Grammar.body text.toList with
  | error e =>
      rw [bind_error hbody]
      exact ⟨nofun, nofun⟩
  | ok out =>
      obtain ⟨m, r⟩ := out
      rw [bind_ok hbody, bind_ok (hblanks r), pure_apply]
      cases hr : r.dropWhile Text.isBlank with
      | nil =>
          refine ⟨fun h => ⟨r, ?_, hr⟩, fun ⟨_, h, _⟩ => ?_⟩
          · cases h
            rfl
          · cases h
            rfl
      | cons c u => exact ⟨nofun, fun ⟨_, h, h'⟩ => by cases h; rw [hr] at h'; cases h'⟩

theorem Written.ofText_eq {n : Node} {text : Text} (h : Written .disjunction n text) :
    ofText (String.ofList text) = .ok n := by
  have hbody := h.body_eq Grammar.endsBody_nil
  rw [List.append_nil] at hbody
  exact ofText_eq_ok.mpr ⟨[], by rwa [String.toList_ofList], rfl⟩

/-- A well-formed body is read back from its text. -/
theorem WellFormed.ofText_display {n : Node} (h : n.WellFormed) : ofText (String.ofList n.display) = .ok n :=
  ((written_display n h).mono (Nat.zero_le _)).ofText_eq

end CompiledRules.Node
