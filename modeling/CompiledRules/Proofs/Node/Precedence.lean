import CompiledRules.Proofs.Node.Printer
import Mathlib

/-!
# Bodies with the fewest parentheses

A body is read back from its text with only those parentheses that its shape needs. Of all texts that stand for the body,
with any parentheses around its parts, none is shorter.
-/

namespace CompiledRules.Node

open CompiledRules.Parser

variable {n : Node} {text : Text} {t t' own : Tightness}

/-! ## The text stands for the body -/

theorem Tightness.rank_le_primary (t : Tightness) : t.rank ≤ Tightness.primary.rank := by cases t <;> decide

theorem Written.atLeast (h : Written own n text) (t : Tightness) : Written t n (atLeast t own text) := by
  rw [Node.atLeast]
  split
  · exact h.mono ‹_›
  · have hinside : Written .disjunction n text := h.mono (Nat.zero_le _)
    exact Written.mono (.parenthesised hinside) t.rank_le_primary

mutual

theorem written_render : (n : Node) → n.WellFormed → (t : Tightness) → Written t n (n.render t)
  | .literal _, h, t => Written.mono (.literal h) t.rank_le_primary
  | .target _, h, t => Written.mono (.target h) t.rank_le_primary
  | .parameter _, h, t => Written.mono (.parameter h) t.rank_le_primary
  | .this _, h, t => Written.mono (.this h) t.rank_le_primary
  | .call _ args, h, t => Written.mono (.call (writtenAll_renderAll args h)) t.rank_le_primary
  | .compare _ left right, h, t =>
      Written.atLeast (.compare h.1 (written_render left h.2.1 .negation) (written_render right h.2.2 .negation)) t
  | .and left right, h, t =>
      Written.atLeast (.and (written_render left h.1 .conjunction) (written_render right h.2 .comparison)) t
  | .or left right, h, t =>
      Written.atLeast (.or (written_render left h.1 .disjunction) (written_render right h.2 .exclusion)) t
  | .xor left right, h, t =>
      Written.atLeast (.xor (written_render left h.1 .exclusion) (written_render right h.2 .conjunction)) t
  | .not operand, h, t => Written.atLeast (.not (written_render operand h .negation)) t

theorem writtenAll_renderAll : (ns : List Node) → WellFormedAll ns → WrittenAll ns (renderAll ns)
  | [], _ => .nil
  | n :: ns, h => .cons (written_render n h.1 .disjunction) (writtenAll_renderAll ns h.2)

end

/-! ## No text is shorter -/

theorem length_inParentheses (text : Text) : (inParentheses text).length = text.length + 2 := by simp [inParentheses]

/-- An operation that stands where it may gets no parentheses, and is no longer than its operands make it. -/
theorem length_operation_le {operator : String} {left right a b : Text} (hleft : left.length ≤ a.length)
    (hright : right.length ≤ b.length) :
    (atLeast own own (binaryText left operator right)).length ≤ (binaryText a operator b).length := by
  rw [atLeast, if_pos (Nat.le_refl _)]
  simp only [binaryText, List.length_append, List.length_cons]
  omega

theorem length_atLeast_mono (h : t'.rank ≤ t.rank) : (atLeast t' own text).length ≤ (atLeast t own text).length := by
  unfold atLeast
  split
  · split
    · exact Nat.le_refl _
    · rw [length_inParentheses]
      omega
  · rw [if_neg (by omega)]

/-- Parentheses are two characters. -/
theorem length_atLeast_le (t t' own : Tightness) (text : Text) :
    (atLeast t own text).length ≤ (atLeast t' own text).length + 2 := by
  have hlong (t : Tightness) : text.length ≤ (atLeast t own text).length := by
    unfold atLeast
    split
    · exact Nat.le_refl _
    · rw [length_inParentheses]
      omega
  have hshort : (atLeast t own text).length ≤ text.length + 2 := by
    unfold atLeast
    split
    · omega
    · rw [length_inParentheses]
  have := hlong t'
  omega

theorem length_render_mono (n : Node) (h : t'.rank ≤ t.rank) : (n.render t').length ≤ (n.render t).length := by
  cases n with
  | literal | target | parameter | this | call => exact Nat.le_refl _
  | compare | and | or | xor | not => exact length_atLeast_mono h

theorem length_render_le (n : Node) (t t' : Tightness) : (n.render t).length ≤ (n.render t').length + 2 := by
  cases n with
  | literal | target | parameter | this | call => exact Nat.le_add_right _ _
  | compare | and | or | xor | not => exact length_atLeast_le t t' _ _

theorem length_commaJoined_le {xs ys : List Text} (h : List.Forall₂ (fun x y => x.length ≤ y.length) xs ys) :
    (Text.commaJoined xs).length ≤ (Text.commaJoined ys).length := by
  induction h with
  | nil => exact Nat.le_refl _
  | @cons x y xs ys hxy hrest ih =>
      cases hrest with
      | nil => exact hxy
      | cons _ _ =>
          simp only [Text.commaJoined, List.length_append] at ih ⊢
          omega

theorem length_callText_le {name : String} {xs ys : List Text} (h : List.Forall₂ (fun x y => x.length ≤ y.length) xs ys) :
    (callText name xs).length ≤ (callText name ys).length := by
  have hargs := length_commaJoined_le h
  have haround (u v : Text) : (u ++ Text.commaJoined xs ++ v).length ≤ (u ++ Text.commaJoined ys ++ v).length := by
    simp only [List.length_append]
    omega
  unfold callText
  exact haround _ _

mutual

theorem Written.length_render_le : {t : Tightness} → {n : Node} → {text : Text} → Written t n text →
    (n.render t).length ≤ text.length
  | _, _, _, .literal _ => Nat.le_refl _
  | _, _, _, .target _ => Nat.le_refl _
  | _, _, _, .parameter _ => Nat.le_refl _
  | _, _, _, .this _ => Nat.le_refl _
  | _, _, _, .call hargs => length_callText_le hargs.length_renderAll_le
  | _, n, _, .parenthesised h => by
      have hinside := h.length_render_le
      have hparentheses := Node.length_render_le n .primary .disjunction
      rw [length_inParentheses]
      omega
  | _, _, _, .not h => Nat.succ_le_succ h.length_render_le
  | _, _, _, .compare _ ha hb => length_operation_le ha.length_render_le hb.length_render_le
  | _, _, _, .and ha hb => length_operation_le ha.length_render_le hb.length_render_le
  | _, _, _, .xor ha hb => length_operation_le ha.length_render_le hb.length_render_le
  | _, _, _, .or ha hb => length_operation_le ha.length_render_le hb.length_render_le
  | _, n, _, .looser ht h => Nat.le_trans (length_render_mono n (by omega)) h.length_render_le

theorem WrittenAll.length_renderAll_le : {ns : List Node} → {texts : List Text} → WrittenAll ns texts →
    List.Forall₂ (fun x y => x.length ≤ y.length) (renderAll ns) texts
  | _, _, .nil => .nil
  | _, _, .cons h hs => .cons h.length_render_le hs.length_renderAll_le

end

/-! ## Reading it back -/

/-- A well-formed body is read back from its text with the fewest parentheses. Every other text that stands for it, with
more parentheses than the precedence asks for, is read as the body as well, and is at least as long. -/
theorem ofText_text (h : n.WellFormed) :
    ofText (String.ofList n.text) = .ok n ∧ Written .disjunction n n.text ∧
      ∀ text, Written .disjunction n text → ofText (String.ofList text) = .ok n ∧ n.text.length ≤ text.length := by
  have hwritten : Written .disjunction n n.text := written_render n h .disjunction
  exact ⟨hwritten.ofText_eq, hwritten, fun text htext => ⟨htext.ofText_eq, htext.length_render_le⟩⟩

/-- The body with the text `mixedText`. -/
def mixedBody : Node :=
  .or
    (.xor
      (.and
        (.compare .neq
          (.not (.compare .isIn (.target ["a", "b\""]) (.literal (.list [.int 1, .string "]"]))))
          (.not (.this "xor")))
        (.or (.parameter (.positional 7)) (.compare .lt (.literal (.float (.zero true))) (.literal .null))))
      (.xor (.parameter (.named "p")) (.not (.not (.literal (.bool true))))))
    (.call "f" [.and (.literal (.int (-1))) (.and (.literal (.bool false)) (.literal .null))])

def mixedText : String :=
  "!($target[\"a\"][\"b\\\"\"] in [1, \"]\"]) != !$this->xor && ($parameters[7] || -0.0 < null) " ++
    "xor ($parameters[\"p\"] xor !!true) || $operators[\"f\"](-1 && (false && null))"

theorem ofText_text_mixedBody :
    mixedBody.WellFormed ∧ ofText mixedText = .ok mixedBody ∧ mixedBody.text.length ≤ mixedBody.display.length := by
  have hformed : mixedBody.WellFormed := by
    have hword : Text.isWord "xor".toList = true := by decide
    have hindex : (Parameter.positional 7).InRange := by simp [Parameter.InRange]
    exact ⟨⟨⟨⟨trivial, ⟨trivial, List.cons_ne_nil _ _, rfl⟩, hword⟩, hindex, trivial, rfl, rfl⟩, trivial, rfl⟩,
      ⟨rfl, rfl, rfl⟩, trivial⟩
  have htext : String.ofList mixedBody.text = mixedText := by decide +kernel
  obtain ⟨hread, -, hshortest⟩ := ofText_text hformed
  exact ⟨hformed, htext ▸ hread, (hshortest _ ((written_display _ hformed).mono (Nat.zero_le _))).2⟩

end CompiledRules.Node
