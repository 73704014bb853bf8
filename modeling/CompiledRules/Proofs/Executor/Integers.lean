import CompiledRules.Proofs.Assembly
import CompiledRules.Proofs.Executor.Load
import CompiledRules.Proofs.Expr.Positions
import CompiledRules.Proofs.Node.Positions
import Mathlib

/-!
# Integers in rules and units

A numeral that stands for no integer of 64 bits is refused wherever a rule or a unit has a number, and the rule or the
unit with it. The same holds of the index of a parameter.
-/

namespace CompiledRules

open CompiledRules.Parser

namespace Declaration.Grammar

variable {rest s u w : Text}

/-- What stands before the constants of a unit. -/
def opening : Parser Unit := do
  let _ ← ruleComment
  let _ ← unitName
  let _ ← directive "path"
  let _ ← directive "target"
  let _ ← many mixin

/-- What stands before the value of a constant. -/
def constantName : Parser Unit := do
  spacedKeyword "const"
  let _ ← word
  spacedChar '='

/-- What stands before the body in the method. -/
def methodOpening : Parser Unit := do
  methodName
  methodSignature
  blanks
  keyword "return"

/-- The unit has a constant with its value at `w`. -/
def ValueAt (w s : Text) : Prop :=
  ∃ r v, Takes opening s r ∧ Relation.ReflTransGen (Takes constant) r v ∧ Takes constantName v w

/-- The unit has its body at `w`. -/
def BodyAt (w s : Text) : Prop :=
  ∃ r v, Takes opening s r ∧ Takes (many constant) r v ∧ Takes methodOpening v w

/-- A unit has a number at `u`, in the value of a constant or in the body. -/
def NumberAt (u s : Text) : Prop :=
  (∃ w, ValueAt w s ∧ PartAt u w) ∨ ∃ w, BodyAt w s ∧ Node.Grammar.NumberAt u w

/-- A failure for good after the opening fails the unit. -/
theorem unit_aborts {r : Text} (h : Takes opening s r)
    (hr : ∀ finish : List (String × Value) → Node → Parser Declaration, Aborts rest (do
      let constants ← many constant
      let body ← commit method
      finish constants body) r) : Aborts rest unit s := by
  obtain ⟨rule, s₁, hrule, h⟩ := takes_bind.1 h
  obtain ⟨name, s₂, hname, h⟩ := takes_bind.1 h
  obtain ⟨path, s₃, hpath, h⟩ := takes_bind.1 h
  obtain ⟨variant, s₄, hvariant, h⟩ := takes_bind.1 h
  obtain ⟨mixins, s₅, hmixins, _, h⟩ := takes_bind.1 h
  obtain ⟨-, rfl⟩ := pure_eq_ok.1 h
  exact .bind_ok hrule (.bind_ok hname (.bind_ok hpath (.bind_ok hvariant (.bind_ok hmixins (hr _)))))

theorem ValueAt.aborts (h : ValueAt w s) (hw : Aborts rest value w) : Aborts rest unit s := by
  obtain ⟨r, v, hopening, hconstants, hname⟩ := h
  obtain ⟨_, r₁, hkeyword, hname⟩ := takes_bind.1 hname
  obtain ⟨_, r₂, hword, _, hequals⟩ := takes_bind.1 hname
  have hconstant : Aborts rest constant v :=
    .bind_ok hkeyword (.commit (.bind_ok hword (.bind_ok hequals (hw.bind _))))
  exact unit_aborts hopening fun _ => (constant_consumes.many_aborts hconstants hconstant).bind _

theorem BodyAt.aborts (h : BodyAt w s) (hw : Aborts rest Node.Grammar.body w) : Aborts rest unit s := by
  obtain ⟨r, v, hopening, hconstants, hmethod⟩ := h
  obtain ⟨_, r₁, hname, hmethod⟩ := takes_bind.1 hmethod
  obtain ⟨_, r₂, hsignature, hmethod⟩ := takes_bind.1 hmethod
  obtain ⟨_, r₃, hblanks, _, hreturn⟩ := takes_bind.1 hmethod
  have haborts : Aborts rest method v :=
    .bind_ok hname (.bind_ok hsignature (.bind_ok hblanks (.bind_ok hreturn (hw.commit.bind _))))
  exact unit_aborts hopening fun _ => hconstants.bind_aborts fun _ => haborts.commit.bind _

/-- A number that fails for good, wherever it stands in a unit, fails the unit. -/
theorem NumberAt.aborts (h : NumberAt u s) (hu : Aborts rest number u) : Aborts rest unit s := by
  rcases h with ⟨w, hw, hpart⟩ | ⟨w, hw, hnumber⟩
  · exact hw.aborts (hpart.aborts hu)
  · exact hw.aborts (hnumber.aborts hu)

end Declaration.Grammar

/-- The unit is refused for good, with `rest` left to read. -/
def Executor.RefusedAt (rest : Text) (source : String) : Prop := ∃ e : Failure, e.committed = true ∧ e.rest = rest ∧
  Executor.load source = .error (.malformed (String.ofList (e.report source.toList)))

theorem Executor.refusedAt_of_aborts {rest : Text} {source : String}
    (h : Aborts rest Declaration.Grammar.unit source.toList) : Executor.RefusedAt rest source := by
  obtain ⟨e, he, hc, hr⟩ := h.complete
  have hdeclaration : Executor.declaration source = .error (.malformed (String.ofList (e.report source.toList))) := by
    unfold Executor.declaration
    rw [he]
  exact ⟨e, hc, hr, by rw [Executor.load, hdeclaration]; rfl⟩

/-- What has a number at `u` is refused: rules, bodies and units. -/
structure NumberRefused (u rest : Text) : Prop where
  number : Aborts rest number u
  rule : ∀ rule : String, Expr.Grammar.NumberAt u rule.toList → Expr.RefusedAt rest rule
  body : ∀ text : String, Node.Grammar.NumberAt u text.toList → Node.RefusedAt rest text
  unit : ∀ source : String, Declaration.Grammar.NumberAt u source.toList → Executor.RefusedAt rest source

/-- What has an operand at `u` in a body is refused: bodies and units. -/
structure OperandRefused (u rest : Text) : Prop where
  body : ∀ text : String, Node.Grammar.OperandAt u .disjunction text.toList → Node.RefusedAt rest text
  unit : ∀ (source : String) (w : Text), Declaration.Grammar.BodyAt w source.toList →
    Node.Grammar.OperandAt u .disjunction w → Executor.RefusedAt rest source

theorem numberRefused_of_aborts {u rest : Text} (h : Aborts rest number u) : NumberRefused u rest where
  number := h
  rule _ hrule := Expr.refusedAt_of_aborts (hrule.aborts h)
  body _ hbody := Node.refusedAt_of_aborts (hbody.aborts h)
  unit _ hunit := Executor.refusedAt_of_aborts (hunit.aborts h)

theorem operandRefused_of_aborts {u rest : Text} (h : Aborts rest (Node.Grammar.primary Node.Grammar.body) u) :
    OperandRefused u rest where
  body _ hbody := Node.refusedAt_of_aborts (Node.Grammar.body_aborts (hbody.aborts h))
  unit _ _ hunit hoperand := Executor.refusedAt_of_aborts (hunit.aborts (Node.Grammar.body_aborts (hoperand.aborts h)))

/-- Digits, perhaps after a minus sign, are read as the integer that they denote, if it has 64 bits; otherwise
everything with a number there is refused. As the index of a parameter they are read as what they denote, if that has
64 bits without a sign; otherwise everything with that operand is refused. -/
theorem integers_exact (negative : Bool) (ds rest : Text) (hd : Text.IsDigits ds)
    (hrest : continuesNumeral rest = false) :
    let numeral := Double.signedText negative ds ++ rest
    let n := Double.signed negative (Text.decimalValue ds)
    let index := Text.decimalValue ds
    (IsInt64 n → (Int64.ofInt n).toInt = n ∧ number numeral = .ok (.int (Int64.ofInt n), rest) ∧
      value numeral = .ok (.int (Int64.ofInt n), rest)) ∧
    (¬ IsInt64 n → NumberRefused numeral rest) ∧
    (∀ node, Node.ofText (String.ofList (Node.Grammar.indexText ds)) = .ok node ↔
      index < 2 ^ 64 ∧ node = .parameter (.positional index)) ∧
    (index < 2 ^ 64 → ∀ r, Node.Grammar.primary Node.Grammar.body (Node.Grammar.indexText ds ++ r) =
      .ok (.parameter (.positional index), r)) ∧
    (¬ index < 2 ^ 64 → ∀ r, OperandRefused (Node.Grammar.indexText ds ++ r) (ds ++ ']' :: r)) := by
  intro numeral n index
  obtain ⟨m, hwf, hwhole, htext, hvalue⟩ := exists_numeral_digits hd negative
  obtain ⟨hread, haborts⟩ := number_eq hwf hwhole (.of_continuesNumeral hrest)
  rw [htext, hvalue] at hread haborts
  have hindex : index < 2 ^ 64 ↔ index < 0x10000000000000000 := by norm_num
  refine ⟨fun hn => ?_, fun hn => numberRefused_of_aborts (haborts hn), fun node => ?_, fun hi r => ?_, fun hi r => ?_⟩
  · have hvalue : value (m.text ++ rest) = .ok (.int (Int64.ofInt n), rest) :=
      value_number hwf (by rw [htext]; exact hread hn)
    rw [htext] at hvalue
    exact ⟨toInt_ofInt hn, hread hn, hvalue⟩
  · rw [Node.ofText_indexText hd, hindex]
  · exact Node.Grammar.primary_index hd (hindex.1 hi)
  · exact operandRefused_of_aborts (Node.Grammar.primary_aborts_index hd (mt hindex.2 hi))

/-- A numeral one too large in nested lists in parentheses in a call, and in a constant; a smallest one with zeros in
front; and the first index that is too large, after an operator. -/
theorem integers_exact_nested :
    Expr.RefusedAt "]]))".toList "f(a, (b in [1, [9223372036854775808]]))" ∧
    Executor.RefusedAt "];".toList
      "// rule: \"a\"\nunit U \x7b path \"p\"; target \"t\"; const k = [9223372036854775808];" ∧
    number "-009223372036854775808)".toList = .ok (.int (Int64.ofInt (-9223372036854775808)), ")".toList) ∧
    Node.RefusedAt "18446744073709551616]".toList "!true == $parameters[18446744073709551616]" := by
  refine ⟨?_, ?_, ?_, ?_⟩
  · obtain ⟨-, hrefused, -⟩ := integers_exact false "9223372036854775808".toList "]]))".toList (by decide) rfl
    refine (hrefused (by decide)).rule _ ⟨"[1, [9223372036854775808]]))".toList, ?_, ?_⟩
    · refine .disjunct .refl (.exclusive .refl (.conjunct .refl (.negated ⟨[], rfl⟩ (.left ?_))))
      refine .argument "f".toList rfl rfl rfl (.single ⟨(), rfl⟩) ?_
      refine .disjunct .refl (.exclusive .refl (.conjunct .refl (.negated ⟨[], rfl⟩ (.left ?_))))
      refine .parenthesised rfl ?_
      refine .disjunct .refl (.exclusive .refl (.conjunct .refl (.negated ⟨[], rfl⟩ ?_)))
      exact .right ⟨_, rfl⟩ ⟨_, rfl⟩ (.self rfl)
    · exact .item rfl (.single ⟨(), rfl⟩) (.item rfl .refl (.self rfl))
  · obtain ⟨-, hrefused, -⟩ := integers_exact false "9223372036854775808".toList "];".toList (by decide) rfl
    refine (hrefused (by decide)).unit _ (.inl ⟨" [9223372036854775808];".toList, ?_, .item rfl .refl (.self rfl)⟩)
    exact ⟨" const k = [9223372036854775808];".toList, _, ⟨(), rfl⟩, .refl, ⟨(), rfl⟩⟩
  · obtain ⟨hread, -⟩ := integers_exact true "009223372036854775808".toList ")".toList (by decide) rfl
    exact (hread (by decide)).2.1
  · obtain ⟨-, -, -, -, hrefused⟩ := integers_exact false "18446744073709551616".toList [] (by decide) rfl
    refine (hrefused (by decide) []).body _ (.disjunct .refl (.exclusive .refl (.conjunct .refl ?_)))
    exact .right ⟨_, rfl⟩ ⟨_, rfl⟩ (.negated ⟨[], rfl⟩ (.self rfl))

end CompiledRules
