import CompiledRules.Proofs.Assembly
import Mathlib

/-!
# Quoted text stays on its line

Quoted text closes with its own last quote, whatever follows, and holds no control character. So a unit starts with the
lines that were meant for its rule, name, path and target, whatever stands in them.
-/

namespace CompiledRules

namespace Text

theorem isControl_of_isHexDigit {c : Char} (h : isHexDigit c = true) : isControl c = false := by
  have hrange : 48 ≤ c.toNat ∧ c.toNat ≤ 102 := by
    simp only [isHexDigit, Char.isDigit, Bool.or_eq_true, Bool.and_eq_true, decide_eq_true_eq, ge_iff_le,
      UInt32.le_iff_toNat_le] at h
    rcases h with (h | h) | h
    all_goals exact ⟨Nat.le_trans (by decide) h.1, Nat.le_trans h.2 (by decide)⟩
  simp only [isControl, Bool.or_eq_false_iff, Bool.and_eq_false_iff, decide_eq_false_iff_not]
  omega

theorem isControl_of_isWordChar {c : Char} (h : isWordChar c = true) : isControl c = false := by
  have hrange : 48 ≤ c.toNat ∧ c.toNat ≤ 122 := by
    simp only [isWordChar, isWordStart, Char.isDigit, Char.isAlpha, Char.isUpper, Char.isLower, Bool.or_eq_true,
      beq_iff_eq, Bool.and_eq_true, decide_eq_true_eq, ge_iff_le, UInt32.le_iff_toNat_le] at h
    rcases h with ((h | h) | rfl) | h
    all_goals first | decide | exact ⟨Nat.le_trans (by decide) h.1, Nat.le_trans h.2 (by decide)⟩
  simp only [isControl, Bool.or_eq_false_iff, Bool.and_eq_false_iff, decide_eq_false_iff_not]
  omega

theorem isControl_of_mem_numberedEscape {c d : Char} (h : d ∈ numberedEscape c) : isControl d = false := by
  simp only [numberedEscape, List.mem_append, List.mem_cons, List.not_mem_nil, or_false] at h
  rcases h with ((rfl | rfl | rfl) | h) | rfl
  · decide
  · decide
  · decide
  · exact isControl_of_isHexDigit ((Parser.hexadecimal_spec c.toNat).1 d h)
  · decide

theorem isControl_of_mem_escaped {c d : Char} (h : d ∈ escaped c) : isControl d = false := by
  rw [escaped.eq_def] at h
  split at h
  case h_6 =>
    split at h
    · exact isControl_of_mem_numberedEscape h
    · rename_i hc
      rw [List.mem_singleton.mp h]
      exact Bool.eq_false_iff.mpr hc
  all_goals
    simp only [List.mem_cons, List.not_mem_nil, or_false] at h
    rcases h with rfl | rfl <;> decide

/-- Quoted text holds no control character. -/
theorem isControl_of_mem_quoted {text : Text} {c : Char} (h : c ∈ quoted text) : isControl c = false := by
  simp only [quoted, List.mem_cons, List.mem_append, List.mem_flatMap, List.not_mem_nil, or_false] at h
  rcases h with (rfl | ⟨d, -, hd⟩) | rfl
  · decide
  · exact isControl_of_mem_escaped hd
  · decide

/-- The pieces of a text between its control characters. -/
def betweenControls (text : Text) : List Text := text.splitOnP isControl

/-- Lines without control characters are cut at their ends only. -/
theorem betweenControls_lines {lines : List Text} (h : ∀ line ∈ lines, ∀ c ∈ line, isControl c = false) (rest : Text) :
    betweenControls (lines.flatMap (· ++ ['\n']) ++ rest) = lines ++ betweenControls rest := by
  induction lines with
  | nil => rfl
  | cons line lines ih =>
      obtain ⟨hline, hlines⟩ := List.forall_mem_cons.mp h
      have hcut : (line :: lines).flatMap (· ++ ['\n']) ++ rest =
          line ++ '\n' :: (lines.flatMap (· ++ ['\n']) ++ rest) := by simp
      rw [hcut, betweenControls, List.splitOnP_append_cons_of_forall_mem hline _ (by decide), List.cons_append]
      exact congrArg (line :: ·) (ih hlines)

end Text

namespace Assembly

/-- The lines before mixins and constants: the rule comment, the name, the path and the target. -/
def openingLines (header : Header) : List Text :=
  ["// rule: ".toList ++ Text.quoted header.rule.toList,
    "unit ".toList ++ header.name.toList ++ " \x7b".toList,
    "    path ".toList ++ Text.quoted header.path.toList ++ ";".toList,
    "    target ".toList ++ Text.quoted header.variant.toList ++ ";".toList]

theorem opening_eq (header : Header) : opening header = (openingLines header).flatMap (· ++ ['\n']) := by
  have hbrace : " \x7b\n".toList = " \x7b".toList ++ ['\n'] := rfl
  have hsemicolon : ";\n".toList = ";".toList ++ ['\n'] := rfl
  unfold opening openingLines
  simp only [hbrace, hsemicolon, List.flatMap_cons, List.flatMap_nil, List.append_assoc, List.cons_append,
    List.nil_append, List.append_nil]

theorem isControl_of_mem_openingLines {header : Header} (hname : Text.isWord header.name.toList = true) :
    ∀ line ∈ openingLines header, ∀ c ∈ line, Text.isControl c = false := by
  have hword : ∀ c ∈ header.name.toList, Text.isControl c = false := by
    intro c hc
    refine Text.isControl_of_isWordChar ?_
    cases htext : header.name.toList with
    | nil => simp [htext] at hc
    | cons d w =>
        simp only [htext, Text.isWord, Bool.and_eq_true, List.all_eq_true] at hname
        rcases List.mem_cons.mp (htext ▸ hc) with rfl | hc
        · simp [Text.isWordChar, hname.1]
        · exact hname.2 c hc
  have hquoted (text : Text) : ∀ c ∈ Text.quoted text, Text.isControl c = false :=
    fun _ hc => Text.isControl_of_mem_quoted hc
  have hplain (text : String) (h : text.toList.all (!Text.isControl ·) = true) :
      ∀ c ∈ text.toList, Text.isControl c = false := by
    simpa using h
  have hsemicolon := hplain ";" rfl
  simp only [openingLines, List.forall_mem_cons, List.forall_mem_append]
  exact ⟨⟨hplain "// rule: " rfl, hquoted _⟩, ⟨⟨hplain "unit " rfl, hword⟩, hplain " \x7b" rfl⟩,
    ⟨⟨hplain "    path " rfl, hquoted _⟩, hsemicolon⟩, ⟨⟨hplain "    target " rfl, hquoted _⟩, hsemicolon⟩,
    List.forall_mem_nil _⟩

/-- An assembled unit starts with its opening lines. -/
theorem betweenControls_assemble {header : Header} {code : GeneratedCode} {source : String}
    (h : assemble header code = .ok source) :
    (Text.betweenControls source.toList).take 4 = openingLines header := by
  have hname : Text.isWord header.name.toList = true := (checkName_bind.mp h).1
  obtain ⟨-, rfl⟩ := (assemble_eq_ok hname).mp h
  have hlines := isControl_of_mem_openingLines hname
  rw [String.toList_ofList, unitText, opening_eq]
  simp only [List.append_assoc]
  rw [Text.betweenControls_lines hlines]
  exact List.take_left' rfl

/-- Quoted text is self-delimiting: whatever follows, exactly the text is read back and exactly what follows is left.
It holds no control character, so the rule comment, the path and the target of an assembled unit keep their lines. -/
theorem quoted_selfDelimiting :
    (∀ text rest : Text, Parser.quotedText (Text.quoted text ++ rest) = .ok (text, rest)) ∧
    (∀ text : Text, ∀ c ∈ Text.quoted text, Text.isControl c = false) ∧
    ∀ (header : Header) (code : GeneratedCode) (source : String), assemble header code = .ok source →
      (Text.betweenControls source.toList).take 4 = openingLines header :=
  ⟨Parser.quotedText_append, fun _ _ => Text.isControl_of_mem_quoted, fun _ _ _ => betweenControls_assemble⟩

/-- A header whose rule has two lines and quotes in it. -/
def twoLineHeader : Header :=
  ⟨"00ff", "Executor_00ff", "rulekit::compiled::Executor_00ff", "array", "a = 1\nand b = \"x\""⟩

theorem quoted_selfDelimiting_twoLines : ∃ source, assemble twoLineHeader ⟨"true", [], .empty⟩ = .ok source ∧
    ((Text.betweenControls source.toList).take 4).map String.ofList =
      ["// rule: \"a = 1\\nand b = \\\"x\\\"\"", "unit Executor_00ff \x7b",
        "    path \"rulekit::compiled::Executor_00ff\";", "    target \"array\";"] := by
  refine ⟨_, rfl, ?_⟩
  rw [quoted_selfDelimiting.2.2 twoLineHeader ⟨"true", [], .empty⟩ _ rfl]
  rfl

end Assembly

end CompiledRules
