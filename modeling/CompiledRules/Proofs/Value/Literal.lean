import CompiledRules.Proofs.Parser.Layout
import CompiledRules.Proofs.Parser.Number
import CompiledRules.Value.Printer
import Mathlib

/-!
# Reading literals of values

A finite value is read back from its literal where what follows does not go on with an operand.
-/

namespace CompiledRules.Parser

open Double (Numeral)

/-- The characters that may go on with an operand. -/
def goesOn (c : Char) : Bool := Text.isWordChar c || c == '.' || c == '['

/-- A text that does not go on with an operand. -/
abbrev EndsOperand (s : Text) : Prop := Ends goesOn s

theorem isWordChar_of_isDigit {c : Char} (h : c.isDigit = true) : Text.isWordChar c = true := by
  simp [Text.isWordChar, h]

theorem EndsOperand.word {s : Text} (h : EndsOperand s) : Ends Text.isWordChar s :=
  h.mono (by simp +contextual [goesOn])

theorem EndsOperand.numeral {s : Text} (h : EndsOperand s) : EndsNumeral s := by
  refine .of_ends (h.mono fun c hc => ?_)
  simp only [Bool.or_eq_true, beq_iff_eq] at hc
  rcases hc with ((hd | rfl) | rfl) | rfl
  · simp [goesOn, isWordChar_of_isDigit hd]
  all_goals rfl

/-- The characters that a quoted text, a number or a list starts with. -/
def startsLiteral (c : Char) : Bool := c == '"' || c == '\'' || c.isDigit || c == '-' || c == '['

/-- The characters that a value starts with. -/
def startsValue (c : Char) : Bool := startsLiteral c || Text.isWordStart c

theorem isBlank_of_startsValue {c : Char} (h : startsValue c = true) : Text.isBlank c = false := by
  have hrange : 33 ≤ c.toNat ∧ c.toNat ≤ 126 := by
    simp only [startsValue, startsLiteral, Text.isWordStart, Char.isDigit, Char.isAlpha, Char.isUpper, Char.isLower,
      Bool.or_eq_true, beq_iff_eq, Bool.and_eq_true, decide_eq_true_eq, ge_iff_le, UInt32.le_iff_toNat_le] at h
    rcases h with ((((rfl | rfl) | h) | rfl) | rfl) | ((h | h) | rfl)
    all_goals first | decide | exact ⟨Nat.le_trans (by decide) h.1, Nat.le_trans h.2 (by decide)⟩
  simp only [Text.isBlank, Bool.or_eq_false_iff, Bool.and_eq_false_iff, decide_eq_false_iff_not, beq_eq_false_iff_ne]
  omega

/-- A text that starts with a value, as far as its first character tells. -/
abbrev StartsValue (s : Text) : Prop := Ends (fun c => !startsValue c) s

theorem StartsValue.ends {s : Text} (h : StartsValue s) {accepts : Char → Bool}
    (ha : ∀ c, startsValue c = true → accepts c = false) : Ends accepts s := by
  refine h.mono fun c hc => ?_
  cases hs : startsValue c with
  | false => rfl
  | true => rw [ha c hs] at hc; cases hc

theorem StartsValue.numeral {numeral : Numeral} (hn : numeral.WellFormed) (r : Text) :
    StartsValue (numeral.text ++ r) :=
  numeral_starts hn (fun c hc => by simp [startsValue, startsLiteral, hc]) (by decide) r

/-! ## The kinds of literals -/

theorem value_skipsBlanks : SkipsBlanks value := by
  rw [value_eq]
  exact blanks_skipsBlanks.bind _

/-- A value is read by the first alternative that takes it. -/
theorem value_ok {s r : Text} {v : Value} (hs : Ends Text.isBlank s)
    (h : ((do return .string (String.ofList (← quotedText)))
      <|> number
      <|> (do return .list (← listOf value))
      <|> (do keyword "true"; return .bool true)
      <|> (do keyword "false"; return .bool false)
      <|> (do keyword "null"; return .null) : Parser Value) s = .ok (v, r)) : value s = .ok (v, r) := by
  rw [value_eq]
  exact (bind_ok (blanks_self hs)).trans (expecting_ok h)

theorem value_string (text rest : Text) :
    value (Text.quoted text ++ rest) = .ok (.string (String.ofList text), rest) := by
  refine value_ok (.cons (by decide) _) (orElse_ok ?_)
  rw [bind_ok (quotedText_append text rest), pure_apply]

theorem value_number {numeral : Numeral} (hn : numeral.WellFormed) {v : Value} {rest : Text}
    (h : number (numeral.text ++ rest) = .ok (v, rest)) : value (numeral.text ++ rest) = .ok (v, rest) := by
  have hquote : Ends (fun c => c = '"' || c = '\'') (numeral.text ++ rest) := by
    refine numeral_starts hn (fun c hc => ?_) (by decide) rest
    simp only [Bool.or_eq_false_iff, decide_eq_false_iff_not]
    exact ⟨by rintro rfl; simp at hc, by rintro rfl; simp at hc⟩
  refine value_ok ((StartsValue.numeral hn rest).ends fun _ => isBlank_of_startsValue) ?_
  rw [((quotedText_refuses hquote).bind _).orElse_eq]
  exact orElse_ok h

theorem value_list {items : List Value} {s rest : Text} (h : listOf value ('[' :: s) = .ok (items, rest)) :
    value ('[' :: s) = .ok (.list items, rest) := by
  refine value_ok (.cons (by decide) _) ?_
  rw [((quotedText_refuses (.cons (by decide) _)).bind _).orElse_eq,
    (number_refuses (.cons (by decide) _)).orElse_eq]
  exact orElse_ok (by rw [bind_ok h, pure_apply])

theorem refuses_of_startsLiteral {c : Char} (hc : startsLiteral c = false) (s : Text) :
    Refuses quotedText (c :: s) ∧ Refuses number (c :: s) ∧ Refuses (listOf value) (c :: s) := by
  simp only [startsLiteral, Bool.or_eq_false_iff, beq_eq_false_iff_ne] at hc
  obtain ⟨⟨⟨⟨hdouble, hsingle⟩, hdigit⟩, hminus⟩, hbracket⟩ := hc
  exact ⟨quotedText_refuses (.cons (by simp [hdouble, hsingle]) _), number_refuses (.cons (by simp [hdigit, hminus]) _),
    (char_refuses (.cons (by simp [hbracket]) _)).bind _⟩

/-- Where no text, number or list starts, a value is one of the three keywords. -/
theorem value_keyword {c : Char} {s r : Text} {v : Value} (hblank : Text.isBlank c = false)
    (hc : startsLiteral c = false)
    (h : ((do keyword "true"; return .bool true)
      <|> (do keyword "false"; return .bool false)
      <|> (do keyword "null"; return .null) : Parser Value) (c :: s) = .ok (v, r)) : value (c :: s) = .ok (v, r) := by
  obtain ⟨htext, hnumber, hlist⟩ := refuses_of_startsLiteral hc s
  refine value_ok (.cons hblank _) ?_
  rw [(htext.bind _).orElse_eq, hnumber.orElse_eq, (hlist.bind _).orElse_eq, h]

theorem startsLiteral_of_isWordStart {c : Char} (h : Text.isWordStart c = true) : startsLiteral c = false := by
  have hrange : 65 ≤ c.toNat ∧ c.toNat ≤ 90 ∨ 97 ≤ c.toNat ∧ c.toNat ≤ 122 ∨ c = '_' := by
    simpa [Text.isWordStart, Char.isAlpha, Char.isUpper, Char.isLower, UInt32.le_iff_toNat_le, or_assoc] using h
  have hne (d : Char) (hd : d.toNat < 65 ∨ d.toNat = 91) : c ≠ d := by
    rintro rfl
    rcases hrange with hrange | hrange | rfl
    · omega
    · omega
    · revert hd
      decide
  have hdigit : c.isDigit = false := by
    cases hdigit : c.isDigit with
    | false => rfl
    | true =>
        simp only [Char.isDigit, Bool.and_eq_true, decide_eq_true_eq, ge_iff_le, UInt32.le_iff_toNat_le] at hdigit
        have hle : c.toNat ≤ 57 := hdigit.2
        rcases hrange with hrange | hrange | rfl
        · omega
        · omega
        · exact absurd hle (by decide)
  simp [startsLiteral, hdigit, hne '"' (by decide), hne '\'' (by decide), hne '-' (by decide), hne '[' (by decide)]

/-- A word that is a value is one of the three keywords. -/
theorem value_word {w r rest : Text} {v : Value} (hw : Text.isWord w = true)
    (h : ((do keyword "true"; return .bool true)
      <|> (do keyword "false"; return .bool false)
      <|> (do keyword "null"; return .null) : Parser Value) (w ++ rest) = .ok (v, r)) :
    value (w ++ rest) = .ok (v, r) := by
  cases w with
  | nil => cases hw
  | cons c w =>
      have hstart : Text.isWordStart c = true := (Bool.and_eq_true_iff.1 hw).1
      have hblank : Text.isBlank c = false := isBlank_of_startsValue (by simp [startsValue, hstart])
      exact value_keyword hblank (startsLiteral_of_isWordStart hstart) h

theorem value_true {w rest : Text} (hw : Spells "true" w) (hr : Ends Text.isWordChar rest) :
    value (w ++ rest) = .ok (.bool true, rest) :=
  value_word (hw.isWord (by decide)) (orElse_ok (bind_ok (hw.keyword (by decide) hr)))

theorem value_false {w rest : Text} (hw : Spells "false" w) (hr : Ends Text.isWordChar rest) :
    value (w ++ rest) = .ok (.bool false, rest) := by
  have htrue : Refuses (keyword "true") (w ++ rest) := hw.keyword_refuses (by decide) (by decide) hr
  refine value_word (hw.isWord (by decide)) (((htrue.bind _).orElse_eq _).trans (orElse_ok ?_))
  exact bind_ok (hw.keyword (by decide) hr)

theorem value_null {w rest : Text} (hw : Spells "null" w) (hr : Ends Text.isWordChar rest) :
    value (w ++ rest) = .ok (.null, rest) := by
  have htrue : Refuses (keyword "true") (w ++ rest) := hw.keyword_refuses (by decide) (by decide) hr
  have hfalse : Refuses (keyword "false") (w ++ rest) := hw.keyword_refuses (by decide) (by decide) hr
  refine value_word (hw.isWord (by decide))
    (((htrue.bind _).orElse_eq _).trans (((hfalse.bind _).orElse_eq _).trans ?_))
  exact bind_ok (hw.keyword (by decide) hr)

/-! ## Lists -/

/-- The text is read as the value, where what follows does not go on with an operand. -/
def ReadsValue (v : Value) (text : Text) : Prop := ∀ r, EndsOperand r → value (text ++ r) = .ok (v, r)

theorem ReadsValue.afterBlanks {v : Value} {text u : Text} (h : ReadsValue v text) (hu : Blanks u) :
    ReadsValue v (u ++ text) := by
  intro r hr
  rw [List.append_assoc, value_skipsBlanks.append hu, h r hr]

theorem value_refuses {c : Char} (hblank : Text.isBlank c = false) (h : startsValue c = false) (s : Text) :
    Refuses value (c :: s) := by
  obtain ⟨hc, hw⟩ := Bool.or_eq_false_iff.mp h
  obtain ⟨htext, hnumber, hlist⟩ := refuses_of_startsLiteral hc s
  have hkeyword : ∀ spelling, Refuses (keyword spelling) (c :: s) := fun _ => keyword_refuses (.cons hw _)
  rw [value_eq]
  exact .bind_ok (blanks_self (.cons hblank _)) (.expecting (.orElse (htext.bind _) <| .orElse hnumber <|
    .orElse (hlist.bind _) <| .orElse ((hkeyword _).bind _) <| .orElse ((hkeyword _).bind _) ((hkeyword _).bind _)) _)

theorem goesOn_of_isBlank {c : Char} (h : Text.isBlank c = true) : goesOn c = false := by
  cases hc : goesOn c with
  | false => rfl
  | true =>
      have hrange : 33 ≤ c.toNat ∧ c.toNat ≤ 126 := by
        simp only [goesOn, Text.isWordChar, Text.isWordStart, Char.isDigit, Char.isAlpha, Char.isUpper, Char.isLower,
          Bool.or_eq_true, beq_iff_eq, Bool.and_eq_true, decide_eq_true_eq, ge_iff_le, UInt32.le_iff_toNat_le] at hc
        rcases hc with ((((hc | hc) | rfl) | hc) | rfl) | rfl
        all_goals first | decide | exact ⟨Nat.le_trans (by decide) hc.1, Nat.le_trans hc.2 (by decide)⟩
      simp only [Text.isBlank, Bool.or_eq_true, Bool.and_eq_true, decide_eq_true_eq, beq_iff_eq] at h
      omega

theorem Gap.word {g : Text} (hg : Gap g) (s : Text) : Ends Text.isWordChar (g ++ s) :=
  EndsOperand.word (hg.ends (fun _ => goesOn_of_isBlank) s)

theorem ReadsValue.list {items : List Value} {text u : Text} (h : Listed ReadsValue items text) (hu : Blanks u) :
    ReadsValue (.list items) ('[' :: (text ++ (u ++ [']']))) := by
  intro r _
  have hcomma {u : Text} (hu : Blanks u) (s : Text) :
      (do (do blanks; char ','; blanks : Parser Unit); value) (u ++ ',' :: s) = value s := by
    have hseparator : (do blanks; char ','; blanks : Parser Unit) (u ++ ',' :: s) =
        .ok ((), s.dropWhile Text.isBlank) := by
      rw [bind_ok ((blanks_append hu).trans (blanks_self (.cons (by decide) _))), bind_ok (char_self _ _), blanks_apply]
    rw [bind_ok hseparator, value_skipsBlanks]
  have hclose : Refuses (do blanks; char ','; blanks : Parser Unit) (u ++ ']' :: r) :=
    .bind_ok ((blanks_append hu).trans (blanks_self (.cons (by decide) _)))
      ((char_refuses (.cons (by decide) _)).bind _)
  have hconsumes : Consumes (do (do blanks; char ','; blanks : Parser Unit); value) :=
    Tracks.consumes (t := []) fun n => .taking (by omega) (.bind (.bind (.blanks .nil) fun _ =>
      .bind (.char (Ends.nil _)) fun _ => .blanks .nil) fun _ => .value .nil)
  obtain ⟨s, hitems, hblanks⟩ := separated_listed hconsumes hcomma
    (fun hv _ => hv.ends (fun _ => goesOn_of_isBlank) (.cons (by decide) _)) (fun hitem => hitem _) value_skipsBlanks
    h hu (by decide) (hu.ends (fun _ => goesOn_of_isBlank) (.cons (by decide) _)) (hclose.bind _)
    (value_refuses (by decide) (by decide) r)
  have htext : '[' :: (text ++ (u ++ [']'])) ++ r = '[' :: (text ++ (u ++ ']' :: r)) := by simp
  rw [htext]
  refine value_list ?_
  rw [listOf, bind_ok (char_self _ _), bind_ok (blanks_apply _), bind_ok hitems, bind_ok hblanks,
    bind_ok (commit_ok (char_self _ _)), pure_apply]

/-! ## All literals -/

theorem literal_int (n : Int64) : Value.literal (.int n) = Text.signedDecimal n.toInt := rfl

theorem literal_float (x : Double) : Value.literal (.float x) = x.literalText := rfl

theorem literal_list (items : List Value) :
    Value.literal (.list items) = '[' :: Text.commaJoined (Value.literalAll items) ++ [']'] := rfl

theorem literalAll_eq (vs : List Value) : Value.literalAll vs = vs.map Value.literal := by
  induction vs with
  | nil => rfl
  | cons v vs ih => rw [Value.literalAll, ih, List.map_cons]

theorem allFinite_iff (vs : List Value) : Value.allFinite vs = true ↔ ∀ v ∈ vs, v.isFinite = true := by
  induction vs with
  | nil => simp [Value.allFinite]
  | cons v vs ih => simp [Value.allFinite, ih]

theorem StartsValue.literal {v : Value} (hv : v.isFinite = true) (r : Text) : StartsValue (v.literal ++ r) := by
  cases v with
  | null => exact .cons (by decide) _
  | bool b => cases b <;> exact .cons (by decide) _
  | int n =>
      obtain ⟨numeral, hn, -, htext, -⟩ := exists_numeral_int n.toInt
      rw [literal_int, ← htext]
      exact .numeral hn r
  | float x =>
      obtain ⟨numeral, hn, -, htext, -⟩ := Double.exists_numeral hv
      rw [literal_float, ← htext]
      exact .numeral hn r
  | string s => exact .cons (by decide) _
  | list items => exact .cons (by decide) _

theorem readsValue_list {items : List Value} (h : ∀ v ∈ items, ReadsValue v v.literal) :
    ReadsValue (.list items) (Value.literal (.list items)) := by
  have hitems : Listed ReadsValue (items.map id) (Text.commaJoined (items.map Value.literal)) :=
    .commaJoined (R := ReadsValue) ReadsValue.afterBlanks h
  have hlist := ReadsValue.list hitems .nil
  rw [List.map_id, List.nil_append] at hlist
  rw [literal_list, literalAll_eq, List.cons_append]
  exact hlist

/-- A finite value is read back from its literal. -/
theorem value_literal : ∀ (v : Value), v.isFinite = true → ∀ rest, EndsOperand rest →
    value (v.literal ++ rest) = .ok (v, rest)
  | .null, _, _, hr => value_null (w := "null".toList) (by decide) hr.word
  | .bool true, _, _, hr => value_true (w := "true".toList) (by decide) hr.word
  | .bool false, _, _, hr => value_false (w := "false".toList) (by decide) hr.word
  | .int n, _, rest, hr => by
      obtain ⟨numeral, hn, -, htext, -⟩ := exists_numeral_int n.toInt
      rw [literal_int, ← htext]
      exact value_number hn (htext ▸ number_int n hr.numeral)
  | .float x, hx, rest, hr => by
      obtain ⟨numeral, hn, -, htext, -⟩ := Double.exists_numeral hx
      rw [literal_float, ← htext]
      exact value_number hn (htext ▸ number_float hx hr.numeral)
  | .string s, _, rest, _ => (value_string s.toList rest).trans (by rw [String.ofList_toList])
  | .list items, hf, rest, hr => by
      rw [Value.isFinite, allFinite_iff] at hf
      exact readsValue_list (fun v hv => value_literal v (hf v hv)) rest hr

end CompiledRules.Parser
