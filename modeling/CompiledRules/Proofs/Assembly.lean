import CompiledRules.Assembly
import CompiledRules.Declaration
import CompiledRules.Proofs.Node.Printer
import Mathlib

/-!
# Assembled units

Which code can be assembled, and how the text of a unit is read back up to its body.
-/

namespace CompiledRules

open CompiledRules.Parser

/-! ## What can be assembled -/

namespace GeneratedCode

/-- Every name that the code gives is a word, and every constant is finite. -/
structure Writable (code : GeneratedCode) : Prop where
  mixins : ∀ mixin ∈ code.mixins, Text.isWord mixin.toList = true
  keys : ∀ entry ∈ code.data.entries, Text.isWord entry.1.toList = true
  finite : ∀ entry ∈ code.data.entries, entry.2.isFinite = true

end GeneratedCode

namespace Assembly

/-- The line of a mixin. -/
def mixinLine (mixin : String) : Text := "    use ".toList ++ mixin.toList ++ ";\n".toList

/-- The line of a constant. -/
def constantLine (entry : String × Value) : Text :=
  "    const ".toList ++ entry.1.toList ++ " = ".toList ++ entry.2.literal ++ ";\n".toList

/-- The text of a unit around its body. -/
def unitText (header : Header) (code : GeneratedCode) : Text :=
  opening header ++ paragraph (code.mixins.flatMap mixinLine) ++ paragraph (code.data.entries.flatMap constantLine) ++
    '\n' :: signature ++ code.body.toList ++ closing

theorem checkName_bind {α : Type} {kind name : String} {next : Except AssemblyError α} {a : α} :
    (checkName kind name >>= fun _ => next) = .ok a ↔ Text.isWord name.toList = true ∧ next = .ok a := by
  unfold checkName
  split
  · rename_i h
    exact (and_iff_right h).symm
  · rename_i h
    exact ⟨nofun, fun h' => absurd h'.1 h⟩

theorem mixinLines_cons (mixin : String) (mixins : List String) : mixinLines (mixin :: mixins) = (do
    checkName "mixin" mixin
    return mixinLine mixin ++ (← mixinLines mixins)) := rfl

theorem constantLines_cons (entry : String × Value) (entries : List (String × Value)) :
    constantLines (entry :: entries) = (do
      checkName "field" entry.1
      if entry.2.isFinite then return constantLine entry ++ (← constantLines entries)
      else .error (.nonLiteral entry.1)) := by
  obtain ⟨key, value⟩ := entry
  rw [constantLines, Value.literal?]
  by_cases h : value.isFinite = true
  · simp only [h, ↓reduceIte]
    rfl
  · simp only [h, Bool.false_eq_true, ↓reduceIte]

theorem prepend_eq_ok {line lines : Text} {rest : Except AssemblyError Text} :
    (do return line ++ (← rest)) = Except.ok lines ↔ ∃ others, rest = .ok others ∧ lines = line ++ others := by
  cases rest with
  | error e => exact ⟨nofun, nofun⟩
  | ok others => exact ⟨fun h => ⟨others, rfl, (Except.ok.inj h).symm⟩, fun ⟨_, h, h'⟩ => by cases h; rw [h']; rfl⟩

theorem mixinLines_eq_ok {mixins : List String} {lines : Text} : mixinLines mixins = .ok lines ↔
    (∀ mixin ∈ mixins, Text.isWord mixin.toList = true) ∧ lines = mixins.flatMap mixinLine := by
  induction mixins generalizing lines with
  | nil => exact ⟨fun h => ⟨nofun, (Except.ok.inj h).symm⟩, fun h => by rw [h.2]; rfl⟩
  | cons mixin mixins ih =>
      rw [mixinLines_cons, checkName_bind, prepend_eq_ok, List.forall_mem_cons, List.flatMap_cons, and_assoc]
      simp only [ih, and_assoc, exists_and_left, exists_eq_left]

theorem constantLines_eq_ok {entries : List (String × Value)} {lines : Text} : constantLines entries = .ok lines ↔
    (∀ entry ∈ entries, Text.isWord entry.1.toList = true ∧ entry.2.isFinite = true) ∧
      lines = entries.flatMap constantLine := by
  induction entries generalizing lines with
  | nil => exact ⟨fun h => ⟨nofun, (Except.ok.inj h).symm⟩, fun h => by rw [h.2]; rfl⟩
  | cons entry entries ih =>
      rw [constantLines_cons, checkName_bind, List.forall_mem_cons, List.flatMap_cons, and_assoc, and_assoc]
      refine and_congr_right fun _ => ?_
      split
      · rename_i hf
        simp only [prepend_eq_ok, ih, hf, true_and, and_assoc, exists_and_left, exists_eq_left]
      · rename_i hf
        exact ⟨nofun, fun h => absurd h.1 hf⟩

/-- Code is assembled exactly if it is writable, and the text of the unit is known. -/
theorem assemble_eq_ok {header : Header} (hname : Text.isWord header.name.toList = true) {code : GeneratedCode}
    {source : String} : assemble header code = .ok source ↔
      code.Writable ∧ source = String.ofList (unitText header code) := by
  unfold assemble
  rw [checkName_bind, and_iff_right hname]
  constructor
  · intro h
    cases hm : mixinLines code.mixins with
    | error e => rw [hm] at h; cases h
    | ok mixins =>
        cases hc : constantLines code.data.entries with
        | error e => rw [hm, hc] at h; cases h
        | ok constants =>
            rw [hm, hc] at h
            obtain ⟨hwords, rfl⟩ := mixinLines_eq_ok.mp hm
            obtain ⟨hentries, rfl⟩ := constantLines_eq_ok.mp hc
            exact ⟨⟨hwords, fun x hx => (hentries x hx).1, fun x hx => (hentries x hx).2⟩, (Except.ok.inj h).symm⟩
  · rintro ⟨hw, rfl⟩
    rw [mixinLines_eq_ok.mpr ⟨hw.mixins, rfl⟩,
      constantLines_eq_ok.mpr ⟨fun x hx => ⟨hw.keys x hx, hw.finite x hx⟩, rfl⟩]
    rfl

theorem checkName_of_isWord {kind name : String} (h : Text.isWord name.toList = true) : checkName kind name = .ok () :=
  if_pos h

/-- Where all names are words, the first constant that is not finite has no line. -/
theorem constantLines_eq_error {entries : List (String × Value)} {entry : String × Value}
    (hwords : ∀ x ∈ entries, Text.isWord x.1.toList = true)
    (hfirst : entries.find? (fun x => !x.2.isFinite) = some entry) :
    constantLines entries = .error (.nonLiteral entry.1) := by
  induction entries with
  | nil => cases hfirst
  | cons x entries ih =>
      obtain ⟨hx, hwords⟩ := List.forall_mem_cons.mp hwords
      rw [constantLines_cons, checkName_of_isWord hx]
      cases hfinite : x.2.isFinite with
      | true =>
          rw [List.find?_cons_of_neg (by simp [hfinite])] at hfirst
          rw [ih hwords hfirst]
          rfl
      | false =>
          rw [List.find?_cons_of_pos (by simp [hfinite])] at hfirst
          cases hfirst
          rfl

theorem assemble_eq_error {header : Header} (hname : Text.isWord header.name.toList = true) {code : GeneratedCode}
    (hmixins : ∀ mixin ∈ code.mixins, Text.isWord mixin.toList = true)
    (hkeys : ∀ x ∈ code.data.entries, Text.isWord x.1.toList = true) {entry : String × Value}
    (hfirst : code.data.entries.find? (fun x => !x.2.isFinite) = some entry) :
    assemble header code = .error (.nonLiteral entry.1) := by
  rw [assemble, checkName_of_isWord hname, mixinLines_eq_ok.mpr ⟨hmixins, rfl⟩, constantLines_eq_error hkeys hfirst]
  rfl

end Assembly

namespace Declaration.Grammar

/-! ## Lines -/

theorem mixin_skipsBlanks : SkipsBlanks mixin := (blanks_skipsBlanks.bind _).bind _

theorem constant_skipsBlanks : SkipsBlanks constant := (blanks_skipsBlanks.bind _).bind _

theorem tracks_spacedKeyword (spelling : String) (n : Nat) :
    Tracks [] 1 n (spacedKeyword spelling) (spacedKeyword spelling) :=
  .taking (by omega) (.bind (.blanks .nil) fun _ => .bind (.keyword .nil spelling) fun _ => .blanks .nil)

theorem mixin_consumes : Consumes mixin :=
  Tracks.consumes (t := []) fun n => .taking (by omega) (.bind (tracks_spacedKeyword "use" n) fun _ => .commit
    (.bind (.word .nil) fun _ => .bind (.bind (.blanks .nil) fun _ => .char (Ends.nil _)) fun _ => .pure _))

theorem constant_consumes : Consumes constant :=
  Tracks.consumes (t := []) fun n => .taking (by omega) (.bind (tracks_spacedKeyword "const" n) fun _ => .commit
    (.bind (.word .nil) fun _ => .bind (.bind (.blanks .nil) fun _ => .char (Ends.nil _)) fun _ =>
      .bind (.value .nil) fun _ => .bind (.bind (.blanks .nil) fun _ => .char (Ends.nil _)) fun _ => .pure _))

theorem spacedChar_self {c : Char} (hc : Text.isBlank c = false) (s : Text) : spacedChar c (c :: s) = .ok ((), s) :=
  (bind_ok (blanks_self (.cons hc _))).trans (char_self _ _)

theorem isWord_starts {w : Text} (hw : Text.isWord w = true) (s : Text) : Ends Text.isBlank (w ++ s) := by
  cases w with
  | nil => cases hw
  | cons c w =>
      simp only [Text.isWord, Bool.and_eq_true] at hw
      exact .cons (isBlank_of_startsValue (by simp [startsValue, hw.1])) _

theorem mixin_line {name : String} (hname : Text.isWord name.toList = true) (s : Text) :
    mixin (Assembly.mixinLine name ++ s) = .ok (name, '\n' :: s) := by
  have hkeyword : ∀ t, spacedKeyword "use" ("    use ".toList ++ t) = blanks t := fun _ => rfl
  have htext : Assembly.mixinLine name ++ s = "    use ".toList ++ (name.toList ++ ';' :: '\n' :: s) := by
    unfold Assembly.mixinLine
    simp only [List.append_assoc]
    rfl
  rw [htext, mixin, bind_ok ((hkeyword _).trans (blanks_self (isWord_starts hname _)))]
  refine commit_ok ?_
  rw [bind_ok (word_append hname (.cons (by decide) _)), bind_ok (spacedChar_self (by decide) _), pure_apply,
    String.ofList_toList]

theorem constant_line {entry : String × Value} (hkey : Text.isWord entry.1.toList = true)
    (hvalue : entry.2.isFinite = true) (s : Text) :
    constant (Assembly.constantLine entry ++ s) = .ok (entry, '\n' :: s) := by
  have hkeyword : ∀ t, spacedKeyword "const" ("    const ".toList ++ t) = blanks t := fun _ => rfl
  have htext : Assembly.constantLine entry ++ s =
      "    const ".toList ++ (entry.1.toList ++ ' ' :: '=' :: ' ' :: (entry.2.literal ++ ';' :: '\n' :: s)) := by
    unfold Assembly.constantLine
    simp only [List.append_assoc]
    rfl
  have hequals : ∀ t, spacedChar '=' (' ' :: '=' :: t) = .ok ((), t) := fun _ => rfl
  rw [htext, constant, bind_ok ((hkeyword _).trans (blanks_self (isWord_starts hkey _)))]
  refine commit_ok ?_
  rw [bind_ok (word_append hkey (.cons (by decide) _)), bind_ok (hequals _),
    bind_ok ((value_skipsBlanks.cons (by decide) _).trans (value_literal _ hvalue _ (.cons (by decide) _))),
    bind_ok (spacedChar_self (by decide) _), pure_apply, String.ofList_toList]

/-- A paragraph of lines is read line by line, from the end of the line before it on. -/
theorem many_paragraph {α : Type} {p : Parser α} (hp : Consumes p) (hskip : SkipsBlanks p) {line : α → Text}
    {items : List α} (hline : ∀ x ∈ items, ∀ s, p (line x ++ s) = .ok (x, '\n' :: s)) {s : Text} (hs : Refuses p s) :
    many p ('\n' :: (Assembly.paragraph (items.flatMap line) ++ s)) = .ok (items, '\n' :: s) := by
  have hnewline : ∀ t, p ('\n' :: t) = p t := hskip.cons (by decide)
  have hlines : ∀ xs ⊆ items, many p ('\n' :: (xs.flatMap line ++ s)) = .ok (xs, '\n' :: s) := by
    intro xs hxs
    induction xs with
    | nil =>
        obtain ⟨e, he, hc⟩ := hs
        exact many_stop ((hnewline s).trans he) hc
    | cons x xs ih =>
        refine hp.many_cons ?_ (ih fun y hy => hxs (List.mem_cons_of_mem _ hy))
        rw [hnewline, List.flatMap_cons, List.append_assoc, hline x (hxs List.mem_cons_self)]
  cases hempty : (items.flatMap line).isEmpty with
  | true =>
      have hall := hlines items fun _ h => h
      rw [List.isEmpty_iff.mp hempty] at hall ⊢
      exact hall
  | false =>
      cases items with
      | nil => cases hempty
      | cons x xs =>
          have hparagraph : Assembly.paragraph ((x :: xs).flatMap line) = '\n' :: (x :: xs).flatMap line := by
            rw [Assembly.paragraph, hempty, if_neg (by decide)]
          refine hp.many_cons ?_ (hlines xs fun y hy => List.mem_cons_of_mem _ hy)
          rw [hparagraph, hnewline, List.cons_append, hnewline, List.flatMap_cons, List.append_assoc,
            hline x List.mem_cons_self]

/-! ## The unit up to its body -/

theorem ruleComment_line (rule : String) (s : Text) :
    ruleComment ("// rule: ".toList ++ Text.quoted rule.toList ++ s) = .ok (rule, s) := by
  have hslashes : ∀ t, spacedText "//" ("// rule: ".toList ++ t) = .ok ((), " rule: ".toList ++ t) := fun _ => rfl
  have hrule : ∀ t, spacedText "rule:" (" rule: ".toList ++ t) = .ok ((), ' ' :: t) := fun _ => rfl
  rw [List.append_assoc, ruleComment]
  refine expecting_ok ?_
  rw [bind_ok (hslashes _), bind_ok (hrule _),
    bind_ok ((blanks_cons (by decide) _).trans (blanks_self (quoted_starts (by decide) _ _))),
    bind_ok (commit_ok (quotedText_append _ _)), pure_apply, String.ofList_toList]

theorem unitName_line {name : String} (hname : Text.isWord name.toList = true) (s : Text) :
    unitName ('\n' :: ("unit ".toList ++ (name.toList ++ (" \x7b\n".toList ++ s)))) = .ok (name, '\n' :: s) := by
  have hkeyword : ∀ t, spacedKeyword "unit" ('\n' :: ("unit ".toList ++ t)) = blanks t := fun _ => rfl
  have hbrace : ∀ t, blanks (" \x7b\n".toList ++ t) = .ok ((), '\x7b' :: '\n' :: t) := fun _ => rfl
  have hends : ∀ t, Ends Text.isWordChar (" \x7b\n".toList ++ t) := fun _ => .cons (by decide) _
  rw [unitName]
  refine expecting_ok ?_
  rw [bind_ok ((hkeyword _).trans (blanks_self (isWord_starts hname _))),
    bind_ok (commit_ok (word_append hname (hends _))), bind_ok (hbrace _),
    bind_ok (commit_ok (char_self _ _)), pure_apply, String.ofList_toList]

theorem directive_line {spelling : String} {start : Text}
    (hstart : ∀ t, spacedKeyword spelling ('\n' :: (start ++ t)) = blanks t) (text : String) (s : Text) :
    directive spelling ('\n' :: (start ++ (Text.quoted text.toList ++ (";\n".toList ++ s)))) =
      .ok (text, '\n' :: s) := by
  have hsemicolon : ∀ t, blanks (";\n".toList ++ t) = .ok ((), ';' :: '\n' :: t) := fun _ => rfl
  rw [directive, bind_ok ((hstart _).trans (blanks_self (quoted_starts (by decide) _ _))),
    bind_ok (commit_ok (quotedText_append _ _)), bind_ok (hsemicolon _), bind_ok (commit_ok (char_self _ _)),
    pure_apply, String.ofList_toList]

theorem signature_eq : Assembly.signature =
    [' ', ' ', ' ', ' ', 'f', 'n', ' ', 'e', 'x', 'e', 'c', 'u', 't', 'e', '(', '$', 't', 'a', 'r', 'g', 'e', 't',
      ',', ' ', '$', 'o', 'p', 'e', 'r', 'a', 't', 'o', 'r', 's', ',', ' ', '$', 'p', 'a', 'r', 'a', 'm', 'e', 't',
      'e', 'r', 's', ')', ' ', '\x7b', '\n', ' ', ' ', ' ', ' ', ' ', ' ', ' ', ' ', 'r', 'e', 't', 'u', 'r', 'n',
      ' '] :=
  String.toList_ofList

/-- Neither a constant nor the method is taken for a mixin. -/
theorem mixin_refuses (entries : List (String × Value)) (s : Text) :
    Refuses mixin
      (Assembly.paragraph (entries.flatMap Assembly.constantLine) ++ '\n' :: (Assembly.signature ++ s)) := by
  cases entries with
  | nil =>
      rw [signature_eq]
      exact ⟨_, rfl, rfl⟩
  | cons entry entries =>
      have hparagraph : Assembly.paragraph ((entry :: entries).flatMap Assembly.constantLine) =
          '\n' :: ("    const ".toList ++ ((entry.1.toList ++ " = ".toList ++ entry.2.literal ++ ";\n".toList) ++
            entries.flatMap Assembly.constantLine)) := by
        rw [List.flatMap_cons]
        unfold Assembly.constantLine
        simp only [List.append_assoc]
        rfl
      rw [hparagraph]
      exact ⟨_, rfl, rfl⟩

/-- What comes after the constants of a unit. -/
def ending (header : Header) (code : GeneratedCode) : Parser Declaration := do
  let body ← commit method
  blanks
  commit (char '\x7d')
  blanks
  return ⟨header.rule, header.name, header.path, header.variant, code.mixins, code.data.entries, body⟩

theorem unit_unitText {header : Header} (hname : Text.isWord header.name.toList = true) {code : GeneratedCode}
    (hw : code.Writable) : unit (Assembly.unitText header code) = ending header code
      ('\n' :: '\n' :: (Assembly.signature ++ (code.body.toList ++ Assembly.closing))) := by
  have htext : Assembly.unitText header code =
      "// rule: ".toList ++ Text.quoted header.rule.toList ++ '\n' ::
      ("unit ".toList ++ (header.name.toList ++ (" \x7b\n".toList ++
      ("    path ".toList ++ (Text.quoted header.path.toList ++ (";\n".toList ++
      ("    target ".toList ++ (Text.quoted header.variant.toList ++ (";\n".toList ++
      (Assembly.paragraph (code.mixins.flatMap Assembly.mixinLine) ++
      (Assembly.paragraph (code.data.entries.flatMap Assembly.constantLine) ++
      '\n' :: (Assembly.signature ++ (code.body.toList ++ Assembly.closing))))))))))))) := by
    unfold Assembly.unitText Assembly.opening
    simp only [List.append_assoc, List.cons_append]
  have hconstant : Refuses constant ('\n' :: (Assembly.signature ++ (code.body.toList ++ Assembly.closing))) := by
    rw [signature_eq]
    exact ⟨_, rfl, rfl⟩
  have hmixins := many_paragraph mixin_consumes mixin_skipsBlanks
    (fun x hx s => mixin_line (hw.mixins x hx) s)
    (mixin_refuses code.data.entries (code.body.toList ++ Assembly.closing))
  have hconstants := many_paragraph constant_consumes constant_skipsBlanks
    (fun x hx s => constant_line (hw.keys x hx) (hw.finite x hx) s) hconstant
  rw [htext, unit, bind_ok (ruleComment_line _ _), bind_ok (unitName_line hname _),
    bind_ok (directive_line (fun _ => rfl) _ _), bind_ok (directive_line (fun _ => rfl) _ _), bind_ok hmixins,
    bind_ok hconstants, ending]

end Declaration.Grammar

end CompiledRules
